/-
Source files: rule tables and tapes on disk.

A source file is strict UTF-8 with any mixture of line ends.  Its path is tidied
before it is opened, but failures name it as it was given.

* **`decodeText`** — bytes to text, with line feeds as the only line ends;
* **`readSource`** — the text of a file.
-/
import TapeMachine.Failure
import TapeMachine.Host
import TapeMachine.Text.Newline

namespace TapeMachine

/-- The text that bytes encode, with its line ends made uniform. -/
def decodeText (bytes : List UInt8) : Except Utf8.Defect String :=
  match Utf8.decode bytes with
  | .error defect => .error defect
  | .ok chars => .ok (String.ofList (Text.normalizeNewlines chars))

/-- A computation among surroundings that may end a command. -/
abbrev Action (m : Type → Type) := ExceptT Problem m

namespace Action

variable {m : Type → Type} [Monad m]

/-- Ends the command with a failure that is reported. -/
def fail {α : Type} (f : Failure) : Action m α :=
  throw (.failure f)

/-- Ends the command with a failure that nothing handles. -/
def crash {α : Type} (c : Crash) : Action m α :=
  throw (.crash c)

/-- Ends the command if a path holds U+0000. -/
def guardPath (path : String) : Action m Unit :=
  if Path.hasNull path then crash .nullInPath else pure ()

end Action

variable {m : Type → Type} [Monad m] [Host m]

/-- The text of a source file. -/
def readSource (path : String) : Action m String := do
  Action.guardPath path
  match ← Host.readFile (Path.ofString path).text with
  | .error e => Action.fail (.unreadable path e.reason)
  | .ok bytes =>
    match decodeText bytes with
    | .error defect => Action.fail (.unreadable path defect.message)
    | .ok text => pure text

end TapeMachine
