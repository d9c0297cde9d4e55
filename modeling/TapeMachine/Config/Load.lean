/-
Configuration files.

* **`Config.load`** — the configuration of a file, or the defaults without one.

Design notes:

* The path is used as it is spelled, so `c.json/` names no file.  Where the file
  exists but cannot be read, the system's number for the reason is given as well.
* Bytes that are not UTF-8, integers of too many digits, and arrays and objects in too many
  others end the command without a report.
-/
import TapeMachine.Config
import TapeMachine.Files.Source
import TapeMachine.Json.Depth

namespace TapeMachine.Config

variable {m : Type → Type} [Monad m] [Host m]

/-- Ends the command for the sake of the configuration. -/
def refuse {α : Type} (reason : String) : Action m α :=
  Action.fail (.badConfig reason)

/-- Whether anything exists at a path.  A path that holds U+0000 leads nowhere. -/
def pathExists (path : String) : Action m Bool := do
  if Path.hasNull path then return false
  return (← Host.isDirectory path).isOk

/-- The JSON value of a text that was read from a file. -/
def readJson (path text : String) : Action m Json.Value := do
  match Json.tooDeep? (← Host.depths).parts text.toList with
  | some c => Action.crash (.nestedTooDeep c)
  | none =>
    match Json.read text.toList with
    | .ok v => pure v
    | .error (.unexpected e rest) =>
      refuse s!"could not load {path}: {e.message text.toList rest}"
    | .error (.integerTooLong digits) => Action.crash (.integerTooLong digits)

/-- The JSON value of a file. -/
def loadJson (path : String) : Action m Json.Value := do
  match ← Host.readFile path with
  | .error e =>
    refuse s!"could not load {path}: [Errno {e.number}] {e.reason}: {Text.quoted path}"
  | .ok bytes =>
    match decodeText bytes with
    | .error defect => Action.crash (.undecodable defect)
    | .ok text => readJson path text

/-- The configuration at a path, or the defaults if no path is given. -/
def load : Option String → Action m Config
  | none => pure {}
  | some path => do
    if !(← pathExists path) then refuse s!"configuration file not found at {path}"
    else
      match ← loadJson path with
      | .object ms =>
        match override ms with
        | .ok c => pure c
        | .error f => refuse f.reason
      | _ => refuse s!"{path} must contain a JSON object"

end TapeMachine.Config
