/-
What the commands share: how they end, and how their usage is written.

* **`Exit`** — the end of a command;
* **`finish`** — the report of a failure, and the status;
* **`helpText`** — lines of help as one text.
-/
import TapeMachine.Arguments
import TapeMachine.Files.Source
import TapeMachine.Report

namespace TapeMachine

/-- The end of a command, with its status. -/
inductive Exit where
  /-- The command came to its end and handed back the status. -/
  | finished (status : Nat)
  /-- The program was left at once, on a request for help or on misuse. -/
  | left (status : Nat)
deriving DecidableEq, Repr

/-- The status of an end. -/
def Exit.status : Exit → Nat
  | .finished status => status
  | .left status => status

/-- The characters with no more than two line feeds in a row, after `run` line feeds. -/
def closeGaps (run : Nat) : List Char → List Char
  | [] => []
  | c :: rest =>
    if c = '\n' then
      if run < 2 then c :: closeGaps (run + 1) rest else closeGaps run rest
    else c :: closeGaps 0 rest

/-- Lines of help, with gaps of at most one line between them. -/
def helpText (lines : List String) : String :=
  String.ofList (closeGaps 0 ("\n".intercalate lines ++ "\n").toList)

variable {m : Type → Type} [Monad m] [Host m]

/-- Ends a command that has done its work or failed. -/
def finish {α : Type} (action : Action m α) : m (Except Crash Exit) := do
  match ← action.run with
  | .ok _ => pure (.ok (.finished 0))
  | .error (.failure f) =>
    Host.warn (Report.error f.message)
    pure (.ok (.finished 1))
  | .error (.crash c) => pure (.error c)

end TapeMachine
