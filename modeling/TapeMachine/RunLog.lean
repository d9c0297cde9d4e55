/-
The run log: one line of JSON for every run.

A log lives in a directory, which is made when the log is opened, and writes to one
file a day.  Lines are only ever added at the end.

* **`RunLog.openIn`** — makes the directory and fixes the day;
* **`RunLog.write`** — adds one entry;
* **`RunLog.entry`** — the entry for a run.

Design notes:

* The file's name is joined to the directory as a path.  A prefix that holds a slash
  therefore leads elsewhere.
* A directory is made on account of the one below it.  So a path with too many names that
  are missing ends the command without a report, and before any of them is made.
-/
import TapeMachine.Files.Source
import TapeMachine.Json.Writer

namespace TapeMachine

variable {m : Type → Type} [Monad m] [Host m]

/-- Makes the directory at a path, and those on the way to it, as long as there is room for one
more.  One that exists is welcome. -/
def makeDirectories (p : Path) : Nat → Action m (Except FileError Unit)
  | 0 => Action.crash .tooManyDirectories
  | room + 1 => do
    match ← Host.makeDirectory p.text with
    | .ok () => pure (.ok ())
    | .error .notFound =>
      if p.names = [] then pure (.error .notFound)
      else
        match ← makeDirectories p.parent room with
        | .error e => pure (.error e)
        | .ok () => again
    | .error e => unlessDirectory e
where
  /-- An error, unless the path is a directory after all. -/
  unlessDirectory (e : FileError) : Action m (Except FileError Unit) := do
    match ← Host.isDirectory p.text with
    | .ok true => pure (.ok ())
    | _ => pure (.error e)
  /-- The second try, when the directories on the way are there. -/
  again : Action m (Except FileError Unit) := do
    match ← Host.makeDirectory p.text with
    | .ok () => pure (.ok ())
    | .error .notFound => pure (.error .notFound)
    | .error e => unlessDirectory e

/-- An open log. -/
structure RunLog where
  directory : Path
  /-- The day that the log was opened on. -/
  today : String
  file : Path
deriving DecidableEq, Repr

namespace RunLog

/-- The file of a day in a directory. -/
def fileOf (directory : Path) (filePrefix today : String) : Path :=
  directory.join (Path.ofString (filePrefix ++ today ++ ".jsonl"))

/-- Opens the log in a directory. -/
def openIn (directory filePrefix : String) : Action m RunLog := do
  let dir := Path.ofString directory
  Action.guardPath directory
  match ← makeDirectories dir (← Host.depths).directories with
  | .error e => Action.fail (.unwritableLog dir.text e.reason)
  | .ok () =>
    let today := (← Host.now).date
    pure { directory := dir, today, file := fileOf dir filePrefix today }

/-- The line of an entry. -/
def line (entry : Json.Value) : String :=
  String.ofList (Json.write entry ++ ['\n'])

/-- Adds an entry. -/
def write (log : RunLog) (entry : Json.Value) : Action m Json.Value := do
  Action.guardPath log.file.text
  match ← Host.appendFile log.file.text (Utf8.encode (line entry)) with
  | .error e => Action.fail (.unwritableLog log.file.text e.reason)
  | .ok () => pure entry

/-- The entry for a run that ended at a point of time, with its failure if it failed. -/
def entry (time : Time) (program tape : String) (machine : Machine) (steps : Int)
    (failure : Option Failure) : Json.Value :=
  .object
    [("timestamp", .str time.stamp), ("program", .str program), ("tape", .str tape),
     ("steps", .int steps), ("outcome", .str (if failure.isSome then "error" else "halted")),
     ("error", failure.elim .null fun f => .str f.message), ("final_state", .str machine.state),
     ("head", .int machine.head), ("final_tape", .array (machine.tape.map .str))]

/-- Adds the entry for a run. -/
def writeRun (log : RunLog) (program tape : String) (machine : Machine) (steps : Int)
    (failure : Option Failure) : Action m Json.Value := do
  let time ← Host.now
  log.write (entry time program tape machine steps failure)

end RunLog

end TapeMachine
