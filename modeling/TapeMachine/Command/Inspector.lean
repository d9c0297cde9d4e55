/-
The inspector: prints the listing of a rule table.

    alan-inspect [-h] program

* **`Inspector.program`** — the file that the arguments name;
* **`Inspector.inspect`** — reads the file and prints the listing;
* **`Inspector.main`** — the whole command.

Design notes:

* The command is named after the last part of the path it was called by.
* Without a file the command says so, whatever else is wrong with the arguments.
-/
import TapeMachine.Command
import TapeMachine.Rule.Layout
import TapeMachine.Rule.Reader

namespace TapeMachine.Inspector

/-- Why the command does not start. -/
inductive Refusal where
  | stop (s : Stop)
  | noProgram
  | unrecognized (arguments : List String)
deriving DecidableEq, Repr

/-- The file that the arguments name, which must be all that they say. -/
def program (d : Dialect) (arguments : List String) : Except Refusal String :=
  match resolve d [.help] arguments with
  | .error s => .error (.stop s)
  | .ok items =>
    match slot (items.dropWhile (!·.inRun)) with
    | (none, _) => .error .noProgram
    | (some path, after) =>
      match (items.takeWhile (!·.inRun) ++ after).filterMap Item.text? with
      | [] => .ok path
      | extra => .error (.unrecognized extra)

/-- The longest name that leaves room for the arguments on the usage line. -/
def longestName : Nat := 58

/-- The usage line, which is two lines if the name is long. -/
def usageLine (name : String) : String :=
  if name = "" then "usage: [-h] program"
  else if name.length > longestName then s!"usage: {name}\n       [-h] program"
  else s!"usage: {name} [-h] program"

/-- The usage as text. -/
def usage (name : String) : String :=
  helpText [usageLine name]

/-- The help as text. -/
def help (name : String) : String :=
  helpText
    [usageLine name,
     "",
     "Print the rule table of an alan program",
     "",
     "positional arguments:",
     "  program     Path to the .alan program",
     "",
     "options:",
     "  -h, --help  show this help message and exit"]

variable {m : Type → Type} [Monad m] [Host m]

/-- Prints the listing of a file. -/
def inspect (path : String) : Action m Unit := do
  let source ← readSource path
  match readProgram source with
  | .error e => Action.fail (.badRule e)
  | .ok rules =>
    let listing := Listing.ofRules rules s!"Rules in {path}"
    let (text, notes) := listing.text
    notes.forM fun note => Host.warn (note.message ++ "\n")
    match text with
    | .error f => Action.crash (.noLayout f)
    | .ok text =>
      Host.print text
      Host.print s!"[INFO] {rules.length} rules, {listing.markedCount} shadowed.\n"

/-- Leaves the program for misuse. -/
def misused (name message : String) : m (Except Crash Exit) := do
  Host.warn (usage name ++ s!"{name}: error: {message}\n")
  pure (.ok (.left 2))

/-- The command, called by a path. -/
def main (calledBy : String) (arguments : List String) (d : Dialect := .early) :
    m (Except Crash Exit) := do
  let name := Path.lastPiece calledBy
  match program d arguments with
  | .ok path => finish (inspect path)
  | .error (.stop .help) =>
    Host.print (help name)
    pure (.ok (.left 0))
  | .error (.stop (.misuse e)) => misused name e.message
  | .error .noProgram => misused name "the following arguments are required: program"
  | .error (.unrecognized extra) =>
    misused name ("unrecognized arguments: " ++ " ".intercalate extra)

end TapeMachine.Inspector
