/-
The simulator: runs a rule table over a tape and prints every step.

    alan <input.alan> <input.tape> [--config CONFIG] [--log-dir LOG_DIR]

* **`Simulator.Request.ofArguments`** — what the arguments ask for;
* **`Simulator.prepare`** — everything that a run needs;
* **`Simulator.play`** — a run that prints each machine as it is reached;
* **`Simulator.main`** — the whole command.

Design notes:

* Arguments are read twice.  The first reading takes the options out, and the second
  finds the operands in what is left: the program and the tape are the first two
  operands that follow each other with no unknown option between them.
* What is wrong shows in this order: arguments, configuration, program, tape, log
  directory, run.
-/
import TapeMachine.Command
import TapeMachine.Config.Load
import TapeMachine.Machine.Setup
import TapeMachine.Rule.Reader
import TapeMachine.RunLog

namespace TapeMachine.Simulator

/-- What the arguments ask for.  A setting may be given without a value. -/
structure Request where
  program : Option String
  tape : Option String
  config : Option (Option String)
  logDirectory : Option (Option String)
deriving DecidableEq, Repr

namespace Request

/-- The options that the simulator knows. -/
def known : List Flag :=
  [.help, .setting .config, .setting .logDirectory]

/-- The items without the divider, if no operand stands before it. -/
def dropDivider : List Item → List Item
  | [] => []
  | .divider :: rest => rest
  | .operand text :: rest => .operand text :: rest
  | item :: rest => item :: dropDivider rest

/-- What the items of both readings ask for. -/
def ofItems (first second : List Item) : Request :=
  let (program, after) := slot (second.dropWhile (!·.inRun))
  { program, tape := (slot after).1
    config := lastValue? .config (first ++ second)
    logDirectory := lastValue? .logDirectory (first ++ second) }

/-- What the arguments ask for. -/
def ofArguments (d : Dialect) (arguments : List String) : Except Stop Request :=
  match resolve d known arguments with
  | .error s => .error s
  | .ok first =>
    match resolve d known ((dropDivider first).filterMap Item.text?) with
    | .error s => .error s
    | .ok second => .ok (ofItems first second)

end Request

/-- The usage line. -/
def usageLine (name : String) : String :=
  s!"usage: {name} <input.alan> <input.tape>"

/-- The help as text. -/
def help (name : String) : String :=
  helpText
    [usageLine name,
     "",
     "Run an alan Turing machine program over a tape, printing every step.",
     "",
     "positional arguments:",
     "  program            Rule table, five tokens per rule: STATE READ WRITE (-> |",
     "                     <-) NEXT",
     "  tape               Initial tape symbols, left to right",
     "",
     "options:",
     "  -h, --help         show this help message and exit",
     "  --config CONFIG    Path to a JSON runtime configuration",
     "  --log-dir LOG_DIR  Write a JSON-lines run log into this directory"]

variable {m : Type → Type} [Monad m] [Host m]

/-- Reports the usage and then fails. -/
def failWithUsage {α : Type} (name : String) (f : Failure) : Action m α := do
  Host.warn (Report.usage (helpText [usageLine name]))
  Action.fail f

/-- The configuration that is loaded for a request. -/
def Request.loaded (r : Request) : Action m Config :=
  match r.config with
  | none => Config.load none
  | some (some path) => Config.load (some path)
  | some none => Action.crash .noConfigPath

/-- A configuration with the log turned on, if a request names a directory for it. -/
def Request.withLog (r : Request) (c : Config) : Config :=
  match r.logDirectory with
  | some (some directory) =>
    if directory = "" then c else { c with logRuns := true, outputDirectory := directory }
  | _ => c

/-- The configuration that a request asks for. -/
def Request.configuration (r : Request) : Action m Config := do
  return r.withLog (← r.loaded)

/-- The rules of a file. -/
def loadRules (path : String) : Action m (List Rule) := do
  match readProgram (← readSource path) with
  | .error e => Action.fail (.badRule e)
  | .ok rules => pure rules

/-- The symbols of a file. -/
def loadTape (path : String) : Action m (List String) := do
  return readTape (← readSource path)

/-- Everything that a run needs. -/
structure Setup where
  config : Config
  /-- The path of the rules. -/
  program : String
  /-- The path of the tape. -/
  tape : String
  rules : List Rule
  machine : Machine
deriving DecidableEq, Repr

/-- Reads what a request asks for, up to the machine at its start. -/
def prepare (name : String) (r : Request) : Action m Setup := do
  let config ← r.configuration
  let some program := r.program | failWithUsage name (.missingArgument "input.alan")
  let rules ← loadRules program
  let some tape := r.tape | failWithUsage name (.missingArgument "input.tape")
  let symbols ← loadTape tape
  match Machine.ofTape symbols config.policy with
  | .error f => Action.fail f
  | .ok machine => pure { config, program, tape, rules, machine }

/-- The log of a configuration, if it asks for one. -/
def openLog (config : Config) : Action m (Option RunLog) :=
  if config.logRuns then some <$> RunLog.openIn config.outputDirectory config.logFilePrefix
  else pure none

/-- A run of at most `rounds` rounds, each of which prints the machine first. -/
def playFrom (rules : List Rule) (limit : Int) : Nat → Machine → m (Machine × Ending)
  | 0, machine => pure (machine, .abandoned)
  | rounds + 1, machine => do
    Host.print (Machine.trace [machine])
    match machine.turn rules limit with
    | .stop machine' e => pure (machine', e)
    | .goOn machine' => playFrom rules limit rounds machine'

/-- A run of at most `rounds` rounds that prints each machine as it is reached. -/
def play (rounds : Nat) (rules : List Rule) (limit : Int) (machine : Machine) :
    m (Machine × Ending) :=
  if machine.halted then pure (machine, .halted)
  else playFrom rules limit rounds machine

/-- Logs a run that failed.  If the log fails as well, that is reported and no more. -/
def logFailure (log : Option RunLog) (program tape : String) (machine : Machine) (f : Failure) :
    Action m Unit := do
  match log with
  | none => pure ()
  | some log =>
    match ← (log.writeRun program tape machine machine.steps (some f)).run with
    | .ok _ => pure ()
    | .error (.failure e) => Host.warn (Report.error e.message)
    | .error (.crash c) => Action.crash c

/-- Runs a machine to the end, and logs the run. -/
def runLogged (rounds : Nat) (log : Option RunLog) (program tape : String) (rules : List Rule)
    (limit : Int) (start : Machine) : Action m Unit := do
  let (machine, ending) ← play rounds rules limit start
  match ending.problem? limit with
  | some (.failure f) =>
    logFailure log program tape machine f
    Action.fail f
  | some (.crash c) => Action.crash c
  | none =>
    match log with
    | none => pure ()
    | some log =>
      let _ ← log.writeRun program tape machine machine.steps none

/-- Does what a request asks for, in a run of at most `rounds` rounds. -/
def serve (rounds : Nat) (name : String) (r : Request) : Action m Unit := do
  let s ← prepare name r
  let log ← openLog s.config
  runLogged rounds log s.program s.tape s.rules s.config.maxSteps s.machine

/-- The command under a name.  A run that would have more than `rounds` rounds is abandoned. -/
def main (name : String) (arguments : List String) (rounds : Nat := Machine.endlessly)
    (d : Dialect := .early) : m (Except Crash Exit) := do
  match Request.ofArguments d arguments with
  | .ok r => finish (serve rounds name r)
  | .error (.misuse e) => finish (failWithUsage (α := Unit) name (.usage e.message))
  | .error .help =>
    Host.print (help name)
    pure (.ok (.left 0))

end TapeMachine.Simulator
