/-
The parts of the simulator in a world: what each hands back, and what it leaves behind.

* **`Simulator.looks_configuration`** — settling the configuration changes nothing;
* **`Simulator.perform_play`** — a run prints what it shows, and changes nothing else;
* **`Simulator.attempted_writeRun`** — an attempt to log a run, which hands back how it went;
* **`Simulator.perform_runLogged_some`** — a run and then its entry in the log;
* **`Simulator.perform_openLog`** — a log is opened if one is asked for.
-/
import TapeMachine.Command.Simulator
import TapeMachine.Proofs.Reachable
import TapeMachine.Proofs.Resumption
import TapeMachine.Proofs.Surroundings

namespace TapeMachine

/-- The failure that a run ended with, if it was one that is reported. -/
def Run.failure? (limit : Int) (r : Run) : Option Failure :=
  match r.ending.problem? limit with
  | some (.failure f) => some f
  | _ => none

namespace Simulator

open TapeMachine.Action World

variable {w w' : World} {rules : List Rule} {limit : Int} {program tape : String}

/-! ### Reading -/

/-- Settling the configuration changes nothing. -/
theorem looks_loaded (r : Request) :
    Looks (fun _ => True) (r.loaded : Action (StateM World) Config) := by
  rw [Request.loaded]
  split
  · exact Config.looks_load none
  · exact Config.looks_load _
  · exact looks_crash trivial

theorem looks_configuration (r : Request) :
    Looks (fun _ => True) (r.configuration : Action (StateM World) Config) :=
  (looks_loaded r).bind fun _ => looks_pure _

theorem perform_configuration (w : World) (r : Request) :
    w.perform r.configuration = ((w.perform r.loaded).1.map r.withLog, w) := by
  rw [Request.configuration, perform_bind, (looks_loaded r).perform_eq w]
  rcases (w.perform r.loaded).1 with p | c <;> rfl

/-- The rules of a file are those of its text. -/
theorem perform_loadRules (w : World) (path : String) :
    w.perform (loadRules path) =
      (match (w.perform (readSource path)).1 with
        | .error p => .error p
        | .ok text =>
          match readProgram text with
          | .error e => .error (.failure (.badRule e))
          | .ok rules => .ok rules, w) := by
  rw [loadRules, perform_bind, (looks_readSource path).perform_eq w]
  rcases (w.perform (readSource path)).1 with p | text
  · rfl
  · dsimp only
    rcases readProgram text with e | rules <;> rfl

/-- The symbols of a file are those of its text. -/
theorem perform_loadTape (w : World) (path : String) :
    w.perform (loadTape path) = ((w.perform (readSource path)).1.map readTape, w) := by
  rw [loadTape, perform_bind, (looks_readSource path).perform_eq w]
  rcases (w.perform (readSource path)).1 with p | text <;> rfl

theorem perform_failWithUsage {α : Type} (w : World) (name : String) (f : Failure) :
    w.perform (failWithUsage name f : Action (StateM World) α) =
      (.error (.failure f),
        { w with err := w.err ++ Report.usage (helpText [usageLine name]) }) :=
  rfl

/-! ### Playing -/

/-- The world after a run: what the run shows is printed. -/
def afterRun (w : World) (r : Run) : World :=
  { w with out := w.out ++ r.text }

theorem trace_append (shown more : List Machine) :
    Machine.trace (shown ++ more) = Machine.trace shown ++ Machine.trace more := by
  rw [Machine.trace, List.map_append, String.join_append]
  rfl

/-- The rounds of a run print what the run shows. -/
theorem perform_playFrom (w : World) (rules : List Rule) (limit : Int) (rounds : Nat)
    (machine : Machine) :
    w.perform (playFrom rules limit rounds machine) =
      (.ok ((Machine.runFrom rules limit rounds machine []).machine,
          (Machine.runFrom rules limit rounds machine []).ending),
        afterRun w (Machine.runFrom rules limit rounds machine [])) := by
  induction rounds generalizing w machine with
  | zero =>
    have hout : w.out ++ Machine.trace [] = w.out := String.append_empty
    rw [Machine.runFrom, afterRun, Run.text, List.reverse_nil, hout]
    rfl
  | succ rounds ih =>
    have hprint := w.perform_print (Machine.trace [machine])
    rw [playFrom, perform_bind_ok hprint, Machine.runFrom]
    rcases machine.turn rules limit with machine' | ⟨machine', e⟩
    · dsimp only
      rw [ih, Machine.runFrom_shown rules limit rounds machine' [machine], Run.followedBy,
        afterRun, afterRun, Run.text, Run.text, List.reverse_singleton, trace_append,
        String.append_assoc]
    · rfl

/-- A run prints what it shows, and changes nothing else. -/
theorem perform_play (w : World) (rounds : Nat) (rules : List Rule) (limit : Int)
    (machine : Machine) :
    w.perform (play rounds rules limit machine) =
      (.ok ((machine.run rounds rules limit).machine, (machine.run rounds rules limit).ending),
        afterRun w (machine.run rounds rules limit)) := by
  rw [play, Machine.run]
  split
  · have hout : w.out ++ Machine.trace [] = w.out := String.append_empty
    rw [afterRun, Run.text, hout]
    rfl
  · exact perform_playFrom w rules limit rounds machine

/-! ### Logging -/

section Attempts

variable {α β : Type}

/-- What an action hands back that is attempted inside a command, and the world that it leaves. -/
def attempted (w : World) (a : Action (Action (StateM World)) α) :
    Except Problem (Except Problem α) × World :=
  w.perform a.run

theorem attempted_bind_ok {a : Action (Action (StateM World)) α}
    {f : α → Action (Action (StateM World)) β} {x : α} (h : attempted w a = (.ok (.ok x), w')) :
    attempted w (a >>= f) = attempted w' (f x) := by
  have hbind : attempted w (a >>= f) =
      w.perform (a.run >>= ExceptT.bindCont f : Action (StateM World) _) := rfl
  rw [hbind, perform_bind_ok h]
  rfl

theorem attempted_bind_error {a : Action (Action (StateM World)) α}
    {f : α → Action (Action (StateM World)) β} {p : Problem}
    (h : attempted w a = (.ok (.error p), w')) :
    attempted w (a >>= f) = (.ok (.error p), w') := by
  have hbind : attempted w (a >>= f) =
      w.perform (a.run >>= ExceptT.bindCont f : Action (StateM World) _) := rfl
  rw [hbind, perform_bind_ok h]
  rfl

theorem attempted_appendFile (w : World) (path : String) (bytes : List UInt8) :
    attempted w (Host.appendFile path bytes) =
      (.ok (w.perform (Host.appendFile path bytes)).1,
        (w.perform (Host.appendFile path bytes)).2) :=
  rfl

/-- An attempt to log a run hands back how it went. -/
theorem attempted_writeRun (w : World) (log : RunLog) (program tape : String) (machine : Machine)
    (steps : Int) (failure : Option Failure) :
    attempted w (log.writeRun program tape machine steps failure) =
      (.ok (w.perform (log.writeRun program tape machine steps failure)).1,
        (w.perform (log.writeRun program tape machine steps failure)).2) := by
  have hnow : attempted w Host.now = (.ok (.ok w.clock), w) := rfl
  rw [perform_writeRun, perform_write, RunLog.writeRun, attempted_bind_ok hnow, RunLog.write]
  by_cases hnull : Path.hasNull log.file.text = true
  · have hguard : attempted w (guardPath log.file.text) =
        (.ok (.error (.crash .nullInPath)), w) := by
      rw [guardPath, if_pos hnull]
      rfl
    rw [attempted_bind_error hguard, if_pos hnull]
  · have hguard : attempted w (guardPath log.file.text) = (.ok (.ok ()), w) := by
      rw [guardPath, if_neg hnull]
      rfl
    have happend := attempted_appendFile w log.file.text
      (Utf8.encode (RunLog.line (RunLog.entry w.clock program tape machine steps failure)))
    rw [perform_appendFile] at happend
    rw [attempted_bind_ok hguard, if_neg hnull]
    split at happend
    · rw [attempted_bind_ok happend]
      rfl
    · rw [attempted_bind_ok happend]
      rfl

end Attempts

/-! ### A run and its entry -/

/-- A run from the first cell of a tape crashes in no way but by being abandoned. -/
theorem eq_abandoned_of_crash {symbols : List String} (hne : symbols ≠ []) {policy : Overflow}
    {rounds : Nat} {c : Crash}
    (h : ((Machine.onTape symbols policy).run rounds rules limit).ending.problem? limit =
      some (.crash c)) :
    c = .abandoned := by
  obtain ⟨-, -, -, hcell⟩ :=
    (Machine.wellFormed_onTape hne policy).runFrom hne rules limit rounds []
  have hrun : (Machine.onTape symbols policy).run rounds rules limit =
      Machine.runFrom rules limit rounds (Machine.onTape symbols policy) [] := rfl
  rw [← hrun] at hcell
  rcases hending : ((Machine.onTape symbols policy).run rounds rules limit).ending with
    _ | (_ | head | head) | _ | _ <;> rw [hending] at h hcell
  · cases h
  · cases h
  · cases h
  · exact absurd rfl (hcell head)
  · cases h
  · cases h
    rfl

/-- A run without a log fails if the run does. -/
theorem perform_runLogged_none (w : World) (rounds : Nat) (program tape : String)
    (rules : List Rule) (limit : Int) (start : Machine) :
    w.perform (runLogged rounds none program tape rules limit start) =
      (match (start.run rounds rules limit).ending.problem? limit with
        | some p => .error p
        | none => .ok (),
       afterRun w (start.run rounds rules limit)) := by
  rw [runLogged, perform_bind_ok (perform_play w rounds rules limit start)]
  dsimp only
  rcases (start.run rounds rules limit).ending.problem? limit with _ | f | c <;> rfl

/-- A run with a log is logged, with its failure if it failed.  That failure is the one that the
command ends with, unless the log crashes. -/
theorem perform_runLogged_some (w : World) (rounds : Nat) (log : RunLog) (program tape : String)
    (rules : List Rule) (limit : Int) (start : Machine) :
    w.perform (runLogged rounds (some log) program tape rules limit start) =
      let r := start.run rounds rules limit
      let logged := (afterRun w r).perform
        (log.writeRun program tape r.machine r.machine.steps (r.failure? limit))
      match r.ending.problem? limit with
      | some (.crash c) => (.error (.crash c), afterRun w r)
      | some (.failure f) =>
        match logged with
        | (.ok _, w') => (.error (.failure f), w')
        | (.error (.failure e), w') =>
          (.error (.failure f), { w' with err := w'.err ++ Report.error e.message })
        | (.error (.crash c), w') => (.error (.crash c), w')
      | none =>
        match logged with
        | (.ok _, w') => (.ok (), w')
        | (.error p, w') => (.error p, w') := by
  rw [runLogged, perform_bind_ok (perform_play w rounds rules limit start)]
  -- From here on the run matters only by how it ended and by what it showed.
  generalize start.run rounds rules limit = r
  dsimp only
  rw [Run.failure?]
  rcases r.ending.problem? limit with _ | f | c
  · dsimp only
    rw [perform_bind]
    rcases (afterRun w r).perform (log.writeRun program tape r.machine r.machine.steps none) with
      ⟨p | v, w'⟩ <;> rfl
  · dsimp only
    rw [perform_bind, logFailure, perform_bind]
    have hattempt := attempted_writeRun (afterRun w r) log program tape r.machine r.machine.steps
      (some f)
    rw [attempted] at hattempt
    rw [hattempt]
    rcases (afterRun w r).perform
      (log.writeRun program tape r.machine r.machine.steps (some f)) with ⟨(e | c) | v, w'⟩ <;> rfl
  · rfl

/-! ### Opening the log -/

theorem perform_openLog (w : World) (config : Config) :
    w.perform (openLog config) =
      if config.logRuns then
        match w.perform (RunLog.openIn config.outputDirectory config.logFilePrefix) with
        | (.ok log, w') => (.ok (some log), w')
        | (.error p, w') => (.error p, w')
      else (.ok none, w) := by
  rw [openLog]
  split
  · rw [map_eq_pure_bind, perform_bind]
    rcases w.perform (RunLog.openIn config.outputDirectory config.logFilePrefix) with
      ⟨p | log, w'⟩ <;> rfl
  · rfl

end Simulator

end TapeMachine
