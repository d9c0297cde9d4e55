/-
Turning the log on.

The same command is carried out twice: as it is, and with the option for the log in
front of its arguments.  Both read the same and prepare the same run.  Then the one with
a log makes the directory, which only the tree shows, and adds the entry of the run when
the run has ended.

* **`Simulator.perform_prepare_logIn`** — the preparations differ in the configuration only;
* **`Simulator.perform_runLogged_of_append`** — a run that is logged goes on as one that is not;
* **`Simulator.Invocation.Told`** — what an entry says of a run;
* **`Simulator.Invocation.log_changes_nothing_else`** — the two commands side by side.

Design notes:

* A run that is abandoned stands for one that never ends, and has no entry.
-/
import TapeMachine.Proofs.ArgumentReading
import TapeMachine.Proofs.AsciiText
import TapeMachine.Proofs.FileTree
import TapeMachine.Proofs.Phases

namespace TapeMachine.Simulator

open TapeMachine.Action World

/-! ### The same preparation -/

/-- A configuration with the log turned on, in a directory. -/
def logIn (directory : String) (c : Config) : Config :=
  { c with logRuns := true, outputDirectory := directory }

/-- The same preparation for a run that is logged in a directory. -/
def Setup.logIn (directory : String) (s : Setup) : Setup :=
  { s with config := Simulator.logIn directory s.config }

variable {r : Request} {directory : String}

/-- A directory for the log changes nothing but the configuration. -/
theorem perform_prepare_logIn (w : World) (name : String) (hnone : r.logDirectory = none)
    (hdirectory : directory ≠ "") :
    w.perform (prepare name { r with logDirectory := some (some directory) }) =
      ((w.perform (prepare name r)).1.map (Setup.logIn directory),
        (w.perform (prepare name r)).2) := by
  have hplain : ∀ c, r.withLog c = c := by
    intro c
    rw [Request.withLog, hnone]
  have hlogged : ∀ c, Request.withLog { r with logDirectory := some (some directory) } c =
      logIn directory c := by
    intro c
    rw [Request.withLog]
    exact if_neg hdirectory
  have hloaded :
      Request.loaded (m := StateM World) { r with logDirectory := some (some directory) } =
        r.loaded := rfl
  -- The two are taken through the same reads, and part at the configuration alone.
  rw [prepare, prepare, perform_bind, perform_bind, perform_configuration, perform_configuration,
    hloaded]
  rcases (w.perform r.loaded).1 with p | c
  · rfl
  dsimp only [Except.map]
  rw [hplain, hlogged]
  rcases r.program with _ | program
  · rfl
  dsimp only
  rw [perform_bind, perform_bind]
  rcases w.perform (loadRules program) with ⟨p | rules, w⟩
  · rfl
  dsimp only
  rcases r.tape with _ | tape
  · rfl
  dsimp only
  rw [perform_bind, perform_bind]
  rcases w.perform (loadTape tape) with ⟨p | symbols, w⟩
  · rfl
  have hpolicy : (logIn directory c).policy = c.policy := rfl
  dsimp only
  rw [hpolicy]
  rcases Machine.ofTape symbols c.policy with f | machine <;> rfl

/-! ### The same run -/

/-- Whether a log can be kept in a directory: it can be opened there, and whatever is added to its
file can be added. -/
def Loggable (w : World) (directory filePrefix : String) : Prop :=
  ∃ log tree, w.perform (RunLog.openIn directory filePrefix) = (.ok log, { w with tree }) ∧
    Path.hasNull log.file.text = false ∧
    ∀ bytes, ∃ tree', tree.append w.cwd log.file.text bytes = .ok tree'

/-- The entry of a run that was prepared. -/
def entryOf (w : World) (s : Setup) (run : Run) : Json.Value :=
  RunLog.entry w.clock s.program s.tape run.machine run.machine.steps
    (run.failure? s.config.maxSteps)

/-- How a run makes the command go on: it may fail or crash. -/
def resultOf (s : Setup) (run : Run) : Except Problem Unit :=
  match run.ending.problem? s.config.maxSteps with
  | some p => .error p
  | none => .ok ()

variable {w : World} {s : Setup} {rounds : Nat} {run : Run} {log : RunLog} {tree : Tree}

theorem ending_eq_abandoned {limit : Int}
    (h : run.ending.problem? limit = some (.crash .abandoned)) : run.ending = .abandoned := by
  rcases hending : run.ending with _ | (_ | head | head) | _ | _ <;> rw [hending] at h
  · cases h
  · cases h
  · cases h
  · cases h
  · cases h

/-- A run that was abandoned is not logged. -/
theorem perform_runLogged_of_abandoned (hrun : s.machine.run rounds s.rules s.config.maxSteps = run)
    (hends : run.ending = .abandoned) (log : Option RunLog) :
    w.perform (runLogged rounds log s.program s.tape s.rules s.config.maxSteps s.machine) =
      (resultOf s run, afterRun w run) := by
  have hproblem : run.ending.problem? s.config.maxSteps = some (.crash .abandoned) := by
    rw [hends]
    rfl
  rcases log with _ | log
  · rw [perform_runLogged_none, hrun, resultOf, hproblem]
  · rw [perform_runLogged_some, hrun, resultOf]
    dsimp only
    rw [hproblem]

/-- A run that has ended goes on in the same way when it has been logged. -/
theorem perform_runLogged_of_append (hrun : s.machine.run rounds s.rules s.config.maxSteps = run)
    (hcrash : ∀ c, run.ending.problem? s.config.maxSteps = some (.crash c) → c = .abandoned)
    (hends : run.ending ≠ .abandoned) (hnull : Path.hasNull log.file.text = false)
    (happend : w.tree.append w.cwd log.file.text
      (Utf8.encode (RunLog.line (entryOf w s run))) = .ok tree) :
    w.perform (runLogged rounds (some log) s.program s.tape s.rules s.config.maxSteps s.machine) =
      (resultOf s run, { afterRun w run with tree }) := by
  have hwrite : (afterRun w run).perform (log.writeRun s.program s.tape run.machine
      run.machine.steps (run.failure? s.config.maxSteps)) =
        (.ok (entryOf w s run), { afterRun w run with tree }) :=
    perform_writeRun_of_append hnull happend
  rw [perform_runLogged_some, hrun, resultOf]
  dsimp only
  rw [hwrite]
  rcases hproblem : run.ending.problem? s.config.maxSteps with _ | f | c
  · rfl
  · rfl
  · rw [hcrash c hproblem] at hproblem
    exact absurd (ending_eq_abandoned hproblem) hends

/-! ### The end of the command -/

/-- Ending a command does nothing to the tree. -/
theorem tree_finish (w : World) (a : Action (StateM World) Unit) :
    ((finish a : StateM World (Except Crash Exit)) w).2.tree = (w.perform a).2.tree := by
  rw [finish_eq]
  rcases w.perform a with ⟨(f | c) | x, w'⟩ <;> rfl

/-- Commands that differ in what they do to the tree end in the same way. -/
theorem finish_congr {w : World} {a b : Action (StateM World) Unit}
    (hresult : (w.perform a).1 = (w.perform b).1) (hout : (w.perform a).2.out = (w.perform b).2.out)
    (herr : (w.perform a).2.err = (w.perform b).2.err) :
    ((finish a : StateM World (Except Crash Exit)) w).1 =
        ((finish b : StateM World (Except Crash Exit)) w).1 ∧
      ((finish a : StateM World (Except Crash Exit)) w).2.out =
        ((finish b : StateM World (Except Crash Exit)) w).2.out ∧
      ((finish a : StateM World (Except Crash Exit)) w).2.err =
        ((finish b : StateM World (Except Crash Exit)) w).2.err := by
  rw [finish_eq, finish_eq]
  rcases ha : w.perform a with ⟨ra, wa⟩
  rcases hb : w.perform b with ⟨rb, wb⟩
  rw [ha, hb] at hresult hout herr
  cases hresult
  rcases ra with (f | c) | x
  · exact ⟨rfl, hout, congrArg (· ++ _) herr⟩
  · exact ⟨rfl, hout, herr⟩
  · exact ⟨rfl, hout, herr⟩

namespace Invocation

/-- The same command with the log turned on. -/
def logIn (directory : String) (i : Invocation) : Invocation :=
  { i with arguments := "--log-dir" :: directory :: i.arguments }

/-- Everything that the run needs, if all of it is there.  The run is started if and only if it
is. -/
def setup? (i : Invocation) : Option Setup :=
  i.request?.bind fun r => (i.sees (prepare i.name r)).toOption

/-- What the entry of a run says of it. -/
structure Told (i : Invocation) (s : Setup) (run : Run) : Prop where
  good : run.failure? s.config.maxSteps = none → i.outcome.1 = .ok (.finished 0)
  /-- The failure in the entry is the one that is reported. -/
  bad : ∀ f, run.failure? s.config.maxSteps = some f → i.outcome.1 = .ok (.finished 1) ∧
    i.outcome.2.err = i.world.err ++ Report.error f.message
  /-- The steps in the entry are the transitions that were made, and lead to its state and head. -/
  steps : ∃ c, Course.after (Machine.step · s.rules) run.machine.steps s.machine = some c ∧
    c.state = run.machine.state ∧ c.head = run.machine.head
  limit : run.ending = .limitExceeded → run.machine.steps = s.config.maxSteps + 1

variable {i : Invocation} {r : Request} {s : Setup} {symbols : List String} {run : Run}
  {directory : String}

/-- A run that was cut has made one transition more than its limit. -/
theorem steps_of_limitExceeded {m : Machine} (hm : m.halted = false) (hsteps : m.steps = 0)
    (rules : List Rule) (limit rounds : Nat)
    (h : (m.run rounds rules limit).ending = .limitExceeded) :
    (m.run rounds rules limit).machine.steps = limit + 1 := by
  obtain ⟨-, hafter, -⟩ := Machine.after_of_cut hm h
  rw [Machine.steps_after hafter, Machine.turnsWithin, hsteps]
  omega

/-- What a command without a log does when everything is there. -/
theorem perform_serve_of_prepare (hprepare : i.world.perform (prepare i.name r) = (.ok s, i.world))
    (hlog : s.config.logRuns = false)
    (hrun : s.machine.run i.rounds s.rules s.config.maxSteps = run) :
    i.world.perform (serve i.rounds i.name r) = (resultOf s run, afterRun i.world run) := by
  rw [serve, perform_bind_ok hprepare, perform_bind, perform_openLog, hlog]
  show i.world.perform
    (runLogged i.rounds none s.program s.tape s.rules s.config.maxSteps s.machine) = _
  rw [perform_runLogged_none, hrun]
  rfl

/-- What it does with a log: the log is opened, and the run goes on from there. -/
theorem perform_serve_logIn (hnone : r.logDirectory = none) (hdirectory : directory ≠ "")
    (hprepare : i.world.perform (prepare i.name r) = (.ok s, i.world)) {log : RunLog} {tree : Tree}
    (hopen : i.world.perform (RunLog.openIn directory s.config.logFilePrefix) =
      (.ok log, { i.world with tree })) :
    i.world.perform (serve i.rounds i.name { r with logDirectory := some (some directory) }) =
      { i.world with tree }.perform
        (runLogged i.rounds (some log) s.program s.tape s.rules s.config.maxSteps s.machine) := by
  have hlogged : i.world.perform (prepare i.name { r with logDirectory := some (some directory) }) =
      (.ok (s.logIn directory), i.world) := by
    rw [perform_prepare_logIn i.world i.name hnone hdirectory, hprepare]
    rfl
  have hopened : i.world.perform (openLog (s.logIn directory).config) =
      (.ok (some log), { i.world with tree }) := by
    have hon : (s.logIn directory).config.logRuns = true := rfl
    have hopen' : i.world.perform (RunLog.openIn (s.logIn directory).config.outputDirectory
        (s.logIn directory).config.logFilePrefix) = (.ok log, { i.world with tree }) := hopen
    rw [perform_openLog, if_pos hon, hopen']
  rw [serve, perform_bind_ok hlogged, perform_bind_ok hopened]
  rfl

/-- The entry of a run tells the truth. -/
theorem Ready.told (h : Ready i r s symbols)
    (hr : Request.ofArguments i.dialect i.arguments = .ok r)
    (hserve : i.world.perform (serve i.rounds i.name r) = (resultOf s run, afterRun i.world run))
    (hrun : s.machine.run i.rounds s.rules s.config.maxSteps = run)
    (hends : run.ending ≠ .abandoned) : i.Told s run := by
  have houtcome := outcome_of_request hr
  rw [finish_eq, hserve, resultOf] at houtcome
  have hcrash := h.crash_eq
  have hmachine : s.machine.halted = false ∧ s.machine.steps = 0 := by
    rw [h.machine_eq]
    exact ⟨rfl, rfl⟩
  have hsteps := Machine.exists_after_run hmachine.1 hmachine.2 s.rules s.config.maxSteps i.rounds
  have hlimit := steps_of_limitExceeded hmachine.1 hmachine.2 s.rules s.config.maxSteps i.rounds
  rw [hrun] at hcrash hsteps hlimit
  refine ⟨fun hgood => ?_, fun f hbad => ?_, hsteps, hlimit⟩
  · rw [Run.failure?] at hgood
    rcases hproblem : run.ending.problem? s.config.maxSteps with _ | f | c <;>
      rw [hproblem] at hgood houtcome
    · rw [houtcome]
    · cases hgood
    · rw [hcrash c hproblem] at hproblem
      exact absurd (ending_eq_abandoned hproblem) hends
  · rw [Run.failure?] at hbad
    rcases hproblem : run.ending.problem? s.config.maxSteps with _ | f | c <;>
      rw [hproblem] at hbad houtcome
    · cases hbad
    · cases hbad
      rw [houtcome]
      exact ⟨rfl, rfl⟩
    · cases hbad

/-- Without what a run needs, a log does not matter. -/
theorem perform_serve_of_unprepared (hnone : r.logDirectory = none) (hdirectory : directory ≠ "")
    {p : Problem} {w : World}
    (hprepare : i.world.perform (prepare i.name r) = (.error p, w)) :
    i.world.perform (serve i.rounds i.name { r with logDirectory := some (some directory) }) =
        (.error p, w) ∧
      i.world.perform (serve i.rounds i.name r) = (.error p, w) := by
  have hlogged : i.world.perform (prepare i.name { r with logDirectory := some (some directory) }) =
      (.error p, w) := by
    rw [perform_prepare_logIn i.world i.name hnone hdirectory, hprepare]
    rfl
  rw [serve, serve]
  exact ⟨perform_bind_error hlogged, perform_bind_error hprepare⟩

/-- The directory of the log was made, with those on the way to it, and the file of the log has
grown by one line, the entry of a run. -/
def LoggedOnce (i : Invocation) (directory : String) (s : Setup) (run : Run) (tree : Tree) : Prop :=
  ∃ (log : RunLog) (opened : Tree) (text : List Char),
    i.world.perform (RunLog.openIn directory s.config.logFilePrefix) =
      (.ok log, { i.world with tree := opened }) ∧
    i.world.tree.MadeDirectories opened ∧
    opened.Grown i.world.cwd log.file.text (Utf8.encode (RunLog.line (entryOf i.world s run)))
      tree ∧
    (RunLog.line (entryOf i.world s run)).toList = text ++ ['\n'] ∧
    ∀ c ∈ text, Text.IsPrintableAscii c

/-- Arguments that ask for nothing end the command in the same way. -/
theorem outcome_congr_of_stop {j : Invocation} {e : Stop}
    (hi : Request.ofArguments i.dialect i.arguments = .error e)
    (hj : Request.ofArguments j.dialect j.arguments = .error e) (hname : j.name = i.name)
    (hworld : j.world = i.world) : j.outcome = i.outcome ∧ i.outcome.2.tree = i.world.tree := by
  have hsame : j.outcome = i.outcome := by
    rw [outcome, outcome, Simulator.main, Simulator.main, hi, hj, hname, hworld]
    cases e <;> rfl
  refine ⟨hsame, ?_⟩
  rcases e with _ | e
  · rw [outcome, Simulator.main, hi]
    rfl
  · rw [outcome_of_misuse hi]

/-- **Turning the log on does not change the run, and the run is logged once.**  Let the arguments
name no directory for the log and the configuration leave it off, and let a log be kept in
`directory`.

With the log turned on by an option in front of the arguments, the command ends in the same way,
prints the same and reports the same.  If a run is started and ends, the file of the log grows by
one line, which tells how the run ended.  If none is started, the tree is unchanged. -/
theorem log_changes_nothing_else (i : Invocation) (directory : String)
    (hdash : directory.toList.head? ≠ some '-') (hdirectory : directory ≠ "")
    (hnone : ∀ r, i.request? = some r → r.logDirectory = none)
    (hconfig : ∀ c, i.config? = some c →
      c.logRuns = false ∧ Loggable i.world directory c.logFilePrefix) :
    let j := i.logIn directory
    j.outcome.1 = i.outcome.1 ∧ j.outcome.2.out = i.outcome.2.out ∧
      j.outcome.2.err = i.outcome.2.err ∧
      (i.setup? = none → j.outcome.2.tree = i.world.tree) ∧
      ∀ s run, i.setup? = some s → s.machine.run i.rounds s.rules s.config.maxSteps = run →
        run.ending ≠ .abandoned →
          i.Told s run ∧ LoggedOnce i directory s run j.outcome.2.tree := by
  intro j
  have hrequest : ∀ r, Request.ofArguments i.dialect i.arguments = .ok r → i.request? = some r :=
    fun _ => request?_eq_some_iff.mpr
  have hj : Request.ofArguments j.dialect j.arguments =
      (Request.ofArguments i.dialect i.arguments).map fun r =>
        { r with logDirectory := some (some directory) } :=
    ofArguments_logDirectory hdash i.arguments fun r hr => hnone r (hrequest r hr)
  rcases hr : Request.ofArguments i.dialect i.arguments with e | r
  · obtain ⟨hsame, htree⟩ := outcome_congr_of_stop (j := j) hr (by rw [hj, hr]; rfl) rfl rfl
    have hsetup : i.setup? = none := by
      rw [setup?, request?, hr]
      rfl
    rw [hsame, hsetup]
    exact ⟨rfl, rfl, rfl, fun _ => htree, fun s run hs => absurd hs (Option.some_ne_none s).symm⟩
  rw [hr] at hj
  -- From here on the two commands are compared before their ends.
  have hi' : i.outcome = _ := outcome_of_request hr
  have hj' : j.outcome = _ := outcome_of_request hj
  have hsetup : i.setup? = (i.world.perform (prepare i.name r)).1.toOption := by
    rw [setup?, hrequest r hr]
    rfl
  have hplain := hnone r (hrequest r hr)
  have hprepared := preparation_prepare hr
  -- What happens to the tree is all that may differ before the end of the command.
  have hend : ∀ (x : Except Problem Unit) (w : World) (tree : Tree),
      i.world.perform (serve i.rounds i.name r) = (x, w) →
      i.world.perform (serve i.rounds i.name { r with logDirectory := some (some directory) }) =
        (x, { w with tree }) →
      j.outcome.1 = i.outcome.1 ∧ j.outcome.2.out = i.outcome.2.out ∧
        j.outcome.2.err = i.outcome.2.err ∧ j.outcome.2.tree = tree := by
    intro x w tree hx hx'
    rw [hi', hj', tree_finish]
    obtain ⟨h1, h2, h3⟩ := finish_congr (w := i.world)
      (a := serve i.rounds i.name { r with logDirectory := some (some directory) })
      (b := serve i.rounds i.name r) (by rw [hx, hx']) (by rw [hx, hx']) (by rw [hx, hx'])
    refine ⟨h1, h2, h3, ?_⟩
    show (i.world.perform (serve i.rounds i.name _)).2.tree = tree
    rw [hx']
  rw [hsetup]
  generalize hprepare : i.world.perform (prepare i.name r) = result at hprepared ⊢
  cases hprepared with
  | @failed phase f hphase hreached hf =>
    obtain ⟨hlogged, hserve⟩ := perform_serve_of_unprepared hplain hdirectory hprepare
    obtain ⟨h1, h2, h3, htree⟩ := hend _ _ i.world.tree hserve hlogged
    exact ⟨h1, h2, h3, fun _ => htree, fun s run hs => absurd hs (Option.some_ne_none s).symm⟩
  | crashed hc =>
    obtain ⟨hlogged, hserve⟩ := perform_serve_of_unprepared hplain hdirectory hprepare
    obtain ⟨h1, h2, h3, htree⟩ := hend _ _ i.world.tree hserve hlogged
    exact ⟨h1, h2, h3, fun _ => htree, fun s run hs => absurd hs (Option.some_ne_none s).symm⟩
  | @ready s symbols h =>
  obtain ⟨hoff, log, opened, hopen, hnull, hadd⟩ := hconfig s.config h.config_eq
  obtain ⟨run, hrun⟩ : ∃ run, s.machine.run i.rounds s.rules s.config.maxSteps = run := ⟨_, rfl⟩
  have hserve := perform_serve_of_prepare hprepare hoff hrun
  have hlogging := perform_serve_logIn hplain hdirectory hprepare hopen
  by_cases hends : run.ending = .abandoned
  -- A run that goes on for ever has printed the same, and no entry is due.
  · rw [perform_runLogged_of_abandoned hrun hends] at hlogging
    obtain ⟨h1, h2, h3, -⟩ := hend _ _ opened hserve hlogging
    refine ⟨h1, h2, h3, fun hs => absurd hs (Option.some_ne_none s),
      fun s' run' hs hrun' hne => ?_⟩
    cases hs
    exact absurd (hrun'.symm.trans hrun ▸ hends) hne
  · obtain ⟨tree, happend⟩ := hadd (Utf8.encode (RunLog.line (entryOf i.world s run)))
    have hcrash := h.crash_eq
    rw [hrun] at hcrash
    rw [perform_runLogged_of_append hrun hcrash hends hnull happend] at hlogging
    obtain ⟨h1, h2, h3, htree⟩ := hend _ _ tree hserve hlogging
    refine ⟨h1, h2, h3, fun hs => absurd hs (Option.some_ne_none s),
      fun s' run' hs hrun' hne => ?_⟩
    cases hs
    obtain rfl := hrun'.symm.trans hrun
    refine ⟨h.told hr hserve hrun hends, log, opened, Json.write (entryOf i.world s run'), hopen,
      ?_, ?_, ?_, Json.printable_write _⟩
    · obtain ⟨_, made, hopen', hmade, -⟩ :=
        i.world.perform_openIn directory s.config.logFilePrefix
      have htrees : opened = made :=
        congrArg World.tree (Prod.mk.inj (hopen.symm.trans hopen')).2
      rw [htrees]
      exact hmade
    · rw [htree]
      exact Tree.grown_of_append happend
    · rw [RunLog.line, String.toList_ofList]

/-- A run of one transition that is logged for the first time. -/
theorem log_changes_nothing_else_of_one_transition :
    let i : Invocation :=
      { name := "alan", arguments := ["p", "t"], dialect := .late, rounds := 4
        world :=
          { tree := ⟨[(["p"], .file [73, 110, 99, 32, 48, 32, 49, 32, 45, 62, 32, 66]),
              (["t"], .file [48])]⟩
            cwd := [], clock := ⟨2024, 5, 17, 9, 30, 0, 0⟩ } }
    let s : Setup :=
      { config := {}, program := "p", tape := "t", rules := [⟨"Inc", "0", "1", .right, "B"⟩]
        machine := .onTape ["0"] .error }
    i.setup? = some s ∧ (i.logIn "log").outcome.1 = i.outcome.1 ∧
      i.Told s (s.machine.run 4 s.rules 0) ∧
      LoggedOnce i "log" s (s.machine.run 4 s.rules 0) (i.logIn "log").outcome.2.tree := by
  intro i s
  have hsetup : i.setup? = some s := by decide +kernel
  have hrequest : Request.ofArguments i.dialect i.arguments =
      .ok ⟨some "p", some "t", none, none⟩ := by
    decide +kernel
  have hplain : ∀ text ∈ i.arguments, text ≠ "--" → ¬NamesLog i.dialect text := by
    rintro text htext - ⟨value, hvalue⟩
    have hoperand : Word.ofString i.dialect Request.known text = .ok (.operand text) := by
      rcases List.mem_pair.mp htext with rfl | rfl <;> rfl
    cases hoperand.symm.trans hvalue
  have hconfig : i.config? = some {} := by decide +kernel
  have hloggable : Loggable i.world "log" "alan_" := by
    refine ⟨RunLog.ofDay "log" "alan_" "2024-05-17", i.world.tree.set ["log"] .dir,
      by decide +kernel, by decide +kernel, fun bytes => ?_⟩
    have hwalk : (i.world.tree.set ["log"] .dir).walk i.world.cwd
        (RunLog.ofDay "log" "alan_" "2024-05-17").file.text =
          .ok ["log", "alan_2024-05-17.jsonl"] := by
      decide +kernel
    exact ⟨_, Tree.append_eq_ok_iff.mpr ⟨_, hwalk, by decide +kernel, rfl⟩⟩
  obtain ⟨hstatus, -, -, -, hlogged⟩ := log_changes_nothing_else i "log" (by decide) (by decide)
    (fun r hr => by
      cases hrequest.symm.trans (request?_eq_some_iff.mp hr)
      exact logDirectory_eq_none hrequest hplain)
    (fun c hc => by rw [hconfig] at hc; cases hc; exact ⟨rfl, hloggable⟩)
  obtain ⟨htold, honce⟩ := hlogged s _ hsetup rfl (by decide +kernel)
  exact ⟨hsetup, hstatus, htold, honce⟩

end Invocation

end TapeMachine.Simulator
