/-
The phases of the simulator, and the order in which they show.

A command goes through eleven phases.  Each can be looked at by itself: whether the
tape can be read, say, does not depend on whether the program can be parsed.  So any
number of them may be at fault at once.  The command reports the first that is, and
up to the run it has done nothing else.

* **`Simulator.Invocation`** — a command that is about to be carried out;
* **`Simulator.Invocation.failure?`** — how a phase fails, looked at by itself;
* **`Simulator.Invocation.Preparation`** — how the phases before the log can go;
* **`Simulator.Invocation.Service`** — how all of them can go;
* **`Simulator.Invocation.reports_first_failure`** — what the command reports, prints and
  changes;
* **`Simulator.Invocation.Unreported`** — the crashes that are no matter of a single value;
* **`Simulator.Invocation.no_status_of_deep_configuration`** — a configuration that is not
  reported.

Design notes:

* A phase that needs what an earlier one could not give does not count as failed.
* The run is granted a number of rounds.  A run that needs more is abandoned, as one that
  never ends would be.
-/
import TapeMachine.Proofs.ArgumentReading
import TapeMachine.Proofs.ConfigLoading
import TapeMachine.Proofs.JsonDepth
import TapeMachine.Proofs.Simulation

namespace TapeMachine.Simulator

open TapeMachine.Action World

/-- A phase of the command. -/
inductive Phase where
  /-- The arguments are understood. -/
  | usage
  /-- The configuration is loaded. -/
  | configuration
  /-- A program is named. -/
  | programNamed
  | programRead
  | programParsed
  /-- A tape is named. -/
  | tapeNamed
  | tapeRead
  /-- The tape holds a symbol. -/
  | tapeFilled
  /-- The directory of the log is there. -/
  | logOpened
  /-- The machine is run. -/
  | played
  /-- The run is logged. -/
  | logged
deriving DecidableEq, Repr

namespace Phase

/-- The phases before the log. -/
def preparation : List Phase :=
  [.usage, .configuration, .programNamed, .programRead, .programParsed, .tapeNamed, .tapeRead,
    .tapeFilled]

/-- The phases before the run. -/
def beforeRun : List Phase :=
  preparation ++ [.logOpened]

/-- All phases, in their order. -/
def all : List Phase :=
  beforeRun ++ [.played, .logged]

/-- The phases before a phase. -/
def before (phase : Phase) : List Phase :=
  all.takeWhile (· ≠ phase)

/-- The phases before the log stand before all others. -/
theorem preparation_subset_before {phase : Phase} (h : phase ∉ preparation) :
    preparation ⊆ phase.before := by
  cases phase <;> first | decide | exact absurd (by decide) h

/-- The phases before the run stand before the run and its entry. -/
theorem beforeRun_subset_before {phase : Phase} (h : phase ∉ beforeRun) :
    beforeRun ⊆ phase.before := by
  cases phase <;> first | decide | exact absurd (by decide) h

theorem exists_all_eq (phase : Phase) : ∃ later, all = phase.before ++ phase :: later := by
  cases phase <;> exact ⟨_, rfl⟩

end Phase

/-- A command that is about to be carried out: its name and arguments and how these are read, the
world, and the rounds that are granted to its run. -/
structure Invocation where
  name : String
  arguments : List String
  dialect : Dialect
  world : World
  rounds : Nat

/-- The failure that an action handed back, if it was one that is reported. -/
def failureOf? {α : Type} (result : Except Problem α) : Option Failure :=
  match result with
  | .error (.failure f) => some f
  | _ => none

namespace Invocation

/-! ### The phases by themselves -/

/-- How the command ends, and the world that it leaves. -/
def outcome (i : Invocation) : Except Crash Exit × World :=
  Simulator.main (m := StateM World) i.name i.arguments i.rounds i.dialect i.world

/-- What an action hands back before anything has been done. -/
def sees {α : Type} (i : Invocation) (a : Action (StateM World) α) : Except Problem α :=
  (i.world.perform a).1

/-- What the arguments ask for. -/
def request? (i : Invocation) : Option Request :=
  (Request.ofArguments i.dialect i.arguments).toOption

/-- The configuration, if it can be loaded. -/
def config? (i : Invocation) : Option Config :=
  i.request?.bind fun r => (i.sees r.configuration).toOption

/-- The text of the program, if it is named and can be read. -/
def programText? (i : Invocation) : Option String :=
  (i.request?.bind (·.program)).bind fun path => (i.sees (readSource path)).toOption

/-- The rules, if the program can be parsed. -/
def rules? (i : Invocation) : Option (List Rule) :=
  i.programText?.bind fun text => (readProgram text).toOption

/-- The symbols of the tape, if it is named and can be read. -/
def symbols? (i : Invocation) : Option (List String) :=
  (i.request?.bind (·.tape)).bind fun path => ((i.sees (readSource path)).map readTape).toOption

/-- What opening the log hands back, and the world after it, if a log is asked for. -/
def opening? (i : Invocation) : Option (Except Problem RunLog × World) :=
  i.config?.bind fun c =>
    if c.logRuns then some (i.world.perform (RunLog.openIn c.outputDirectory c.logFilePrefix))
    else none

/-- The run, if there is everything that it needs. -/
def run? (i : Invocation) : Option Run :=
  i.config?.bind fun c => i.rules?.bind fun rules => i.symbols?.map fun symbols =>
    (Machine.onTape symbols c.policy).run i.rounds rules c.maxSteps

/-- How the run failed, if there is one and it did. -/
def runFailure? (i : Invocation) : Option Failure :=
  i.config?.bind fun c => i.run?.bind fun r => r.failure? c.maxSteps

/-- What logging the run hands back, if there is a log and a run. -/
def logging? (i : Invocation) : Option (Except Problem Json.Value) :=
  i.opening?.bind fun opening => opening.1.toOption.bind fun log => i.run?.bind fun r =>
    (i.request?.bind (·.program)).bind fun program => (i.request?.bind (·.tape)).map fun tape =>
      ((afterRun opening.2 r).perform
        (log.writeRun program tape r.machine r.machine.steps i.runFailure?)).1

/-- How a phase fails, looked at by itself. -/
def failure? (i : Invocation) : Phase → Option Failure
  | .usage =>
    match Request.ofArguments i.dialect i.arguments with
    | .error (.misuse e) => some (.usage e.message)
    | _ => none
  | .configuration => i.request?.bind fun r => failureOf? (i.sees r.configuration)
  | .programNamed =>
    i.request?.bind fun r => if r.program = none then some (.missingArgument "input.alan") else none
  | .programRead =>
    (i.request?.bind (·.program)).bind fun path => failureOf? (i.sees (readSource path))
  | .programParsed =>
    i.programText?.bind fun text =>
      match readProgram text with
      | .error e => some (.badRule e)
      | .ok _ => none
  | .tapeNamed =>
    i.request?.bind fun r => if r.tape = none then some (.missingArgument "input.tape") else none
  | .tapeRead =>
    (i.request?.bind (·.tape)).bind fun path => failureOf? (i.sees (readSource path))
  | .tapeFilled => i.symbols?.bind fun symbols => if symbols = [] then some .emptyTape else none
  | .logOpened => i.opening?.bind fun opening => failureOf? opening.1
  | .played => i.runFailure?
  | .logged => i.logging?.bind failureOf?

/-- The first phase that fails, and how. -/
def firstFailure? (i : Invocation) : Option (Phase × Failure) :=
  Phase.all.findSome? fun phase => (i.failure? phase).map (phase, ·)

/-- What is reported before the failure of a phase: the usage, or that the run could not be logged
either. -/
def reportedBefore (i : Invocation) : Phase → String
  | .usage | .programNamed | .tapeNamed => Report.usage (helpText [usageLine i.name])
  | .played => (i.failure? .logged).elim "" fun e => Report.error e.message
  | _ => ""

/-- Whether no phase before a phase fails. -/
def Reached (i : Invocation) (phase : Phase) : Prop :=
  ∀ earlier ∈ phase.before, i.failure? earlier = none

variable {i : Invocation} {r : Request} {phase later : Phase} {f : Failure}

/-- A phase that does not fail leads to the next. -/
theorem Reached.next (h : i.Reached phase) (hnone : i.failure? phase = none)
    (hlater : later.before = phase.before ++ [phase]) : i.Reached later := by
  rw [Reached, hlater]
  exact List.forall_mem_append.mpr ⟨h, List.forall_mem_singleton.mpr hnone⟩

/-- A phase that is reached and fails is the first that does. -/
theorem Reached.firstFailure?_eq (h : i.Reached phase) (hf : i.failure? phase = some f) :
    i.firstFailure? = some (phase, f) := by
  obtain ⟨rest, hall⟩ := phase.exists_all_eq
  rw [firstFailure?, hall, List.findSome?_eq_some_iff]
  refine ⟨phase.before, phase, rest, rfl, by rw [hf]; rfl, fun earlier hearlier => ?_⟩
  rw [h earlier hearlier]
  rfl

/-! ### Crashes -/

/-- Whether the configuration that is asked for spells no surrogate that stands alone, if the log is
turned on. -/
def Paired (i : Invocation) : Prop :=
  ∀ r c path, i.request? = some r → r.config = some (some path) → i.config? = some c →
    c.logRuns = true → Config.Paired i.world path

/-- Whether no value makes a command crash: it does not do so here, and no path of its log holds a
surrogate, which is more than a `String` can show. -/
structure Unbroken (i : Invocation) : Prop where
  outcome : ∀ c, i.outcome.1 = .error c → ¬c.IsValueError
  paired : i.Paired

/-- The crashes of a command that are no matter of a single value. -/
inductive Unreported (i : Invocation) : Crash → Prop
  /-- A configuration is asked for, and its path was lost by the early dialect. -/
  | pathGone {r : Request} (hearly : i.dialect = .early) (hrequest : i.request? = some r)
      (hgone : r.config = some none) : Unreported i .noConfigPath
  /-- The configuration is nested deeper than the surroundings can follow. -/
  | nestedTooDeep {r : Request} {path text : String} {bytes : List UInt8} {k : Json.Container}
      (hrequest : i.request? = some r) (hpath : r.config = some (some path))
      (hfinds : Config.Finds i.world path bytes) (htext : decodeText bytes = .ok text)
      (hdeep : Json.tooDeep? i.world.depths.parts text.toList = some k) :
      Unreported i (.nestedTooDeep k)
  /-- The directory of the log has as many names as directories can be made, or more. -/
  | tooManyDirectories {c : Config} (hconfig : i.config? = some c) (hlog : c.logRuns = true)
      (hnames : i.world.depths.directories ≤ (Path.ofString c.outputDirectory).names.length) :
      Unreported i .tooManyDirectories

theorem request?_eq_some_iff :
    i.request? = some r ↔ Request.ofArguments i.dialect i.arguments = .ok r := by
  rw [request?]
  rcases Request.ofArguments i.dialect i.arguments with e | r'
  · exact ⟨nofun, nofun⟩
  · exact ⟨fun h => congrArg Except.ok (Option.some.inj h), fun h => congrArg Except.toOption h⟩

/-- How a configuration crashes. -/
theorem crash_of_loaded (hrequest : i.request? = some r) {c : Crash}
    (h : (i.world.perform r.loaded).1 = .error (.crash c)) :
    c.IsValueError ∨ i.Unreported c := by
  rw [Request.loaded] at h
  split at h
  · cases h
  · next path hpath =>
    obtain ⟨p, bytes, hp, hfinds, hbytes⟩ := (Config.load_eq_crash_iff _ _ _).mp h
    cases hp
    cases hbytes with
    | undecodable _ => exact .inl trivial
    | integerTooLong _ _ _ => exact .inl trivial
    | nestedTooDeep htext hdeep =>
      exact .inr (.nestedTooDeep hrequest hpath hfinds htext hdeep)
  · next hgone =>
    cases h
    refine .inr (.pathGone ?_ hrequest hgone)
    cases hdialect : i.dialect with
    | early => rfl
    | late =>
      have hr := request?_eq_some_iff.mp hrequest
      rw [hdialect] at hr
      exact absurd hgone (config_ne_gone hr)

/-! ### Preparation -/

/-- How an action that only looks can go: it fails as the first phase, it crashes, or it hands back
something and leads to a later phase. -/
inductive Stage {α : Type} (i : Invocation) (r : Request) (a : Action (StateM World) α)
    (later : Phase) (P : α → Prop) : Prop
  | failed {phase : Phase} {f : Failure}
      (hperform : i.world.perform a = (.error (.failure f), i.world))
      (hphase : phase ∈ Phase.preparation) (hquiet : i.reportedBefore phase = "")
      (hreached : i.Reached phase) (hf : i.failure? phase = some f)
  | crashed {c : Crash} (hperform : i.world.perform a = (.error (.crash c), i.world))
      (hc : c.IsValueError ∨ i.Unreported c)
  | given {x : α} (hperform : i.world.perform a = (.ok x, i.world)) (hreached : i.Reached later)
      (hx : P x)

theorem stage_configuration (hrequest : i.request? = some r) (h : i.Reached .configuration) :
    Stage i r r.configuration .programNamed fun config => i.config? = some config := by
  have hlook := (looks_configuration r).perform_eq i.world
  have hfailure : i.failure? .configuration = failureOf? (i.world.perform r.configuration).1 := by
    rw [failure?, hrequest]
    rfl
  have hconfig : i.config? = (i.world.perform r.configuration).1.toOption := by
    rw [config?, hrequest]
    rfl
  rcases hresult : (i.world.perform r.configuration).1 with (f | c) | config <;>
    rw [hresult] at hlook hfailure hconfig
  · exact .failed hlook (by decide) rfl h hfailure
  · refine .crashed hlook (crash_of_loaded hrequest ?_)
    rw [perform_configuration] at hresult
    rcases hloaded : (i.world.perform r.loaded).1 with p | config <;> rw [hloaded] at hresult
    · exact hresult
    · cases hresult
  · exact .given hlook (h.next hfailure rfl) hconfig

theorem stage_loadRules (hrequest : i.request? = some r) {program : String}
    (hprogram : r.program = some program) (h : i.Reached .programRead) :
    Stage i r (loadRules program) .tapeNamed fun rules => i.rules? = some rules := by
  have hload := perform_loadRules i.world program
  have hread : i.failure? .programRead = failureOf? (i.world.perform (readSource program)).1 := by
    rw [failure?, hrequest, Option.bind_some, hprogram]
    rfl
  have htext : i.programText? = (i.world.perform (readSource program)).1.toOption := by
    rw [programText?, hrequest, Option.bind_some, hprogram]
    rfl
  rcases hresult : (i.world.perform (readSource program)).1 with (f | c) | text <;>
    rw [hresult] at hload hread htext
  · exact .failed hload (by decide) rfl h hread
  · exact .crashed hload (.inl ((looks_readSource program i.world).2 c hresult))
  -- The program was read, and remains to be parsed.
  have hreached : i.Reached .programParsed := h.next hread rfl
  have hparsed : i.failure? .programParsed =
      match readProgram text with
      | .error e => some (.badRule e)
      | .ok _ => none := by
    rw [failure?, htext]
    rfl
  have hrules : i.rules? = (readProgram text).toOption := by
    rw [rules?, htext]
    rfl
  rcases hresult : readProgram text with e | rules <;> rw [hresult] at hparsed hrules <;>
    simp only [hresult] at hload
  · exact .failed hload (by decide) rfl hreached hparsed
  · exact .given hload (hreached.next hparsed rfl) hrules

theorem stage_loadTape (hrequest : i.request? = some r) {tape : String}
    (htape : r.tape = some tape) (h : i.Reached .tapeRead) :
    Stage i r (loadTape tape) .tapeFilled fun symbols => i.symbols? = some symbols := by
  have hload := perform_loadTape i.world tape
  have hread : i.failure? .tapeRead = failureOf? (i.world.perform (readSource tape)).1 := by
    rw [failure?, hrequest, Option.bind_some, htape]
    rfl
  have hsymbols : i.symbols? = ((i.world.perform (readSource tape)).1.map readTape).toOption := by
    rw [symbols?, hrequest, Option.bind_some, htape]
    rfl
  rcases hresult : (i.world.perform (readSource tape)).1 with (f | c) | text <;>
    rw [hresult] at hload hread hsymbols
  · exact .failed hload (by decide) rfl h hread
  · exact .crashed hload (.inl ((looks_readSource tape i.world).2 c hresult))
  · exact .given hload (h.next hread rfl) hsymbols

/-- Everything that a run needs is there, and no phase before the log has failed. -/
structure Ready (i : Invocation) (r : Request) (s : Setup) (symbols : List String) : Prop where
  reached : i.Reached .logOpened
  request_eq : i.request? = some r
  config_eq : i.config? = some s.config
  rules_eq : i.rules? = some s.rules
  symbols_eq : i.symbols? = some symbols
  symbols_ne : symbols ≠ []
  machine_eq : s.machine = Machine.onTape symbols s.config.policy
  program_eq : r.program = some s.program
  tape_eq : r.tape = some s.tape

/-- The ways in which the phases before the log can go. -/
inductive Preparation (i : Invocation) (r : Request) : Except Problem Setup × World → Prop
  | failed {phase : Phase} {f : Failure} (hphase : phase ∈ Phase.preparation)
      (hreached : i.Reached phase) (hf : i.failure? phase = some f) :
      Preparation i r
        (.error (.failure f), { i.world with err := i.world.err ++ i.reportedBefore phase })
  | crashed {c : Crash} (hc : c.IsValueError ∨ i.Unreported c) :
      Preparation i r (.error (.crash c), i.world)
  | ready {s : Setup} {symbols : List String} (h : Ready i r s symbols) :
      Preparation i r (.ok s, i.world)

theorem preparation_quiet (hphase : phase ∈ Phase.preparation)
    (hquiet : i.reportedBefore phase = "") (hreached : i.Reached phase)
    (hf : i.failure? phase = some f) :
    Preparation i r (.error (.failure f), i.world) := by
  have hworld : i.world = { i.world with err := i.world.err ++ i.reportedBefore phase } := by
    rw [hquiet, String.append_empty]
  rw [hworld]
  exact .failed hphase hreached hf

/-- An action that only looks, and what comes after it. -/
theorem Stage.preparation {α : Type} {a : Action (StateM World) α} {P : α → Prop}
    {rest : α → Action (StateM World) Setup} (h : Stage i r a later P)
    (hrest : ∀ x, i.Reached later → P x → Preparation i r (i.world.perform (rest x))) :
    Preparation i r (i.world.perform (a >>= rest)) := by
  cases h with
  | failed hperform hphase hquiet hreached hf =>
    rw [perform_bind_error hperform]
    exact preparation_quiet hphase hquiet hreached hf
  | crashed hperform hc =>
    rw [perform_bind_error hperform]
    exact .crashed hc
  | given hperform hreached hx =>
    rw [perform_bind_ok hperform]
    exact hrest _ hreached hx

/-- The phases before the log go in one of these ways. -/
theorem preparation_prepare (hr : Request.ofArguments i.dialect i.arguments = .ok r) :
    Preparation i r (i.world.perform (prepare i.name r)) := by
  have hrequest : i.request? = some r := request?_eq_some_iff.mpr hr
  have hstart : i.Reached .usage := fun _ h => nomatch h
  have husage : i.failure? .usage = none := by
    rw [failure?, hr]
  have hprogramNamed : i.failure? .programNamed =
      if r.program = none then some (.missingArgument "input.alan") else none := by
    rw [failure?, hrequest]
    rfl
  have htapeNamed : i.failure? .tapeNamed =
      if r.tape = none then some (.missingArgument "input.tape") else none := by
    rw [failure?, hrequest]
    rfl
  -- Stage by stage: an earlier failure ends the matter, and otherwise the next phase is reached.
  refine (stage_configuration hrequest (hstart.next husage rfl)).preparation
    fun config hreached hconfig => ?_
  rcases hprogram : r.program with _ | program <;> rw [hprogram] at hprogramNamed
  · exact .failed (by decide) hreached hprogramNamed
  refine (stage_loadRules hrequest hprogram (hreached.next hprogramNamed rfl)).preparation
    fun rules hreached hrules => ?_
  rcases htape : r.tape with _ | tape <;> rw [htape] at htapeNamed
  · exact .failed (by decide) hreached htapeNamed
  refine (stage_loadTape hrequest htape (hreached.next htapeNamed rfl)).preparation
    fun symbols hreached hsymbols => ?_
  have hfilled : i.failure? .tapeFilled = if symbols = [] then some .emptyTape else none := by
    rw [failure?, hsymbols]
    rfl
  rw [Machine.ofTape]
  by_cases hne : symbols = []
  · rw [if_pos hne] at hfilled ⊢
    exact preparation_quiet (by decide) rfl hreached hfilled
  · rw [if_neg hne] at hfilled ⊢
    exact .ready ⟨hreached.next hfilled rfl, hrequest, hconfig, hrules, hsymbols, hne, rfl,
      hprogram, htape⟩

/-! ### Service -/

/-- Whether all of a run, and nothing else, has been printed. -/
def Played (i : Invocation) (w : World) : Prop :=
  ∃ config rules symbols, i.config? = some config ∧ i.rules? = some rules ∧
    i.symbols? = some symbols ∧
    w.out = i.world.out ++
      ((Machine.onTape symbols config.policy).run i.rounds rules config.maxSteps).text

/-- The ways in which all phases can go. -/
inductive Service (i : Invocation) (r : Request) : Except Problem Unit × World → Prop
  | failed {phase : Phase} {f : Failure} {w : World} (hreached : i.Reached phase)
      (hf : i.failure? phase = some f) (herr : w.err = i.world.err ++ i.reportedBefore phase)
      (hprepared : phase ∈ Phase.preparation → w.tree = i.world.tree)
      (hquiet : phase ∈ Phase.beforeRun → w.out = i.world.out)
      (hplayed : phase ∉ Phase.beforeRun → i.Played w) :
      Service i r (.error (.failure f), w)
  | crashed {c : Crash} {w : World}
      (hc : c.IsValueError ∨ i.Unreported c ∨ c = .abandoned) : Service i r (.error (.crash c), w)
  | served {w : World} (hnone : ∀ phase ∈ Phase.all, i.failure? phase = none)
      (herr : w.err = i.world.err) (hplayed : i.Played w) : Service i r (.ok (), w)

/-- A failure of the run or of its entry, which comes when all has been printed. -/
theorem service_after {w : World} (h : i.Reached phase) (hlate : phase ∉ Phase.beforeRun)
    (hf : i.failure? phase = some f) (herr : w.err = i.world.err ++ i.reportedBefore phase)
    (hplayed : i.Played w) : Service i r (.error (.failure f), w) := by
  refine .failed h hf herr (fun hp => ?_) (fun hp => absurd hp hlate)
    fun _ => hplayed
  exact absurd (List.mem_append_left _ hp) hlate

/-- After the last phase, none has failed. -/
theorem Reached.all (h : i.Reached .logged) (hlogged : i.failure? .logged = none) :
    ∀ phase ∈ Phase.all, i.failure? phase = none := by
  have hall : Phase.all = Phase.before .logged ++ [.logged] := rfl
  rw [hall]
  exact List.forall_mem_append.mpr ⟨h, List.forall_mem_singleton.mpr hlogged⟩

namespace Ready

variable {s : Setup} {symbols : List String}

theorem run?_eq (h : Ready i r s symbols) :
    i.run? = some (s.machine.run i.rounds s.rules s.config.maxSteps) := by
  rw [run?, h.config_eq, h.rules_eq, h.symbols_eq, h.machine_eq]
  rfl

theorem failure?_played (h : Ready i r s symbols) :
    i.failure? .played =
      (s.machine.run i.rounds s.rules s.config.maxSteps).failure? s.config.maxSteps := by
  rw [failure?, runFailure?, h.config_eq, h.run?_eq]
  rfl

theorem played (h : Ready i r s symbols) (w : World)
    (hout : w.out = i.world.out ++ (s.machine.run i.rounds s.rules s.config.maxSteps).text) :
    i.Played w := by
  rw [h.machine_eq] at hout
  exact ⟨s.config, s.rules, symbols, h.config_eq, h.rules_eq, h.symbols_eq, hout⟩

theorem crash_eq (h : Ready i r s symbols) (c : Crash)
    (hc : (s.machine.run i.rounds s.rules s.config.maxSteps).ending.problem? s.config.maxSteps =
      some (.crash c)) : c = .abandoned := by
  rw [h.machine_eq] at hc
  exact eq_abandoned_of_crash h.symbols_ne hc

/-- What logging the run hands back, if a log was opened. -/
theorem logging?_eq (h : Ready i r s symbols) {log : RunLog} {w : World}
    (hopening : i.opening? = some (.ok log, w)) :
    i.logging? = some ((afterRun w (s.machine.run i.rounds s.rules s.config.maxSteps)).perform
      (log.writeRun s.program s.tape (s.machine.run i.rounds s.rules s.config.maxSteps).machine
        (s.machine.run i.rounds s.rules s.config.maxSteps).machine.steps
        ((s.machine.run i.rounds s.rules s.config.maxSteps).failure? s.config.maxSteps))).1 := by
  rw [logging?, hopening, h.run?_eq, h.request_eq, ← h.failure?_played]
  simp only [Option.bind_some, h.program_eq, h.tape_eq, Option.map_some]
  rfl

/-- What opening the log hands back, if one is asked for. -/
theorem opening?_eq (h : Ready i r s symbols) :
    i.opening? = if s.config.logRuns then some (i.world.perform
      (RunLog.openIn s.config.outputDirectory s.config.logFilePrefix)) else none := by
  rw [opening?, h.config_eq]
  rfl

/-- The run of a command that keeps no log. -/
theorem service_none (h : Ready i r s symbols) (hopening : i.opening? = none) :
    Service i r (i.world.perform
      (runLogged i.rounds none s.program s.tape s.rules s.config.maxSteps s.machine)) := by
  have hopened : i.failure? .logOpened = none := by
    rw [failure?, hopening]
    rfl
  have hlogged : i.failure? .logged = none := by
    rw [failure?, logging?, hopening]
    rfl
  have hbefore : i.reportedBefore .played = "" := by
    rw [reportedBefore, hlogged]
    rfl
  have hreached : i.Reached .played := h.reached.next hopened rfl
  have hplayed := h.failure?_played
  have hcrash := h.crash_eq
  rw [perform_runLogged_none]
  have hshown : i.Played (afterRun i.world (s.machine.run i.rounds s.rules s.config.maxSteps)) :=
    h.played _ rfl
  generalize s.machine.run i.rounds s.rules s.config.maxSteps = run at hplayed hcrash hshown ⊢
  rw [Run.failure?] at hplayed
  rcases hproblem : run.ending.problem? s.config.maxSteps with _ | f | c <;>
    rw [hproblem] at hplayed
  · have hdone : i.Reached .logged := hreached.next hplayed rfl
    exact .served (hdone.all hlogged) rfl hshown
  · refine service_after hreached (by decide) hplayed ?_ hshown
    rw [hbefore, String.append_empty]
    rfl
  · exact .crashed (.inr (.inr (hcrash c hproblem)))

/-- The run of a command that keeps a log. -/
theorem service_some (h : Ready i r s symbols) {log : RunLog} {w : World}
    (hopening : i.opening? = some (.ok log, w)) (hout : w.out = i.world.out)
    (herr : w.err = i.world.err) :
    Service i r (w.perform
      (runLogged i.rounds (some log) s.program s.tape s.rules s.config.maxSteps s.machine)) := by
  have hopened : i.failure? .logOpened = none := by
    rw [failure?, hopening]
    rfl
  have hreached : i.Reached .played := h.reached.next hopened rfl
  have hplayed := h.failure?_played
  have hcrash := h.crash_eq
  have hshown := h.played
  have hlogging := h.logging?_eq hopening
  rw [perform_runLogged_some]
  generalize s.machine.run i.rounds s.rules s.config.maxSteps = run at *
  obtain ⟨result, tree, hperform, hnull⟩ := exists_perform_writeRun (afterRun w run) log s.program
    s.tape run.machine run.machine.steps (run.failure? s.config.maxSteps)
  rw [hperform] at hlogging
  have hlogged : i.failure? .logged = failureOf? result := by
    rw [failure?, hlogging]
    rfl
  have hbefore : i.reportedBefore .played =
      (failureOf? result).elim "" fun e => Report.error e.message := by
    rw [reportedBefore, hlogged]
  have hprinted : (afterRun w run).out = i.world.out ++ run.text := by
    rw [← hout]
    rfl
  simp only [hperform]
  rw [Run.failure?] at hplayed
  rcases hproblem : run.ending.problem? s.config.maxSteps with _ | f | c <;>
    rw [hproblem] at hplayed
  -- The run ended well, and so its entry is the phase that may fail.
  · have hdone : i.Reached .logged := hreached.next hplayed rfl
    rcases result with (e | c) | v
    · have hquiet : i.reportedBefore .logged = "" := rfl
      refine service_after hdone (by decide) hlogged ?_ (hshown _ hprinted)
      rw [hquiet, String.append_empty]
      exact herr
    · rw [hnull c rfl]
      exact .crashed (.inl trivial)
    · exact .served (hdone.all hlogged) herr (hshown _ hprinted)
  -- The run failed.  A failure of its entry is reported first, and the run's comes last.
  · rcases result with (e | c) | v
    · refine service_after hreached (by decide) hplayed ?_ (hshown _ hprinted)
      rw [hbefore, ← herr]
      rfl
    · rw [hnull c rfl]
      exact .crashed (.inl trivial)
    · refine service_after hreached (by decide) hplayed ?_ (hshown _ hprinted)
      rw [hbefore, ← herr]
      exact String.append_empty.symm
  · exact .crashed (.inr (.inr (hcrash c hproblem)))

end Ready

/-- All phases go in one of these ways. -/
theorem service_serve (hr : Request.ofArguments i.dialect i.arguments = .ok r) :
    Service i r (i.world.perform (serve i.rounds i.name r)) := by
  have hprepared := preparation_prepare hr
  rw [serve]
  generalize hresult : i.world.perform (prepare i.name r) = result at hprepared
  cases hprepared with
  | @failed phase f hphase hreached hf =>
    rw [perform_bind_error hresult]
    have hearly : phase ∈ Phase.beforeRun := List.mem_append_left _ hphase
    exact .failed hreached hf rfl (fun _ => rfl) (fun _ => rfl) fun hlate => absurd hearly hlate
  | crashed hc =>
    rw [perform_bind_error hresult]
    exact .crashed (hc.imp_right .inl)
  | @ready s symbols h =>
  rw [perform_bind_ok hresult, perform_bind, perform_openLog]
  have hopening := h.opening?_eq
  by_cases hlog : s.config.logRuns = true
  · obtain ⟨result, tree, hperform, -, hcases⟩ := i.world.perform_openIn s.config.outputDirectory
      s.config.logFilePrefix
    rw [if_pos hlog, hperform] at hopening ⊢
    have hopened : i.failure? .logOpened = failureOf? result := by
      rw [failure?, hopening]
      rfl
    cases hcases with
    | opened => exact h.service_some hopening rfl rfl
    | refused path reason =>
      refine .failed h.reached hopened ?_ (fun hp => absurd hp (by decide))
        (fun _ => rfl) fun hlate => absurd (by decide) hlate
      exact String.append_empty.symm
    | null _ => exact .crashed (.inl trivial)
    | tooMany hnames =>
      exact .crashed (.inr (.inl (.tooManyDirectories h.config_eq hlog hnames)))
  · rw [if_neg hlog] at hopening ⊢
    exact h.service_none hopening

/-! ### The whole command -/

/-- How a command ends that asks for something. -/
theorem outcome_of_request (hr : Request.ofArguments i.dialect i.arguments = .ok r) :
    i.outcome =
      (finish (serve i.rounds i.name r) : StateM World (Except Crash Exit)) i.world := by
  rw [outcome, Simulator.main, hr]

/-- How a command ends whose arguments are not understood. -/
theorem outcome_of_misuse {e : Misuse}
    (he : Request.ofArguments i.dialect i.arguments = .error (.misuse e)) :
    i.outcome = (.ok (.finished 1), { i.world with
      err := i.world.err ++ i.reportedBefore .usage ++ Report.error e.message }) := by
  have houtcome : i.outcome = (finish (failWithUsage i.name (.usage e.message) :
      Action (StateM World) Unit) : StateM World (Except Crash Exit)) i.world := by
    rw [outcome, Simulator.main, he]
  rw [houtcome, finish_eq, perform_failWithUsage]
  rfl

/-- What holds of the world that a command leaves, in terms of the first phase that fails. -/
structure Left (i : Invocation) (status : Nat) (w : World) : Prop where
  good : i.firstFailure? = none → status = 0 ∧ w.err = i.world.err
  bad : ∀ phase f, i.firstFailure? = some (phase, f) → status = 1 ∧
    w.err = i.world.err ++ i.reportedBefore phase ++ Report.error f.message
  unprepared : (∃ phase ∈ Phase.preparation, i.failure? phase ≠ none) →
    w.out = i.world.out ∧ w.tree = i.world.tree
  unopened : i.failure? .logOpened ≠ none → w.out = i.world.out
  played : (∀ phase ∈ Phase.beforeRun, i.failure? phase = none) → i.Played w

theorem left_of_failed {w : World} (hreached : i.Reached phase) (hf : i.failure? phase = some f)
    (herr : w.err = i.world.err ++ i.reportedBefore phase ++ Report.error f.message)
    (hprepared : phase ∈ Phase.preparation → w.tree = i.world.tree)
    (hquiet : phase ∈ Phase.beforeRun → w.out = i.world.out)
    (hplayed : phase ∉ Phase.beforeRun → i.Played w) : i.Left 1 w := by
  have hfirst := hreached.firstFailure?_eq hf
  -- A phase that fails does not stand before the first.
  have hbefore : ∀ p, i.failure? p ≠ none → p ∉ phase.before :=
    fun p hp hmem => hp (hreached p hmem)
  refine ⟨fun hnone => ?_, fun p g hfirst' => ?_, fun ⟨p, hp, hpf⟩ => ?_, fun hopened => ?_,
    fun hall => hplayed fun hearly => ?_⟩
  · cases hfirst.symm.trans hnone
  · cases hfirst.symm.trans hfirst'
    exact ⟨rfl, herr⟩
  · have hphase : phase ∈ Phase.preparation := by
      by_contra hlate
      exact hbefore p hpf (Phase.preparation_subset_before hlate hp)
    exact ⟨hquiet (List.mem_append_left _ hphase), hprepared hphase⟩
  · have hphase : phase ∈ Phase.beforeRun := by
      by_contra hlate
      exact hbefore .logOpened hopened (Phase.beforeRun_subset_before hlate (by decide))
    exact hquiet hphase
  · cases hf.symm.trans (hall phase hearly)

theorem left_of_served {w : World} (hnone : ∀ phase ∈ Phase.all, i.failure? phase = none)
    (herr : w.err = i.world.err) (hplayed : i.Played w) : i.Left 0 w := by
  have hfirst : i.firstFailure? = none := by
    rw [firstFailure?, List.findSome?_eq_none_iff]
    intro phase hphase
    rw [hnone phase hphase]
    rfl
  -- No phase fails, so what is said of failures holds for want of one.
  have hsub : Phase.preparation ⊆ Phase.all := by decide
  refine ⟨fun _ => ⟨rfl, herr⟩, fun p g hp => ?_, fun ⟨p, hp, hpf⟩ => ?_, fun hopened => ?_,
    fun _ => hplayed⟩
  · cases hfirst.symm.trans hp
  · exact absurd (hnone p (hsub hp)) hpf
  · exact absurd (hnone .logOpened (by decide)) hopened

/-- **The command reports the first phase that fails, whatever fails later.**  Let there be no
request for help, let the command not crash on a value, and let its run end.

Then it ends by handing back a status, unless the configuration is nested deeper than the
surroundings can follow, or lies at a path that the early dialect has lost, or the directory of the
log has too many names: these crash and are not reported.

The status is 0 if no phase fails when each is looked at by itself, and nothing is reported.
Otherwise it is 1, and the last message is that of the first phase that fails; before it stands the
usage, if arguments are wrong or missing, or that a run which failed could not be logged either.

If a phase before the log fails, nothing is printed and the tree is unchanged.  If the log cannot be
opened, nothing is printed.  If none of these fails, the command prints what the run shows, of the
rules in the one file and the symbols in the other, under the policy and the limit of the
configuration. -/
theorem reports_first_failure (i : Invocation)
    (hhelp : Request.ofArguments i.dialect i.arguments ≠ .error .help)
    (hvalue : i.Unbroken) (hends : i.outcome.1 ≠ .error .abandoned) :
    (∃ c, i.outcome.1 = .error c ∧ i.Unreported c) ∨
      ∃ status w, i.outcome = (.ok (.finished status), w) ∧
        (i.firstFailure? = none → status = 0 ∧ w.err = i.world.err) ∧
        (∀ phase f, i.firstFailure? = some (phase, f) → status = 1 ∧
          w.err = i.world.err ++ i.reportedBefore phase ++ Report.error f.message) ∧
        ((∃ phase ∈ Phase.preparation, i.failure? phase ≠ none) →
          w.out = i.world.out ∧ w.tree = i.world.tree) ∧
        (i.failure? .logOpened ≠ none → w.out = i.world.out) ∧
        ((∀ phase ∈ Phase.beforeRun, i.failure? phase = none) → i.Played w) := by
  suffices h : (∃ c, i.outcome.1 = .error c ∧ i.Unreported c) ∨
      ∃ status w, i.outcome = (.ok (.finished status), w) ∧ i.Left status w by
    refine h.imp_right fun ⟨status, w, houtcome, hleft⟩ => ?_
    exact ⟨status, w, houtcome, hleft.good, hleft.bad, hleft.unprepared, hleft.unopened,
      hleft.played⟩
  rcases hr : Request.ofArguments i.dialect i.arguments with (_ | e) | r
  · exact absurd hr hhelp
  · have hstart : i.Reached .usage := fun _ h => nomatch h
    have husage : i.failure? .usage = some (.usage e.message) := by
      rw [failure?, hr]
    exact .inr ⟨1, _, outcome_of_misuse hr, left_of_failed hstart husage rfl (fun _ => rfl)
      (fun _ => rfl) fun hlate => absurd (by decide) hlate⟩
  have houtcome := outcome_of_request hr
  have hservice := service_serve hr
  rw [finish_eq] at houtcome
  generalize i.world.perform (serve i.rounds i.name r) = result at houtcome hservice
  cases hservice with
  | failed hreached hf herr hprepared hquiet hplayed =>
    refine .inr ⟨1, _, houtcome, left_of_failed hreached hf ?_ hprepared hquiet hplayed⟩
    exact congrArg (· ++ _) herr
  | @crashed c w hc =>
    have hcrash : i.outcome.1 = .error c := congrArg Prod.fst houtcome
    rcases hc with hc | hc | rfl
    · exact absurd hc (hvalue.outcome c hcrash)
    · exact .inl ⟨c, hcrash, hc⟩
    · exact absurd hcrash hends
  | served hnone herr hplayed => exact .inr ⟨0, _, houtcome, left_of_served hnone herr hplayed⟩

/-- A program that cannot be read and a tape that is not named: the program is reported. -/
theorem reports_first_failure_of_two_faults :
    let i : Invocation :=
      { name := "alan", arguments := ["p"], dialect := .late, rounds := 1
        world := { tree := ⟨[]⟩, cwd := [], clock := ⟨2024, 5, 17, 9, 30, 0, 0⟩ } }
    let f : Failure := .unreadable "p" "No such file or directory"
    i.failure? .tapeNamed = some (.missingArgument "input.tape") ∧
      ∃ w, i.outcome = (.ok (.finished 1), w) ∧ w.err = Report.error f.message ∧
        w.out = "" ∧ w.tree = ⟨[]⟩ := by
  intro i f
  have hstatus : i.outcome.1 = .ok (.finished 1) := by decide +kernel
  have hfirst : i.firstFailure? = some (.programRead, f) := by decide +kernel
  have hread : i.failure? .programRead ≠ none := by decide +kernel
  have hcrash : ∀ c, i.outcome.1 ≠ .error c := by
    intro c hc
    cases hstatus.symm.trans hc
  have hrequest : i.request? = some ⟨some "p", none, none, none⟩ := by decide +kernel
  have hpaired : i.Paired := by
    intro r c path hr hpath
    cases hrequest.symm.trans hr
    cases hpath
  obtain ⟨c, hc, -⟩ | ⟨status, w, houtcome, -, hbad, hunprepared, -⟩ := reports_first_failure i
    (by decide +kernel) ⟨fun c hc => absurd hc (hcrash c), hpaired⟩ (hcrash _)
  · exact absurd hc (hcrash c)
  obtain ⟨rfl, herr⟩ := hbad _ _ hfirst
  obtain ⟨hout, htree⟩ := hunprepared ⟨.programRead, by decide, hread⟩
  refine ⟨by decide +kernel, w, houtcome, ?_, hout, htree⟩
  have hquiet : i.world.err ++ i.reportedBefore .programRead = "" := rfl
  rw [herr, hquiet, String.empty_append]

/-- A configuration that is nested too deep ends the command at once, and nothing is reported. -/
theorem outcome_of_deep_configuration {path text : String} {bytes : List UInt8} {k : Json.Container}
    (hr : Request.ofArguments i.dialect i.arguments = .ok r) (hpath : r.config = some (some path))
    (hfinds : Config.Finds i.world path bytes) (htext : decodeText bytes = .ok text)
    (hdeep : Json.tooDeep? i.world.depths.parts text.toList = some k) :
    i.outcome = (.error (.nestedTooDeep k), i.world) := by
  have hcrash : i.world.perform r.loaded = (.error (.crash (.nestedTooDeep k)), i.world) := by
    have hloaded : (r.loaded : Action (StateM World) Config) = Config.load (some path) := by
      rw [Request.loaded, hpath]
    rw [hloaded, Config.perform_load_of_finds hfinds, htext]
    dsimp only
    rw [Config.ofText, hdeep]
  have hserve : i.world.perform (serve i.rounds i.name r) =
      (.error (.crash (.nestedTooDeep k)), i.world) := by
    rw [serve, prepare, Request.configuration]
    exact perform_bind_error (perform_bind_error (perform_bind_error hcrash))
  rw [outcome_of_request hr, finish_eq, hserve]

/-- A configuration of opening brackets alone, where everything else is in order: it is not reported
as bad, and no status is handed back. -/
theorem no_status_of_deep_configuration :
    let brackets := String.ofList (List.replicate 5000 '[')
    let i : Invocation :=
      { name := "alan", arguments := ["p", "t", "--config", "c"], dialect := .late, rounds := 4
        world :=
          { tree := ⟨[(["p"], .file [73, 110, 99, 32, 48, 32, 49, 32, 45, 62, 32, 66]),
              (["t"], .file [48]), (["c"], .file (Utf8.encode brackets))]⟩
            cwd := [], clock := ⟨2024, 5, 17, 9, 30, 0, 0⟩ } }
    Request.ofArguments i.dialect i.arguments ≠ .error .help ∧
      i.Unbroken ∧ i.outcome.1 ≠ .error .abandoned ∧
      ∀ status w, i.outcome ≠ (.ok (.finished status), w) := by
  intro brackets i
  have hr : Request.ofArguments i.dialect i.arguments =
      .ok ⟨some "p", some "t", some (some "c"), none⟩ := by
    decide +kernel
  have hfinds : Config.Finds i.world "c" (Utf8.encode brackets) := ⟨by decide +kernel, rfl⟩
  have htext : decodeText (Utf8.encode brackets) = .ok brackets := by
    refine decodeText_encode ?_
    rw [String.toList_ofList, List.mem_replicate]
    rintro ⟨-, ⟨⟩⟩
  have hdeep : Json.tooDeep? i.world.depths.parts brackets.toList = some .array := by
    rw [String.toList_ofList]
    exact Json.tooDeep?_replicate (by decide)
  have hcrash := outcome_of_deep_configuration hr rfl hfinds htext hdeep
  have hpaired : i.Paired := by
    intro r c path hrequest hpath _ _
    cases hr.symm.trans (request?_eq_some_iff.mp hrequest)
    cases hpath
    refine Config.paired_of_text hfinds.2 htext (.of_not_mem ?_)
    rw [String.toList_ofList, List.mem_replicate]
    rintro ⟨-, ⟨⟩⟩
  refine ⟨by rw [hr]; exact nofun, ⟨fun c hc hvalue => ?_, hpaired⟩, ?_, ?_⟩
  · rw [hcrash] at hc
    cases hc
    exact hvalue
  · rw [hcrash]
    exact nofun
  · rw [hcrash]
    exact nofun

end Invocation

end TapeMachine.Simulator
