/-
Which status a command ends with once its configuration is accepted.

From arguments without U+0000 a request takes paths without it, so the program and the
tape are read or reported.  What is left is the log, whose path comes from the
configuration.  If neither the directory nor the prefix in there holds U+0000, and the
directory has no more names than can be made, the command ends with a status, and the log
is kept or reported.

* **`Simulator.prepare_ne_crash`** — nothing before the log crashes;
* **`Simulator.Invocation.LogHandled`** — what may become of the log;
* **`Simulator.Invocation.Escapes`** — how the log may crash;
* **`Simulator.Invocation.ends_with_status`** — every accepted configuration;
* **`Simulator.Invocation.no_status_of_null_directory`** — an accepted configuration that
  leads to no status.

Design notes:

* A run that is abandoned stands for one that never ends, and is left out.
* No `String` holds a surrogate, and one that stands alone in a configuration is read as
  U+FFFD.  So what a file system makes of a path with such a surrogate cannot be told here,
  and a configuration that turns the log on is taken to spell none.
-/
import TapeMachine.Proofs.Phases
import TapeMachine.Proofs.RequestText

namespace TapeMachine

open TapeMachine.Action World

/-! ### Reading sources -/

/-- Reading a source crashes on account of its path alone. -/
theorem looks_readSource_of_null (path : String) :
    Looks (fun c => c = .nullInPath ∧ Path.hasNull path = true)
      (readSource path : Action (StateM World) String) := by
  have hguard : Looks (fun c => c = .nullInPath ∧ Path.hasNull path = true)
      (guardPath path : Action (StateM World) Unit) := by
    rw [guardPath]
    split
    · next hnull => exact looks_crash ⟨rfl, hnull⟩
    · exact looks_pure ()
  refine hguard.bind fun _ => (looks_readFile _).bind fun result => ?_
  split
  · exact looks_fail _
  · split
    · exact looks_fail _
    · exact looks_pure _

namespace Simulator

variable {w : World} {r : Request} {c : Config}

theorem readSource_ne_crash {path : String} (h : Throughout (· ≠ '\x00') path) (c : Crash) :
    (w.perform (readSource path)).1 ≠ .error (.crash c) := by
  intro hcrash
  obtain ⟨-, hnull⟩ := (looks_readSource_of_null path w).2 c hcrash
  cases (Path.hasNull_eq_false_iff.mpr h).symm.trans hnull

/-- Nothing before the log crashes. -/
theorem prepare_ne_crash (hr : r.Throughout (· ≠ '\x00')) (hloaded : (w.perform r.loaded).1 = .ok c)
    (name : String) (crash : Crash) :
    (w.perform (prepare name r)).1 ≠ .error (.crash crash) := by
  have hconfig : w.perform r.configuration = (.ok (r.withLog c), w) := by
    rw [perform_configuration, hloaded]
    rfl
  rw [prepare, perform_bind_ok hconfig]
  rcases hprogram : r.program with _ | program
  · rintro ⟨⟩
  dsimp only
  rw [perform_bind, perform_loadRules]
  rcases hread : (w.perform (readSource program)).1 with (f | c) | text
  · rintro ⟨⟩
  · exact absurd hread (readSource_ne_crash (hr.program program hprogram) c)
  dsimp only
  rcases readProgram text with e | rules
  · rintro ⟨⟩
  dsimp only
  rcases htape : r.tape with _ | tape
  · rintro ⟨⟩
  dsimp only
  rw [perform_bind, perform_loadTape]
  rcases hread : (w.perform (readSource tape)).1 with (f | c) | text
  · rintro ⟨⟩
  · exact absurd hread (readSource_ne_crash (hr.tape tape htape) c)
  dsimp only [Except.map]
  rcases Machine.ofTape (readTape text) (r.withLog c).policy with f | machine <;> rintro ⟨⟩

/-- A directory that the arguments name holds no U+0000, so one that does is configured. -/
theorem hasNull_of_withLog (hr : r.Throughout (· ≠ '\x00'))
    (h : Path.hasNull (r.withLog c).outputDirectory = true) :
    Path.hasNull c.outputDirectory = true := by
  rw [Request.withLog] at h
  split at h
  · next directory hdirectory =>
    split at h
    · exact h
    · cases (Path.hasNull_eq_false_iff.mpr (hr.logDirectory directory hdirectory)).symm.trans h
  · exact h

theorem logFilePrefix_withLog (r : Request) (c : Config) :
    (r.withLog c).logFilePrefix = c.logFilePrefix := by
  rw [Request.withLog]
  split
  · split <;> rfl
  · rfl

namespace Invocation

/-- What may become of the log of a command that ends with a status.  It is not asked for, or not
reached, or it is opened and the run is added to it, or the command fails and reports that the log
cannot be written. -/
inductive LogHandled (i : Invocation) (status : Nat) (w : World) : Prop
  | unasked (h : i.opening? = none)
  | unreached (h : ¬i.Reached .logOpened)
  | unopened {path reason : String} {w' : World}
      (hopening : i.opening? = some (.error (.failure (.unwritableLog path reason)), w'))
      (hstatus : status = 1)
      (herr : w.err = i.world.err ++ Report.error (Failure.unwritableLog path reason).message)
  | unwritten {log : RunLog} {path reason : String} {w' : World}
      (hopening : i.opening? = some (.ok log, w'))
      (hlogging : i.logging? = some (.error (.failure (.unwritableLog path reason))))
      (hstatus : status = 1)
      (herr : ∃ more, w.err =
        i.world.err ++ Report.error (Failure.unwritableLog path reason).message ++ more)
  | written {log : RunLog} {entry : Json.Value} {w' : World}
      (hopening : i.opening? = some (.ok log, w'))
      (hlogging : i.logging? = some (.ok entry))
      (happend : w'.tree.append w'.cwd log.file.text (Utf8.encode (RunLog.line entry)) =
        .ok w.tree)

/-- Whether a command ends with a status, and its log is dealt with. -/
def EndsWithStatus (i : Invocation) : Prop :=
  ∃ status w, i.outcome = (.ok (.finished status), w) ∧ (status = 0 ∨ status = 1) ∧
    i.LogHandled status w

variable {i : Invocation} {s : Setup} {symbols : List String} {f : Failure}

theorem endsWithStatus_of_failed (hr : Request.ofArguments i.dialect i.arguments = .ok r)
    (hserve : i.world.perform (serve i.rounds i.name r) = (.error (.failure f), w))
    (hlog : i.LogHandled 1 { w with err := w.err ++ Report.error f.message }) :
    i.EndsWithStatus := by
  have houtcome := outcome_of_request hr
  rw [finish_eq, hserve] at houtcome
  exact ⟨1, _, houtcome, .inr rfl, hlog⟩

theorem endsWithStatus_of_served (hr : Request.ofArguments i.dialect i.arguments = .ok r)
    (hserve : i.world.perform (serve i.rounds i.name r) = (.ok (), w)) (hlog : i.LogHandled 0 w) :
    i.EndsWithStatus := by
  have houtcome := outcome_of_request hr
  rw [finish_eq, hserve] at houtcome
  exact ⟨0, _, houtcome, .inl rfl, hlog⟩

theorem outcome_of_crash (hr : Request.ofArguments i.dialect i.arguments = .ok r) {crash : Crash}
    (hserve : i.world.perform (serve i.rounds i.name r) = (.error (.crash crash), w)) :
    i.outcome.1 = .error crash := by
  rw [outcome_of_request hr, finish_eq, hserve]

/-- The run of a command that keeps no log. -/
theorem Ready.ends_none (h : Ready i r s symbols)
    (hr : Request.ofArguments i.dialect i.arguments = .ok r)
    (hends : i.outcome.1 ≠ .error .abandoned) (hlog : s.config.logRuns = false)
    (hserve : i.world.perform (serve i.rounds i.name r) = i.world.perform
      (runLogged i.rounds none s.program s.tape s.rules s.config.maxSteps s.machine)) :
    i.EndsWithStatus := by
  have hopening : i.opening? = none := by
    rw [h.opening?_eq, hlog]
    rfl
  have hcrash := h.crash_eq
  rw [perform_runLogged_none] at hserve
  rcases hproblem : (s.machine.run i.rounds s.rules s.config.maxSteps).ending.problem?
    s.config.maxSteps with _ | f | c <;> rw [hproblem] at hserve
  · exact endsWithStatus_of_served hr hserve (.unasked hopening)
  · exact endsWithStatus_of_failed hr hserve (.unasked hopening)
  · rw [hcrash c hproblem] at hserve
    exact absurd (outcome_of_crash hr hserve) hends

/-- The run of a command that keeps a log. -/
theorem Ready.ends_some (h : Ready i r s symbols)
    (hr : Request.ofArguments i.dialect i.arguments = .ok r)
    (hends : i.outcome.1 ≠ .error .abandoned) {log : RunLog} (herr : w.err = i.world.err)
    (hopening : i.opening? = some (.ok log, w))
    (hserve : i.world.perform (serve i.rounds i.name r) = w.perform
      (runLogged i.rounds (some log) s.program s.tape s.rules s.config.maxSteps s.machine)) :
    Path.hasNull log.file.text = true ∧ i.outcome.1 = .error .nullInPath ∨ i.EndsWithStatus := by
  have hcrash := h.crash_eq
  have hlogging := h.logging?_eq hopening
  rw [perform_runLogged_some] at hserve
  generalize s.machine.run i.rounds s.rules s.config.maxSteps = run at *
  dsimp only at hserve
  rw [perform_writeRun, perform_write] at hserve hlogging
  by_cases hnull : Path.hasNull log.file.text = true
  · rw [if_pos hnull] at hserve
    rcases hproblem : run.ending.problem? s.config.maxSteps with _ | f | c <;>
      rw [hproblem] at hserve
    · exact .inl ⟨hnull, outcome_of_crash hr hserve⟩
    · exact .inl ⟨hnull, outcome_of_crash hr hserve⟩
    · rw [hcrash c hproblem] at hserve
      exact absurd (outcome_of_crash hr hserve) hends
  rw [if_neg hnull] at hserve hlogging
  have hreported : ∀ text, (afterRun w run).err ++ text = i.world.err ++ text :=
    fun text => congrArg (· ++ text) herr
  refine .inr ?_
  rcases happend : (afterRun w run).tree.append (afterRun w run).cwd log.file.text
    (Utf8.encode (RunLog.line (RunLog.entry (afterRun w run).clock s.program s.tape run.machine
      run.machine.steps (run.failure? s.config.maxSteps)))) with e | tree <;>
    rw [happend] at hserve hlogging <;>
    rcases hproblem : run.ending.problem? s.config.maxSteps with _ | f | c <;>
    rw [hproblem] at hserve
  -- The entry could not be added: that is reported, before the failure of the run if it failed.
  · refine endsWithStatus_of_failed hr hserve (.unwritten hopening hlogging rfl ⟨"", ?_⟩)
    exact (hreported _).trans String.append_empty.symm
  · refine endsWithStatus_of_failed hr hserve
      (.unwritten hopening hlogging rfl ⟨Report.error f.message, ?_⟩)
    exact congrArg (· ++ Report.error f.message) (hreported _)
  · rw [hcrash c hproblem] at hserve
    exact absurd (outcome_of_crash hr hserve) hends
  -- The entry was added.
  · exact endsWithStatus_of_served hr hserve (.written hopening hlogging happend)
  · exact endsWithStatus_of_failed hr hserve (.written hopening hlogging happend)
  · rw [hcrash c hproblem] at hserve
    exact absurd (outcome_of_crash hr hserve) hends

/-- The ways in which the log of a configuration can end a command without a status. -/
inductive Escapes (i : Invocation) (c : Config) : Crash → Prop
  /-- The directory or the prefix holds U+0000. -/
  | null (h : Path.hasNull c.outputDirectory = true ∨ Path.hasNull c.logFilePrefix = true) :
      Escapes i c .nullInPath
  /-- The directory has as many names as directories can be made, or more. -/
  | tooMany (h : i.world.depths.directories ≤ (Path.ofString c.outputDirectory).names.length) :
      Escapes i c .tooManyDirectories

/-- Once everything that a run needs is there, only the log can still crash. -/
theorem Ready.ends (h : Ready i r s symbols)
    (hr : Request.ofArguments i.dialect i.arguments = .ok r)
    (hends : i.outcome.1 ≠ .error .abandoned)
    (hserve : i.world.perform (serve i.rounds i.name r) = i.world.perform (do
      runLogged i.rounds (← openLog s.config) s.program s.tape s.rules s.config.maxSteps
        s.machine)) :
    (s.config.logRuns = true ∧ ∃ crash, i.outcome.1 = .error crash ∧ i.Escapes s.config crash) ∨
      i.EndsWithStatus := by
  have hopening := h.opening?_eq
  rw [perform_bind, perform_openLog] at hserve
  by_cases hlog : s.config.logRuns = true
  · obtain ⟨result, tree, hperform, -, hcases⟩ := i.world.perform_openIn s.config.outputDirectory
      s.config.logFilePrefix
    rw [if_pos hlog, hperform] at hserve hopening
    cases hcases with
    | opened =>
      have herr : ({ i.world with tree } : World).err = i.world.err := rfl
      refine (h.ends_some hr hends herr hopening hserve).imp_left fun ⟨hnull, hcrash⟩ => ?_
      exact ⟨hlog, _, hcrash, .null (RunLog.hasNull_of_file hnull)⟩
    | refused path reason =>
      exact .inr (endsWithStatus_of_failed hr hserve (.unopened hopening rfl rfl))
    | null hnull => exact .inl ⟨hlog, _, outcome_of_crash hr hserve, .null (.inl hnull)⟩
    | tooMany hnames => exact .inl ⟨hlog, _, outcome_of_crash hr hserve, .tooMany hnames⟩
  · rw [if_neg hlog] at hserve
    exact .inr (h.ends_none hr hends (Bool.eq_false_iff.mpr hlog) hserve)

/-- Whether the configuration that is asked for is accepted, and spells no surrogate that stands
alone if the log is turned on. -/
structure Accepts (i : Invocation) : Prop where
  loaded : ∀ r, i.request? = some r → ∃ c, i.sees r.loaded = .ok c
  paired : i.Paired

/-- **An accepted configuration makes the command crash on account of its log alone.**  Let the
arguments hold no U+0000 and not ask for help, let the configuration that they name be accepted, and
let the run end.

Then the command ends by handing back 0 or 1, and the log is dealt with: it is not asked for or not
reached, or the run is added to it, or the command fails and reports that the log cannot be written.
There are two exceptions, both with the log turned on.  The configuration may hold U+0000 in the
directory or in the prefix of the log, or the directory may have too many names.  Then the command
may end without a status and without a report. -/
theorem ends_with_status (i : Invocation)
    (harguments : ∀ text ∈ i.arguments, Path.hasNull text = false)
    (hhelp : Request.ofArguments i.dialect i.arguments ≠ .error .help)
    (hconfig : i.Accepts) (hends : i.outcome.1 ≠ .error .abandoned) :
    (∃ r c, i.request? = some r ∧ i.sees r.loaded = .ok c ∧ (r.withLog c).logRuns = true ∧
        ((Path.hasNull c.outputDirectory = true ∨ Path.hasNull c.logFilePrefix = true) ∧
            i.outcome.1 = .error .nullInPath ∨
          i.world.depths.directories ≤
              (Path.ofString (r.withLog c).outputDirectory).names.length ∧
            i.outcome.1 = .error .tooManyDirectories)) ∨
      ∃ status w, i.outcome = (.ok (.finished status), w) ∧ (status = 0 ∨ status = 1) ∧
        i.LogHandled status w := by
  rcases hr : Request.ofArguments i.dialect i.arguments with (_ | e) | r
  · exact absurd hr hhelp
  -- Arguments that are not understood name no configuration.
  · have hrequest : i.request? = none := by
      rw [request?, hr]
      rfl
    have hopening : i.opening? = none := by
      rw [opening?, config?, hrequest]
      rfl
    exact .inr ⟨1, _, outcome_of_misuse hr, .inr rfl, .unasked hopening⟩
  have hrequest : i.request? = some r := request?_eq_some_iff.mpr hr
  obtain ⟨c, hloaded⟩ := hconfig.loaded r hrequest
  have htexts : r.Throughout (· ≠ '\x00') :=
    throughout_ofArguments (by decide) (fun text htext =>
      Path.hasNull_eq_false_iff.mp (harguments text htext)) hr
  have hcrash := prepare_ne_crash htexts hloaded i.name
  have hprepared := preparation_prepare hr
  generalize hresult : i.world.perform (prepare i.name r) = result at hprepared hcrash
  cases hprepared with
  | @failed phase f hphase hreached hf =>
    have hserve : i.world.perform (serve i.rounds i.name r) =
        (.error (.failure f), { i.world with err := i.world.err ++ i.reportedBefore phase }) := by
      rw [serve, perform_bind_error hresult]
    refine .inr (endsWithStatus_of_failed hr hserve (.unreached fun h => ?_))
    cases hf.symm.trans (h phase hphase)
  | @crashed crash _ => exact absurd rfl (hcrash crash)
  | @ready s symbols h =>
    have hserve : i.world.perform (serve i.rounds i.name r) = i.world.perform (do
        runLogged i.rounds (← openLog s.config) s.program s.tape s.rules s.config.maxSteps
          s.machine) := by
      rw [serve, perform_bind_ok hresult]
    refine (h.ends hr hends hserve).imp_left ?_
    rintro ⟨hlog, crash, hcrashed, hescapes⟩
    have hsettled : s.config = r.withLog c := by
      have hconfigured : i.config? = some (r.withLog c) := by
        rw [sees] at hloaded
        rw [config?, hrequest, Option.bind_some, sees, perform_configuration, hloaded]
        rfl
      exact Option.some.inj (h.config_eq.symm.trans hconfigured)
    rw [hsettled] at hlog hescapes
    refine ⟨r, c, hrequest, hloaded, hlog, ?_⟩
    cases hescapes with
    | null hnull =>
      rw [logFilePrefix_withLog] at hnull
      exact .inl ⟨hnull.imp_left (hasNull_of_withLog htexts), hcrashed⟩
    | tooMany hnames => exact .inr ⟨hnames, hcrashed⟩

/-- A directory that cannot be made since there is a file in its place: the status is 1. -/
theorem ends_with_status_of_blocked_directory :
    let text := "\x7b\"log_runs\": true, \"output_directory\": \"t\"\x7d"
    let i : Invocation :=
      { name := "alan", arguments := ["p", "t", "--config", "c"], dialect := .late, rounds := 4
        world :=
          { tree := ⟨[(["p"], .file [73, 110, 99, 32, 48, 32, 49, 32, 45, 62, 32, 66]),
              (["t"], .file [48]), (["c"], .file (Utf8.encode text))]⟩
            cwd := [], clock := ⟨2024, 5, 17, 9, 30, 0, 0⟩ } }
    ∃ w, i.outcome = (.ok (.finished 1), w) ∧ i.LogHandled 1 w := by
  intro text i
  have hrequest : i.request? = some ⟨some "p", some "t", some (some "c"), none⟩ := by
    decide +kernel
  have hstatus : i.outcome.1 = .ok (.finished 1) := by decide +kernel
  have hconfig : i.Accepts := by
    refine ⟨fun r hr => ?_, fun r c path hr hpath _ _ => ?_⟩
    · cases hrequest.symm.trans hr
      exact ⟨{ logRuns := true, outputDirectory := "t" }, by decide +kernel⟩
    · cases hrequest.symm.trans hr
      cases hpath
      have hplain : decodeText (Utf8.encode text) = .ok text := by decide +kernel
      exact Config.paired_of_text rfl hplain (.of_not_mem (by decide))
  obtain ⟨_, _, -, -, -, ⟨-, hcrash⟩ | ⟨-, hcrash⟩⟩ | ⟨status, w, houtcome, -, hlog⟩ :=
    ends_with_status i (by decide +kernel) (by decide +kernel) hconfig
      (by rw [hstatus]; exact nofun)
  · cases hstatus.symm.trans hcrash
  · cases hstatus.symm.trans hcrash
  · rw [houtcome] at hstatus
    cases hstatus
    exact ⟨w, houtcome, hlog⟩

/-- A configuration that is accepted, although its directory for the log holds U+0000: no status is
handed back. -/
theorem no_status_of_null_directory :
    let text := "\x7b\"log_runs\": true, \"output_directory\": \"\\u0000\"\x7d"
    let i : Invocation :=
      { name := "alan", arguments := ["p", "t", "--config", "c"], dialect := .late, rounds := 4
        world :=
          { tree := ⟨[(["p"], .file [73, 110, 99, 32, 48, 32, 49, 32, 45, 62, 32, 66]),
              (["t"], .file [48]), (["c"], .file (Utf8.encode text))]⟩
            cwd := [], clock := ⟨2024, 5, 17, 9, 30, 0, 0⟩ } }
    (∀ text ∈ i.arguments, Path.hasNull text = false) ∧
      Request.ofArguments i.dialect i.arguments ≠ .error .help ∧
      i.Accepts ∧ i.outcome.1 ≠ .error .abandoned ∧
      ∀ status w, i.outcome ≠ (.ok (.finished status), w) := by
  intro text i
  have hrequest : i.request? = some ⟨some "p", some "t", some (some "c"), none⟩ := by
    decide +kernel
  have hcrash : i.outcome.1 = .error .nullInPath := by decide +kernel
  have hpaired : Json.Paired text.toList := by
    have hsplit : text.toList =
        "\x7b\"log_runs\": true, \"output_directory\": \"".toList ++ "\\u0000\"\x7d".toList := by
      decide +kernel
    rw [hsplit]
    exact .append (by decide) (.unit rfl (by decide) (.of_not_mem (by decide)))
  refine ⟨by decide +kernel, by decide +kernel,
    ⟨fun r hr => ?_, fun r c path hr hpath _ _ => ?_⟩, by rw [hcrash]; exact nofun,
    fun status w hstatus => ?_⟩
  · cases hrequest.symm.trans hr
    exact ⟨{ logRuns := true, outputDirectory := "\x00" }, by decide +kernel⟩
  · cases hrequest.symm.trans hr
    cases hpath
    exact Config.paired_of_text rfl (by decide +kernel) hpaired
  · rw [hstatus] at hcrash
    cases hcrash

end Invocation

end Simulator

end TapeMachine
