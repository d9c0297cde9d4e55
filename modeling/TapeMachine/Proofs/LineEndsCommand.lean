/-
Line ends and the command.

A file with other line ends gives the same rules and the same tape, so the command prints
the same.  That holds for every file of the tree at once, and a configuration is loaded as
before as well.  Only where a configuration is refused may the wording change: a refusal
counts lines and characters.

* **`Node.Relined`** — an entry and what it may become when line ends are changed;
* **`linesOf`** — what all line ends have in common;
* **`Config.load_relined`** — loading a configuration;
* **`Simulator.Invocation.line_ends_change_nothing`** — files by themselves, and the whole
  command.
-/
import TapeMachine.Proofs.ConfigLoading
import TapeMachine.Proofs.JsonLineEnds
import TapeMachine.Proofs.Lockstep
import TapeMachine.Proofs.Phases
import TapeMachine.Proofs.SourceReading

namespace TapeMachine

open TapeMachine.Action World

/-- Whether an entry is the same, or a file that holds one text with other line ends. -/
inductive Node.Relined : Node → Node → Prop
  | same (node : Node) : Relined node node
  | lines {p : String} (hp : '\r' ∉ p.toList) (ends ends' : List LineEnd) :
      Relined (.file (encodeWith ends p)) (.file (encodeWith ends' p))

theorem Node.Relined.sameKind {node node' : Node} (h : Relined node node') :
    SameKind node node' := by
  cases h with
  | same =>
    cases node with
    | dir => exact .dir
    | file bytes => exact .file bytes bytes
  | lines => exact .file _ _

/-- What the bytes of a file say, up to line ends. -/
def linesOf (bytes : List UInt8) : Except Utf8.Defect (List Char) :=
  (decodeText bytes).map fun text => squeeze text.toList

variable {w w' : World} {t t' : Tree}

/-! ### Reading -/

/-- Results that are the same under a map fail alike, or the map does not tell them apart. -/
theorem error_or_ok_of_map_eq {ε α β : Type} {f : α → β} {r r' : Except ε α}
    (h : r.map f = r'.map f) :
    (∃ e, r = .error e ∧ r' = .error e) ∨ ∃ x x', r = .ok x ∧ r' = .ok x' ∧ f x = f x' := by
  rcases r with e | x <;> rcases r' with e' | x'
  · exact .inl ⟨e, rfl, congrArg Except.error (Except.error.inj h).symm⟩
  · cases h
  · cases h
  · exact .inr ⟨x, x', rfl, rfl, Except.ok.inj h⟩

theorem linesOf_encodeWith {p : String} (hp : '\r' ∉ p.toList) (ends : List LineEnd) :
    linesOf (encodeWith ends p) = .ok (squeeze p.toList) := by
  obtain ⟨text, hdecode, hsqueeze⟩ := decodeText_encodeWith hp ends
  rw [linesOf, hdecode, Except.map, hsqueeze]

theorem Tree.Related.read_relined (h : t.Related Node.Relined t') (cwd : Place) (path : String) :
    (t.read cwd path).map linesOf = (t'.read cwd path).map linesOf := by
  rw [Tree.read, Tree.read, Tree.stat, Tree.stat, (h.mono fun _ _ => (·.sameKind)).walk_eq]
  rcases t'.walk cwd path with e | place
  · rfl
  dsimp only
  rcases h.none_or_some place with ⟨hfind, hfind'⟩ |
    ⟨_, _, hfind, hfind', _ | ⟨hp, ends, ends'⟩⟩ <;> rw [hfind, hfind']
  dsimp only
  rw [Except.map, Except.map, linesOf_encodeWith hp, linesOf_encodeWith hp]

/-- One file with any two mixtures of line ends. -/
theorem Tree.related_set_encodeWith (t : Tree) (place : Place) (hplace : place ≠ []) {p : String}
    (hp : '\r' ∉ p.toList) (ends ends' : List LineEnd) :
    (t.set place (.file (encodeWith ends p))).Related Node.Relined
      (t.set place (.file (encodeWith ends' p))) := by
  have hrefl : t.Related Node.Relined t := by
    intro other
    rcases t.find? other with _ | node
    · exact .none
    · exact .some (.same node)
  exact hrefl.set hplace (.lines hp ends ends')

/-- A source is read as the same text up to runs of line feeds, or not read for one reason. -/
theorem readSource_relined (h : w.Related Node.Relined w') (path : String) :
    (w.perform (readSource path)).1.map (squeeze ·.toList) =
      (w'.perform (readSource path)).1.map (squeeze ·.toList) := by
  have hread := h.tree.read_relined w'.cwd (Path.ofString path).text
  rw [perform_readSource, perform_readSource, h.cwd]
  split
  · rfl
  rcases error_or_ok_of_map_eq hread with ⟨e, hfound, hfound'⟩ |
    ⟨bytes, bytes', hfound, hfound', hlines⟩ <;> rw [hfound, hfound']
  dsimp only
  rcases error_or_ok_of_map_eq hlines with ⟨d, htext, htext'⟩ |
    ⟨text, text', htext, htext', hsqueeze⟩ <;> rw [htext, htext']
  exact congrArg Except.ok hsqueeze

/-! ### Configurations -/

namespace Config

/-- Whether two results are the same, or both report a bad configuration. -/
def AgreesOrRefused (r r' : Except Problem Config) : Prop :=
  r = r' ∨ ∃ reason reason', r = .error (.failure (.badConfig reason)) ∧
    r' = .error (.failure (.badConfig reason'))

theorem ofText_relined (room : Nat) (path : String) {text text' : String}
    (h : squeeze text.toList = squeeze text'.toList) :
    AgreesOrRefused (ofText room path text) (ofText room path text') := by
  have hdepth : Json.tooDeep? room text.toList = Json.tooDeep? room text'.toList := by
    rw [← Json.tooDeep?_squeeze, h, Json.tooDeep?_squeeze]
  rw [ofText, ofText, hdepth]
  rcases Json.tooDeep? room text'.toList with _ | k
  · dsimp only
    -- The two refusals name different places in their texts, which may show in the wording.
    rcases Json.read_cases_of_squeeze h with ⟨v, hread, hread'⟩ | ⟨n, hread, hread'⟩ |
      ⟨e, rest, rest', hread, hread'⟩ <;> rw [hread, hread']
    · cases v <;> exact .inl rfl
    · exact .inl rfl
    · exact .inr ⟨_, _, rfl, rfl⟩
  · exact .inl rfl

/-- A configuration is the same, or refused in both worlds. -/
theorem load_relined (h : w.Related Node.Relined w') (path : Option String) :
    AgreesOrRefused (w.perform (load path)).1 (w'.perform (load path)).1 := by
  rcases path with _ | path
  · exact .inl rfl
  have hmissing : (∀ bytes, ¬Finds w path bytes) → (∀ bytes, ¬Finds w' path bytes) →
      AgreesOrRefused (w.perform (load (some path))).1 (w'.perform (load (some path))).1 := by
    intro hnone hnone'
    obtain ⟨reason, hload⟩ := perform_load_of_missing hnone
    obtain ⟨reason', hload'⟩ := perform_load_of_missing hnone'
    rw [hload, hload']
    exact .inr ⟨reason, reason', rfl, rfl⟩
  -- A file is found in both worlds or in neither, since that is a matter of places and paths.
  by_cases hnull : Path.hasNull path = false
  · rcases error_or_ok_of_map_eq (h.tree.read_relined w'.cwd path) with ⟨e, hfound, hfound'⟩ |
      ⟨bytes, bytes', hfound, hfound', hlines⟩ <;> rw [← h.cwd] at hfound
    · exact hmissing (fun _ hfinds => nomatch hfound.symm.trans hfinds.2)
        fun _ hfinds => nomatch hfound'.symm.trans hfinds.2
    rw [perform_load_of_finds ⟨hnull, hfound⟩, perform_load_of_finds ⟨hnull, hfound'⟩, h.depths]
    rcases error_or_ok_of_map_eq hlines with ⟨d, htext, htext'⟩ |
      ⟨text, text', htext, htext', hsqueeze⟩ <;> rw [htext, htext']
    · exact .inl rfl
    · exact ofText_relined _ path hsqueeze
  · exact hmissing (fun _ hfinds => hnull hfinds.1) fun _ hfinds => hnull hfinds.1

end Config

namespace Simulator

/-! ### The command -/

theorem inStep_loadRules (path : String) :
    InStep Node.Relined (loadRules path : Action (StateM World) (List Rule)) := by
  intro w w' h
  rw [Agrees, perform_loadRules, perform_loadRules]
  refine ⟨?_, h⟩
  rcases error_or_ok_of_map_eq (readSource_relined h path) with ⟨p, hread, hread'⟩ |
    ⟨text, text', hread, hread', hsqueeze⟩ <;> rw [hread, hread']
  dsimp only
  rw [readProgram_eq_of_squeeze hsqueeze]

theorem inStep_loadTape (path : String) :
    InStep Node.Relined (loadTape path : Action (StateM World) (List String)) := by
  intro w w' h
  rw [Agrees, perform_loadTape, perform_loadTape]
  refine ⟨?_, h⟩
  rcases error_or_ok_of_map_eq (readSource_relined h path) with ⟨p, hread, hread'⟩ |
    ⟨text, text', hread, hread', hsqueeze⟩ <;> rw [hread, hread']
  exact congrArg Except.ok (readTape_eq_of_squeeze hsqueeze)

/-- A configuration is settled in the same way, or refused in both worlds. -/
theorem configuration_relined (h : w.Related Node.Relined w') (r : Request) :
    Agrees Node.Relined w w' (r.configuration : Action (StateM World) Config) ∨
      ∃ reason reason', w.perform r.configuration = (.error (.failure (.badConfig reason)), w) ∧
        w'.perform r.configuration = (.error (.failure (.badConfig reason')), w') := by
  have hloaded : Config.AgreesOrRefused (w.perform r.loaded).1 (w'.perform r.loaded).1 := by
    rw [Request.loaded]
    split
    · exact Config.load_relined h none
    · exact Config.load_relined h _
    · exact .inl rfl
  rw [Agrees, perform_configuration, perform_configuration]
  rcases hloaded with hsame | ⟨reason, reason', hrefused, hrefused'⟩
  · exact .inl ⟨congrArg (·.map r.withLog) hsame, h⟩
  · rw [hrefused, hrefused']
    exact .inr ⟨reason, reason', rfl, rfl⟩

/-- Once the configuration is settled, the preparation goes in the same way. -/
theorem agrees_prepare (name : String) {r : Request}
    (hconfig : Agrees Node.Relined w w' (r.configuration : Action (StateM World) Config)) :
    Agrees Node.Relined w w' (prepare name r : Action (StateM World) Setup) := by
  refine hconfig.bind fun config => ?_
  split
  · refine (inStep_loadRules _).bind fun rules => ?_
    split
    · refine (inStep_loadTape _).bind fun symbols => ?_
      split
      · exact inStep_fail _
      · exact inStep_pure _
    · exact inStep_failWithUsage name _
  · exact inStep_failWithUsage name _

/-- And so does everything that follows, which reads no file. -/
theorem agrees_serve (rounds : Nat) (name : String) {r : Request}
    (hconfig : Agrees Node.Relined w w' (r.configuration : Action (StateM World) Config)) :
    Agrees Node.SameKind w w' (serve rounds name r : Action (StateM World) Unit) :=
  ((agrees_prepare name hconfig).mono fun _ _ => (·.sameKind)).bind fun s =>
    (inStep_openLog s.config).bind fun _ => inStep_runLogged rounds _ _ _ _ _ _

namespace Invocation

/-- The same command among other files. -/
def among (tree : Tree) (i : Invocation) : Invocation :=
  { i with world := { i.world with tree } }

/-- A command among files with other line ends. -/
theorem outcome_relined {i : Invocation} {tree : Tree}
    (h : i.world.tree.Related Node.Relined tree) :
    (i.among tree).outcome.1 = i.outcome.1 ∧ (i.among tree).outcome.2.out = i.outcome.2.out ∧
      (i.failure? .configuration = none →
        (i.among tree).outcome.2.err = i.outcome.2.err) := by
  have hworld : i.world.Related Node.Relined (i.among tree).world :=
    ⟨h, rfl, rfl, rfl, rfl, rfl⟩
  have hrequest : Request.ofArguments (i.among tree).dialect (i.among tree).arguments =
      Request.ofArguments i.dialect i.arguments := rfl
  -- Arguments that are refused, or that ask for help, end the command before it looks at a file.
  rcases hr : Request.ofArguments i.dialect i.arguments with (_ | e) | r
  · rw [outcome, outcome, Simulator.main, Simulator.main, hrequest, hr]
    exact ⟨rfl, rfl, fun _ => rfl⟩
  · rw [outcome_of_misuse hr, outcome_of_misuse (i := i.among tree) hr]
    exact ⟨rfl, rfl, fun _ => rfl⟩
  rw [outcome_of_request hr, outcome_of_request (i := i.among tree) hr]
  rcases configuration_relined hworld r with hconfig | ⟨reason, reason', hrefused, hrefused'⟩
  · obtain ⟨hend, hleft⟩ := finish_of_agrees (agrees_serve i.rounds i.name hconfig)
    exact ⟨hend.symm, hleft.out.symm, fun _ => hleft.err.symm⟩
  -- Both report a bad configuration, and only their words may differ.
  · have hserve : i.world.perform (serve i.rounds i.name r) =
        (.error (.failure (.badConfig reason)), i.world) := by
      rw [serve, perform_bind_error (by rw [prepare, perform_bind_error hrefused])]
    have hserve' :
        (i.among tree).world.perform (serve (i.among tree).rounds (i.among tree).name r) =
          (.error (.failure (.badConfig reason')), (i.among tree).world) := by
      rw [serve, perform_bind_error (by rw [prepare, perform_bind_error hrefused'])]
    have hfailure : i.failure? .configuration = some (.badConfig reason) := by
      rw [failure?, request?, hr]
      show failureOf? (i.world.perform r.configuration).1 = _
      rw [hrefused]
      rfl
    rw [finish_eq, finish_eq, hserve, hserve', hfailure]
    exact ⟨rfl, rfl, fun hnone => absurd hnone (Option.some_ne_none _)⟩

/-- **Line ends never change the meaning of a file.**

Let a file hold a text without `CR`, in which each line feed may have been replaced by any line end.
Then reading it gives a text with the same rules, or the same failure to parse them, and with the
same tape.

Let any files of a tree be replaced by such files with other line ends.  Then every command ends in
the same way and prints the same.  It also reports the same, unless its configuration is refused. -/
theorem line_ends_change_nothing :
    (∀ (w : World) (path p : String) (ends : List LineEnd), '\r' ∉ p.toList →
        Path.hasNull path = false →
        w.tree.read w.cwd (Path.ofString path).text = .ok (encodeWith ends p) →
        ∃ text, w.perform (readSource path) = (.ok text, w) ∧ readProgram text = readProgram p ∧
          readTape text = readTape p) ∧
      ∀ (i : Invocation) (tree : Tree), i.world.tree.Related Node.Relined tree →
        (i.among tree).outcome.1 = i.outcome.1 ∧
          (i.among tree).outcome.2.out = i.outcome.2.out ∧
          (i.failure? .configuration = none →
            (i.among tree).outcome.2.err = i.outcome.2.err) := by
  refine ⟨fun w path p ends hp hnull hread => ?_, fun i tree => outcome_relined⟩
  obtain ⟨text, hdecode, hsqueeze⟩ := decodeText_encodeWith hp ends
  refine ⟨text, ?_, readProgram_eq_of_squeeze hsqueeze, readTape_eq_of_squeeze hsqueeze⟩
  rw [perform_readSource, hnull, hread]
  dsimp only
  rw [hdecode]
  rfl

/-- An empty line whose ends are chosen so that it is gone when the file is read. -/
theorem line_ends_change_nothing_of_lost_line :
    let p := "Inc 0 1\n\n-> B"
    let t : Tree := ⟨[(["t"], .file [48])]⟩
    let i : Invocation :=
      { name := "alan", arguments := ["p", "t"], dialect := .late, rounds := 4
        world :=
          { tree := t.set ["p"] (.file (encodeWith [] p)), cwd := []
            clock := ⟨2024, 5, 17, 9, 30, 0, 0⟩ } }
    let j := i.among (t.set ["p"] (.file (encodeWith [.cr, .lf] p)))
    (∃ text, j.world.perform (readSource "p") = (.ok text, j.world) ∧ text ≠ p ∧
        readProgram text = readProgram p) ∧
      j.outcome.1 = .ok (.finished 0) ∧ j.outcome.2.out = i.outcome.2.out ∧
      j.outcome.2.err = i.outcome.2.err := by
  intro p t i j
  have hp : '\r' ∉ p.toList := by decide +kernel
  have hrelined := t.related_set_encodeWith ["p"] (by decide) hp [] [.cr, .lf]
  obtain ⟨text, hread, hrules, -⟩ := line_ends_change_nothing.1 j.world "p" p [.cr, .lf] hp
    (by decide +kernel) (by decide +kernel)
  obtain ⟨hend, hout, herr⟩ := line_ends_change_nothing.2 i _ hrelined
  refine ⟨⟨text, hread, ?_, hrules⟩, ?_, hout, herr (by decide +kernel)⟩
  · rintro rfl
    have hother : (j.world.perform (readSource "p")).1 ≠ .ok p := by decide +kernel
    exact hother (congrArg Prod.fst hread)
  · have hstatus : i.outcome.1 = .ok (.finished 0) := by decide +kernel
    exact hend.trans hstatus

end Invocation

end Simulator

end TapeMachine
