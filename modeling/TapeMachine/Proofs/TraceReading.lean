/-
A trace can be read back.

The text of a run shows the state, the head and the tape of every machine that the
run goes through, and nothing of it can be read in two ways.  The symbols are
tokens, so the words of the first line of a snapshot are the state with its colon
and the symbols.  The caret stands under the first character of one cell only, and
never in column 0 unless the head has left the tape.

* **`readTrace`** — the configurations that a trace shows;
* **`Legible`** — the machines whose snapshots can be read: tokens for symbols, and a head
  on the tape or right behind it;
* **`readTrace_trace`** — a trace of legible machines is read back;
* **`Machine.legible_of_simulate`** — all machines that a run shows are legible;
* **`trace_determines_visited`** — so the text of a run tells what the run went through.
-/
import TapeMachine.Proofs.ProgramText
import TapeMachine.Proofs.Reachable
import TapeMachine.Text.Pieces

namespace TapeMachine

/-- What a snapshot shows of a machine. -/
structure Configuration where
  state : String
  head : Int
  tape : List String
deriving DecidableEq, Repr

/-- The configuration of a machine. -/
def Machine.configuration (m : Machine) : Configuration :=
  ⟨m.state, m.head, m.tape⟩

/-! ### Reading -/

/-- The cell that begins in a column, counted from the first character of the first cell. -/
def cellAt : Nat → List String → Nat
  | _, [] => 0
  | column, symbol :: rest =>
    if column = 0 then 0 else cellAt (column - (symbol.length + 1)) rest + 1

/-- The head over a tape whose caret stands in a column.  The tape begins behind a name and one
blank. -/
def headAt (column : Nat) (name : String) (tape : List String) : Int :=
  if column = 0 then tape.length else cellAt (column - (name.length + 1)) tape

/-- The configuration that two lines show. -/
def readSnapshot (tapeLine caretLine : List Char) : Configuration :=
  match tokenize (String.ofList tapeLine) with
  | [] => ⟨"", 0, []⟩
  | name :: tape =>
    ⟨String.ofList name.toList.dropLast, headAt (caretLine.length - 1) name tape, tape⟩

/-- The configurations that lines show, two lines for each. -/
def readSnapshots : List (List Char) → List Configuration
  | tapeLine :: caretLine :: rest => readSnapshot tapeLine caretLine :: readSnapshots rest
  | _ => []

/-- The configurations that a trace shows. -/
def readTrace (text : String) : List Configuration :=
  readSnapshots (Text.pieces '\n' text.toList)

/-! ### Snapshots that can be read -/

/-- A machine whose state and symbols are tokens, with its head on the tape or right behind it. -/
structure Legible (m : Machine) : Prop where
  state : IsToken m.state
  cells : ∀ symbol ∈ m.tape, IsToken symbol
  head_nonneg : 0 ≤ m.head
  head_le_length : m.head ≤ m.tape.length

variable {m : Machine} {tape : List String} {i : Nat}

theorem newline_not_mem_of_isToken {token : String} (h : IsToken token) : '\n' ∉ token.toList := by
  intro hmem
  have hnot := h.2 '\n' hmem
  exact absurd hnot (by decide)

namespace Machine

/-- The second line of a snapshot. -/
def caretLine (m : Machine) : List Char :=
  List.replicate m.caretColumn ' ' ++ ['^']

theorem toList_tapeLine (m : Machine) :
    m.tapeLine.toList = m.state.toList ++ [':', ' '] ++ m.tape.flatMap (·.toList ++ [' ']) := by
  simp only [tapeLine_eq, label, row, String.toList_append, String.toList_join, List.flatMap_map]
  rfl

theorem toList_render (m : Machine) :
    m.render.toList = m.tapeLine.toList ++ '\n' :: m.caretLine := by
  simp only [render, String.toList_append, String.toList_ofList, List.append_assoc]
  rfl

/-- The lines of a trace, two for every machine. -/
theorem toList_trace_lines (visited : List Machine) :
    (trace visited).toList =
      (visited.flatMap fun m => [m.tapeLine.toList, m.caretLine]).flatMap (· ++ ['\n']) := by
  rw [toList_trace, List.flatMap_assoc]
  simp [toList_render]

theorem length_label (m : Machine) : m.label.length = (m.state ++ ":").length + 1 := by
  rw [label, String.length_append, String.length_append]
  rfl

end Machine

theorem isToken_append_colon {name : String} (h : IsToken name) : IsToken (name ++ ":") := by
  refine ⟨fun hempty => ?_, fun c hc => ?_⟩
  · have hchars := congrArg String.toList hempty
    simp at hchars
  · rw [String.toList_append] at hc
    rcases List.mem_append.mp hc with hname | hcolon
    · exact h.2 c hname
    · rw [List.mem_singleton.mp hcolon]
      rfl

theorem newline_not_mem_caretLine (m : Machine) : '\n' ∉ m.caretLine := by
  intro hmem
  rcases List.mem_append.mp hmem with hblank | hcaret
  · exact absurd (List.eq_of_mem_replicate hblank) (by decide)
  · exact absurd hcaret (by decide)

theorem isGap_blank : IsGap " " := by decide

theorem blank_ne_empty : " " ≠ "" := by decide

namespace Legible

theorem newline_not_mem_tapeLine (h : Legible m) : '\n' ∉ m.tapeLine.toList := by
  intro hmem
  rw [Machine.toList_tapeLine] at hmem
  rcases List.mem_append.mp hmem with hlabel | hrow
  · rcases List.mem_append.mp hlabel with hstate | hcolon
    · exact newline_not_mem_of_isToken h.state hstate
    · exact absurd hcolon (by decide)
  · obtain ⟨symbol, hsymbol, hmem⟩ := List.mem_flatMap.mp hrow
    rcases List.mem_append.mp hmem with hcell | hblank
    · exact newline_not_mem_of_isToken (h.cells symbol hsymbol) hcell
    · exact absurd hblank (by decide)

/-- The first line of a snapshot, as a layout of its words. -/
def layout (h : Legible m) : Layout where
  lead := ""
  parts := ((m.state ++ ":") :: m.tape).map (·, " ")
  isGap_lead := Layout.empty.isGap_lead
  isToken := by
    refine List.forall_mem_map.mpr (List.forall_mem_cons.mpr ⟨?_, h.cells⟩)
    exact isToken_append_colon h.state
  isGap := List.forall_mem_map.mpr fun _ _ => isGap_blank
  gap_ne := by
    intro p hp
    obtain ⟨word, -, rfl⟩ := List.mem_map.mp (List.dropLast_subset _ hp)
    exact blank_ne_empty

theorem text_layout (h : Legible m) : h.layout.text = m.tapeLine := by
  refine String.toList_inj.mp ?_
  rw [Layout.toList_text, Machine.toList_tapeLine]
  simp [layout, List.flatMap_map]

/-- The words of the first line are the state with its colon and the symbols. -/
theorem tokenize_tapeLine (h : Legible m) :
    tokenize m.tapeLine = (m.state ++ ":") :: m.tape := by
  rw [← h.text_layout, Layout.tokenize_text, Layout.tokens, layout, List.map_map]
  exact List.map_id _

end Legible

/-! ### The caret -/

/-- The cells before one tell in which column it begins. -/
theorem cellAt_length_row (h : i ≤ tape.length) :
    cellAt (Machine.row (tape.take i)).length tape = i := by
  induction tape generalizing i with
  | nil =>
    rw [List.length_nil] at h
    rw [cellAt]
    omega
  | cons symbol rest ih =>
    cases i with
    | zero => rfl
    | succ i =>
      rw [List.take_succ_cons, Machine.length_row_cons, cellAt, if_neg (by omega), Nat.add_sub_cancel_left,
        ih (Nat.le_of_succ_le_succ h)]

/-- The label keeps the caret of a head on the tape out of column 0. -/
theorem caretColumn_eq_zero_iff (m : Machine) : m.caretColumn = 0 ↔ ¬ m.HeadInside := by
  by_cases h : m.HeadInside
  · rw [Machine.caretColumn_of_lt h, String.length_append, Machine.length_label]
    simp only [h, not_true_eq_false, iff_false]
    omega
  · simp only [Machine.caretColumn_of_outside h, h, not_false_eq_true]

theorem Legible.headInside_iff (h : Legible m) : m.HeadInside ↔ m.head ≠ m.tape.length := by
  have hnonneg := h.head_nonneg
  have hle := h.head_le_length
  rw [Machine.HeadInside]
  omega

/-- The column of the caret tells where the head is. -/
theorem Legible.headAt_caretColumn (h : Legible m) :
    headAt m.caretColumn (m.state ++ ":") m.tape = m.head := by
  by_cases hinside : m.HeadInside
  · have hcolumn : m.caretColumn ≠ 0 := fun hzero => (caretColumn_eq_zero_iff m).mp hzero hinside
    have hlt := hinside.2
    have hnonneg := h.head_nonneg
    rw [headAt, if_neg hcolumn, Machine.caretColumn_of_lt hinside, String.length_append,
      Machine.length_label, Nat.add_sub_cancel_left, cellAt_length_row (by omega)]
    omega
  · rw [headAt, if_pos ((caretColumn_eq_zero_iff m).mpr hinside)]
    exact (not_not.mp (mt h.headInside_iff.mpr hinside)).symm

/-! ### Traces -/

theorem Legible.readSnapshot_eq (h : Legible m) :
    readSnapshot m.tapeLine.toList m.caretLine = m.configuration := by
  have hcolumn : m.caretLine.length - 1 = m.caretColumn := by
    simp [Machine.caretLine]
  have hstate : String.ofList (m.state ++ ":").toList.dropLast = m.state := by
    rw [String.toList_append]
    exact (congrArg String.ofList List.dropLast_concat).trans String.ofList_toList
  rw [readSnapshot, String.ofList_toList, h.tokenize_tapeLine]
  simp only [hcolumn, hstate, h.headAt_caretColumn]
  rfl

theorem readSnapshots_lines {visited : List Machine} (h : ∀ m ∈ visited, Legible m)
    (rest : List (List Char)) :
    readSnapshots ((visited.flatMap fun m => [m.tapeLine.toList, m.caretLine]) ++ rest) =
      visited.map Machine.configuration ++ readSnapshots rest := by
  induction visited with
  | nil => rfl
  | cons m visited ih =>
    obtain ⟨hm, hvisited⟩ := List.forall_mem_cons.mp h
    rw [List.flatMap_cons, List.append_assoc, List.cons_append, List.cons_append, List.nil_append,
      readSnapshots, hm.readSnapshot_eq, ih hvisited]
    rfl

/-- **A trace of legible machines is read back.** -/
theorem readTrace_trace {visited : List Machine} (h : ∀ m ∈ visited, Legible m) :
    readTrace (Machine.trace visited) = visited.map Machine.configuration := by
  have hlines : ∀ line ∈ visited.flatMap fun m => [m.tapeLine.toList, m.caretLine],
      '\n' ∉ line := by
    intro line hline
    obtain ⟨m, hm, hmem⟩ := List.mem_flatMap.mp hline
    rcases List.mem_cons.mp hmem with rfl | hmem
    · exact (h m hm).newline_not_mem_tapeLine
    · rw [List.mem_singleton.mp hmem]
      exact newline_not_mem_caretLine m
  rw [readTrace, Machine.toList_trace_lines, Text.pieces_lines hlines, readSnapshots_lines h]
  exact List.append_nil _

/-! ### Runs -/

namespace Machine

variable {policy : Overflow} {rules : List Rule}

theorem WellFormed.legible (h : WellFormed tape policy rules m) (htape : ∀ s ∈ tape, IsToken s)
    (hrules : ∀ r ∈ rules, IsToken r.write ∧ IsToken r.next) : Legible m where
  state := by
    rcases h.state with hstart | ⟨r, hr, hnext⟩
    · rw [hstart]
      decide
    · rw [hnext]
      exact (hrules r hr).2
  cells symbol hs := by
    rcases h.cells symbol hs with hfirst | ⟨r, hr, rfl⟩
    · exact htape symbol hfirst
    · exact (hrules r hr).1
  head_nonneg := h.head_nonneg
  head_le_length := h.head_le_length

/-- Every machine that is shown by a run over two texts is legible. -/
theorem legible_of_simulate {rounds : Nat} {program tape policy : String} {limit : Int} {r : Run}
    (h : simulate rounds program tape policy limit = .ok r) : ∀ m ∈ r.visited, Legible m := by
  obtain ⟨rules, p, hprogram, htape, -, rfl⟩ := simulate_eq_ok_iff.mp h
  intro m hm
  obtain ⟨k, hvisited⟩ := exists_visits_of_run (m := onTape (readTape tape) p) rfl rules limit rounds
  rw [hvisited] at hm
  obtain ⟨j, hj⟩ := Course.exists_after_of_mem_visits hm
  have hstart := (wellFormed_onTape htape p).mono (List.nil_subset rules)
  refine (hstart.after htape hj).legible (fun s hs => ?_) fun r hr => ⟨?_, ?_⟩
  · rw [readTape_eq] at hs
    exact isToken_of_mem_tokenize hs
  · exact isToken_of_readProgram hprogram hr (by simp [Rule.spelling])
  · exact isToken_of_readProgram hprogram hr (by simp [Rule.spelling])

end Machine

/-- **The text of a run tells what the run went through.**  Whatever the program and the tape, the
policy and the limit, reading the text gives back the state, the head and the tape of every machine
shown.  So runs that show the same text have gone through the same configurations.  A caret in
column 0 means that the head stands behind the last cell. -/
theorem trace_determines_visited {program tape : String} {rules : List Rule}
    (hprogram : readProgram program = .ok rules) (htape : readTape tape ≠ []) (policy : Overflow)
    (limit : Int) (rounds : Nat) :
    ∃ r, simulate rounds program tape policy.name limit = .ok r ∧
      readTrace r.text = r.visited.map Machine.configuration ∧
      (∀ rounds' program' tape' policy' limit' r',
        simulate rounds' program' tape' policy' limit' = .ok r' → r'.text = r.text →
          r'.visited.map Machine.configuration = r.visited.map Machine.configuration) ∧
      ∀ m ∈ r.visited,
        (m.caretColumn = 0 ↔ m.head = m.tape.length) ∧ (m.caretColumn = 0 ↔ ¬ m.HeadInside) := by
  have hrun : simulate rounds program tape policy.name limit =
      .ok ((Machine.onTape (readTape tape) policy).run rounds rules limit) :=
    simulate_eq_ok_iff.mpr ⟨rules, policy, hprogram, htape, Overflow.ofName?_name policy, rfl⟩
  have hread := readTrace_trace (Machine.legible_of_simulate hrun)
  refine ⟨_, hrun, hread, fun rounds' program' tape' policy' limit' r' hrun' htext => ?_,
    fun m hm => ⟨?_, caretColumn_eq_zero_iff m⟩⟩
  · rw [← hread, ← readTrace_trace (Machine.legible_of_simulate hrun')]
    exact congrArg readTrace htext
  · rw [caretColumn_eq_zero_iff, (Machine.legible_of_simulate hrun m hm).headInside_iff, not_not]

/-- A state that ends in a colon and a symbol that looks like the caret do no harm. -/
theorem trace_determines_visited_of_one_rule :
    readProgram "Inc a b -> ^:" = .ok [⟨"Inc", "a", "b", .right, "^:"⟩] ∧ readTape "a ^" ≠ [] ∧
      ∃ r, simulate 2 "Inc a b -> ^:" "a ^" Overflow.error.name 0 = .ok r ∧
        r.text = "Inc: a ^ \n     ^\n^:: b ^ \n      ^\n" ∧
        readTrace r.text = [⟨"Inc", 0, ["a", "^"]⟩, ⟨"^:", 1, ["b", "^"]⟩] := by
  have hprogram : readProgram "Inc a b -> ^:" = .ok [⟨"Inc", "a", "b", .right, "^:"⟩] :=
    readProgram_eq_ok_iff_tokenize.mpr (by decide +kernel)
  have htape : readTape "a ^" = ["a", "^"] := by
    rw [readTape_eq]
    decide +kernel
  have hne : readTape "a ^" ≠ [] := by simp [htape]
  obtain ⟨r, hrun, hread, -⟩ := trace_determines_visited hprogram hne .error 0 2
  have hsame : r = (Machine.onTape ["a", "^"] .error).run 2
      [⟨"Inc", "a", "b", .right, "^:"⟩] 0 := by
    obtain ⟨rules, policy, hrules, -, hpolicy, rfl⟩ := simulate_eq_ok_iff.mp hrun
    rw [hprogram] at hrules
    cases hrules
    cases hpolicy
    rw [htape]
  refine ⟨hprogram, hne, r, hrun, ?_, ?_⟩
  · rw [hsame]
    decide +kernel
  · rw [hread, hsame]
    rfl

end TapeMachine
