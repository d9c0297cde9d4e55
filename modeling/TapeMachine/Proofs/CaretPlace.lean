/-
Where the caret stands under a line of any symbols.

The state and the symbols may be any text, also empty text, and the head may be any integer.  On a
cell, the caret has as many blanks in front as the first line has characters before that cell, so
behind that many characters the line goes on with the symbols from the head on.  Every cell takes
one character at least, so a head further to the right has its caret further to the right.  The
label takes two, which keeps column 0 for the heads that are on no cell.

* **`Machine.tapeLine_split`** — the first line, parted before a cell;
* **`Machine.drop_caretColumn`** — the first line from the caret on;
* **`Machine.caretColumn_lt_caretColumn`** — the carets of two heads on one tape;
* **`Machine.render_marks_head`** — the snapshot of every machine.
-/
import TapeMachine.Machine.Snapshot

namespace TapeMachine.Machine

variable {m : Machine} {symbols : List String} {a b : Nat}

/-- More cells take more characters. -/
theorem length_row_take_lt (h : a < b) (hb : b ≤ symbols.length) :
    (row (symbols.take a)).length < (row (symbols.take b)).length := by
  induction symbols generalizing a b with
  | nil =>
    rw [List.length_nil] at hb
    omega
  | cons symbol rest ih =>
    obtain ⟨b, rfl⟩ : ∃ c, b = c + 1 := ⟨b - 1, by omega⟩
    rw [List.take_succ_cons, length_row_cons]
    cases a with
    | zero =>
      have hnone : (row []).length = 0 := rfl
      rw [List.take_zero, hnone]
      omega
    | succ a =>
      have hrest := ih (Nat.lt_of_succ_lt_succ h) (Nat.le_of_succ_le_succ hb)
      rw [List.take_succ_cons, length_row_cons]
      omega

/-- The first line shows the cells before a place, and then the others. -/
theorem tapeLine_split (m : Machine) (k : Nat) :
    m.tapeLine = m.label ++ row (m.tape.take k) ++ row (m.tape.drop k) := by
  rw [tapeLine_eq, String.append_assoc, ← row_append, List.take_append_drop]

/-- The label keeps the caret of a head on a cell away from the first two columns. -/
theorem two_le_caretColumn (h : m.HeadInside) : 2 ≤ m.caretColumn := by
  have hcolon : ": ".length = 2 := rfl
  rw [caretColumn_of_lt h, label, String.length_append, String.length_append, hcolon]
  omega

/-- From the caret on, the first line shows the symbols from the head on. -/
theorem drop_caretColumn (h : m.HeadInside) :
    m.tapeLine.toList.drop m.caretColumn = (row (m.tape.drop m.head.toNat)).toList := by
  rw [tapeLine_split m m.head.toNat, caretColumn_of_lt h, String.toList_append,
    ← String.length_toList, List.drop_left]

/-- A head further to the right has its caret further to the right. -/
theorem caretColumn_lt_caretColumn (m : Machine) {head head' : Int} (hnonneg : 0 ≤ head)
    (hlt : head < head') (hinside : head' < m.tape.length) :
    { m with head }.caretColumn < { m with head := head' }.caretColumn := by
  have hcolumn : ∀ place : Int, 0 ≤ place → place < m.tape.length →
      { m with head := place }.caretColumn =
        m.label.length + (row (m.tape.take place.toNat)).length := by
    intro place hplace hplace'
    rw [caretColumn_of_lt ⟨hplace, hplace'⟩, String.length_append]
    rfl
  have hrow : (row (m.tape.take head.toNat)).length < (row (m.tape.take head'.toNat)).length :=
    length_row_take_lt (by omega) (by omega)
  rw [hcolumn head hnonneg (by omega), hcolumn head' (by omega) hinside]
  omega

/-- **The caret stands under the cell that the head is on.**  Whatever the state and the symbols of
a machine are and wherever its head is, the snapshot is a first line, a line feed, some blanks and a
caret.  The first line is the state, a colon, a blank, and every symbol followed by one blank.

If the head is on a cell, there are two blanks at least, and behind as many characters the first
line shows just the symbols from the head on.  If the head is on no cell, there is no blank.  Among
the heads on one tape the caret moves to the right with the head. -/
theorem render_marks_head (m : Machine) :
    m.render = m.tapeLine ++ "\n" ++ String.ofList (List.replicate m.caretColumn ' ') ++ "^" ∧
    m.tapeLine = m.state ++ ": " ++ String.join (m.tape.map (· ++ " ")) ∧
    (0 ≤ m.head → m.head < m.tape.length →
      2 ≤ m.caretColumn ∧ m.tapeLine.toList.drop m.caretColumn =
        (String.join ((m.tape.drop m.head.toNat).map (· ++ " "))).toList) ∧
    (m.head < 0 ∨ m.tape.length ≤ m.head → m.caretColumn = 0) ∧
    ∀ head head' : Int, 0 ≤ head → head < head' → head' < m.tape.length →
      { m with head }.caretColumn < { m with head := head' }.caretColumn := by
  refine ⟨rfl, tapeLine_eq m, ?_, ?_, ?_⟩
  · intro hnonneg hlt
    have hinside : m.HeadInside := ⟨hnonneg, hlt⟩
    exact ⟨two_le_caretColumn hinside, drop_caretColumn hinside⟩
  · intro houtside
    refine caretColumn_of_outside fun hinside => ?_
    obtain ⟨hnonneg, hlt⟩ := hinside
    omega
  · intro head head' hnonneg hlt hinside
    exact caretColumn_lt_caretColumn m hnonneg hlt hinside

/-- A symbol without characters and one that is a blank before the head. -/
theorem render_marks_head_of_blank_symbols :
    let m := onTape ["", " ", "日本"] .error "é" 2
    (0 ≤ m.head ∧ m.head < m.tape.length) ∧ m.render = "é:    日本 \n      ^" ∧
      2 ≤ m.caretColumn ∧ m.tapeLine.toList.drop m.caretColumn = ['日', '本', ' '] ∧
      { m with head := 1 }.caretColumn < m.caretColumn := by
  intro m
  obtain ⟨-, -, hinside, -, hmono⟩ := render_marks_head m
  obtain ⟨htwo, hdrop⟩ := hinside (by decide) (by decide)
  refine ⟨by decide, by decide +kernel, htwo, ?_, ?_⟩
  · rw [hdrop]
    decide +kernel
  · exact hmono 1 2 (by omega) (by omega) (by decide)

end TapeMachine.Machine
