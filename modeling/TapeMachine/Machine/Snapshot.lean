/-
The snapshot of a machine: two lines of text.

The first line is `STATE: sym sym ... `, every symbol followed by one blank.  The
second line holds a caret under the first character of the cell that the head
stands on, or in column 0 when the head stands on no cell.

The first line is drawn cell by cell.  The length that it has when the cell under the
head is reached is the column of the caret.

* **`Machine.render`** — the snapshot, without a final line feed;
* **`Machine.tapeLine_eq`** — the first line as a whole;
* **`Machine.caretColumn_of_lt`**, **`Machine.caretColumn_of_outside`** — where the
  caret stands.
-/
import TapeMachine.Machine

namespace TapeMachine.Machine

/-- Symbols in a row, each followed by one blank. -/
def row (symbols : List String) : String :=
  String.join (symbols.map (· ++ " "))

/-- What stands before the first cell. -/
def label (m : Machine) : String :=
  m.state ++ ": "

/-- The column of the caret as far as it is known, and the first line as far as it is drawn. -/
structure Drawing where
  caret : Nat
  line : String
deriving DecidableEq, Repr

/-- A drawing with cells added to its line, counted from `index`.  The cell under the head gets the
caret. -/
def Drawing.addCells (head : Int) : Nat → List String → Drawing → Drawing
  | _, [], d => d
  | index, symbol :: rest, d =>
    addCells head (index + 1) rest
      { caret := if index = head then d.line.length else d.caret
        line := d.line ++ (symbol ++ " ") }

/-- The drawing of a machine.  The caret stays in column 0 if the head is on no cell. -/
def drawing (m : Machine) : Drawing :=
  Drawing.addCells m.head 0 m.tape { caret := 0, line := m.label }

/-- The first line of a snapshot. -/
def tapeLine (m : Machine) : String :=
  m.drawing.line

/-- The number of blanks before the caret. -/
def caretColumn (m : Machine) : Nat :=
  m.drawing.caret

/-- The two lines of a snapshot. -/
def render (m : Machine) : String :=
  let d := m.drawing
  d.line ++ "\n" ++ String.ofList (List.replicate d.caret ' ') ++ "^"

/-- Whether the head stands on a cell, counted from the left end. -/
def HeadInside (m : Machine) : Prop :=
  0 ≤ m.head ∧ m.head < m.tape.length

instance (m : Machine) : Decidable m.HeadInside :=
  inferInstanceAs (Decidable (_ ∧ _))

theorem row_cons (symbol : String) (rest : List String) :
    row (symbol :: rest) = symbol ++ " " ++ row rest := by
  rw [row, List.map_cons, String.join_cons]
  rfl

theorem length_row_cons (symbol : String) (rest : List String) :
    (row (symbol :: rest)).length = symbol.length + 1 + (row rest).length := by
  rw [row_cons, String.length_append, String.length_append]
  rfl

theorem row_append (symbols rest : List String) :
    row (symbols ++ rest) = row symbols ++ row rest := by
  rw [row, List.map_append, String.join_append]
  rfl

namespace Drawing

variable {head : Int} {index offset : Nat} {symbols : List String} {d : Drawing}

theorem line_addCells : (addCells head index symbols d).line = d.line ++ row symbols := by
  induction symbols generalizing index d with
  | nil => exact String.append_empty.symm
  | cons symbol rest ih => rw [addCells, ih, row_cons, String.append_assoc]

/-- Cells that the head is not on leave the caret where it is. -/
theorem caret_addCells_of_outside (h : head < index ∨ index + symbols.length ≤ head) :
    (addCells head index symbols d).caret = d.caret := by
  induction symbols generalizing index d with
  | nil => rfl
  | cons symbol rest ih =>
    rw [List.length_cons] at h
    rw [addCells, ih (by omega), if_neg (by omega)]

/-- The caret stands behind the line that there was and the cells before the head. -/
theorem caret_addCells_of_lt (h : offset < symbols.length) (hhead : head = index + offset) :
    (addCells head index symbols d).caret = (d.line ++ row (symbols.take offset)).length := by
  induction symbols generalizing index offset d with
  | nil => cases h
  | cons symbol rest ih =>
    rw [addCells]
    cases offset with
    | zero =>
      rw [caret_addCells_of_outside (.inl (by omega)), if_pos (by omega), List.take_zero]
      exact congrArg String.length String.append_empty.symm
    | succ offset =>
      rw [ih (Nat.lt_of_succ_lt_succ h) (by omega), List.take_succ_cons, row_cons,
        String.append_assoc]

end Drawing

theorem tapeLine_eq (m : Machine) : m.tapeLine = m.label ++ row m.tape :=
  Drawing.line_addCells

theorem caretColumn_of_lt {m : Machine} (h : m.HeadInside) :
    m.caretColumn = (m.label ++ row (m.tape.take m.head.toNat)).length := by
  obtain ⟨hnonneg, hlt⟩ := h
  exact Drawing.caret_addCells_of_lt (by omega) (by omega)

theorem caretColumn_of_outside {m : Machine} (h : ¬ m.HeadInside) : m.caretColumn = 0 := by
  rw [HeadInside] at h
  exact Drawing.caret_addCells_of_outside (by omega)

/-- Snapshots one after the other, each followed by a line feed. -/
def trace (visited : List Machine) : String :=
  String.join (visited.map fun m => m.render ++ "\n")

theorem toList_trace (visited : List Machine) :
    (trace visited).toList = visited.flatMap fun m => m.render.toList ++ ['\n'] := by
  simp only [trace, String.toList_join, List.flatMap_map, String.toList_append]
  rfl

end TapeMachine.Machine
