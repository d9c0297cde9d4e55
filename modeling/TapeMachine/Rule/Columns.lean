/-
The widths of the columns of a listing.

Every column is as wide as its widest cell or header, as long as the table fits on the
screen.  A table that does not is narrowed: the widest columns give way first.

* **`Listing.widths`** — the width of every column;
* **`Listing.narrow`** — widths that leave the table in its room.

Design notes:

* In every round the columns that are the widest share what is too much.  None of them
  gets narrower than the widest of the others, which joins them in the next round.
* Shares are rounded to the nearest number, a half to the even one.
-/
import TapeMachine.Rule.Listing

namespace TapeMachine.Listing

/-- The cells of a line of the screen. -/
def screenWidth : Nat := 80

/-- The columns: header, alignment, and the cells below. -/
def columns (l : Listing) : List (String × Text.Alignment × List String) :=
  headers.zipIdx.map fun ((name, a), i) => (name, a, l.rows.map fun r => r.cells.getD i "")

/-- The cells that `count` columns take besides their texts: a stroke on every side, and a
blank on either side of every text. -/
def frameWidth (count : Nat) : Nat :=
  3 * count + 1

/-- The width of the whole table. -/
def totalWidth (widths : List Nat) : Nat :=
  Text.totalCells widths + frameWidth widths.length

/-- One of `shares` equal parts of an amount, in whole numbers. -/
def share (amount shares : Nat) : Nat :=
  let part := amount / shares
  let rest := 2 * (amount % shares)
  if rest < shares ∨ (rest = shares ∧ part % 2 = 0) then part else part + 1

/-- The widths after `shares` columns that are `widest` have shared `excess`, of which none
takes more than `most`. -/
def level (widest most : Nat) : Nat → Nat → List Nat → List Nat
  | _, _, [] => []
  | excess, shares, w :: rest =>
    if w = widest then
      let taken := min most (share excess shares)
      (w - taken) :: level widest most (excess - taken) (shares - 1) rest
    else w :: level widest most excess shares rest

/-- The widths narrowed to a sum of `room`, in at most so many rounds. -/
def narrow (room : Nat) : Nat → List Nat → List Nat
  | 0, widths => widths
  | rounds + 1, widths =>
    let excess := Text.totalCells widths - room
    if excess = 0 then widths
    else
      let widest := widths.foldl max 0
      let next := (widths.filter (· ≠ widest)).foldl max 0
      let most := min excess (widest - next)
      narrow room rounds (level widest most excess (widths.count widest) widths)

/-- The cells that the strokes and its own blanks leave to one column. -/
def longestWidth : Nat :=
  screenWidth - (headers.length + 3)

/-- The widths that the columns would take on their own. -/
def naturalWidths (l : Listing) : List Nat :=
  l.columns.map fun (name, _, cells) =>
    min longestWidth (((name :: cells).map fun cell => Text.extent cell.toList).foldl max 0)

/-- The width of every column. -/
def widths (l : Listing) : List Nat :=
  narrow (screenWidth - frameWidth headers.length) (Text.totalCells l.naturalWidths) l.naturalWidths

theorem length_level (widest most excess shares : Nat) (widths : List Nat) :
    (level widest most excess shares widths).length = widths.length := by
  fun_induction level widest most excess shares widths <;> simp_all

theorem length_narrow (room rounds : Nat) (widths : List Nat) :
    (narrow room rounds widths).length = widths.length := by
  fun_induction narrow room rounds widths <;> simp_all [length_level]

/-- A table that fits keeps its widths. -/
theorem narrow_eq_self {room : Nat} (rounds : Nat) {widths : List Nat}
    (h : Text.totalCells widths ≤ room) : narrow room rounds widths = widths := by
  cases rounds with
  | zero => rfl
  | succ rounds => rw [narrow, if_pos (by omega)]

end TapeMachine.Listing
