/-
Lines of a limited width.

A text is broken before words.  A word keeps the white space after it, which does not
count when the question is whether the word fits.  A word that fits on no line stands
on lines of its own: folded, or on one line that is too long.

* **`words`** — the words of a text;
* **`wrap`** — the lines of a text;
* **`extent`** — the width that a text would take unwrapped;
* **`align?`** — a line placed in a width, if it can be cut to fit.

Design notes:

* White space at the end of a line stays as far as the line has room for it.  The room
  is counted in characters, not in cells.
-/
import TapeMachine.Text.Blank
import TapeMachine.Text.Cluster
import TapeMachine.Text.Pieces

namespace TapeMachine.Text

/-! ### Words -/

/-- Each run followed by the run of white space after it. -/
def joinRuns : List (List Char) → List (List Char)
  | word :: blanks :: rest => (word ++ blanks) :: joinRuns rest
  | [word] => [word]
  | [] => []

/-- The words of a text, each with the white space after it; the first one also with the
white space before it.  A text of white space has none. -/
def words (chars : List Char) : List (List Char) :=
  match chars.splitBy fun a b => isBlank a == isBlank b with
  | [] => []
  | first :: rest =>
    if first.all isBlank then
      match joinRuns rest with
      | [] => []
      | word :: more => (first ++ word) :: more
    else joinRuns (first :: rest)

/-! ### Lines -/

/-- The words in lines of at most `total` cells, after a line that takes `used` of them. -/
def fill (folds : Bool) (total used : Nat) (line : List Char) :
    List (List Char) → List (List Char)
  | [] => [line]
  | word :: rest =>
    let size := width (trimEnd word)
    let finished := if line = [] then [] else [line]
    if used + size ≤ total then fill folds total (used + width word) (line ++ word) rest
    else if size ≤ total ∨ folds = false then finished ++ fill folds total (width word) word rest
    else
      let parts := chop total word
      let last := parts.getLast?.getD []
      finished ++ parts.dropLast ++ fill folds total (width last) last rest

theorem flatten_dropLast_append_getLast? (parts : List (List Char)) :
    parts.dropLast.flatten ++ parts.getLast?.getD [] = parts.flatten := by
  cases h : parts.getLast? with
  | none => simp_all
  | some last =>
    obtain ⟨before, rfl⟩ := List.getLast?_eq_some_iff.mp h
    simp

/-- Filling lines loses nothing. -/
theorem flatten_fill (folds : Bool) (total used : Nat) (line : List Char)
    (ws : List (List Char)) :
    (fill folds total used line ws).flatten = line ++ ws.flatten := by
  fun_induction fill folds total used line ws with
  | case1 => simp
  | case2 used line word rest size h ih => simp [ih]
  | case3 used line word rest size finished h hs ih =>
    by_cases hl : line = [] <;> simp [finished, hl, ih]
  | case4 used line word rest size finished h hs parts last ih =>
    have hword : parts.dropLast.flatten ++ last = word := by
      rw [flatten_dropLast_append_getLast?, flatten_chop]
    by_cases hl : line = [] <;> simp [finished, hl, ih, ← hword]

theorem fill_ne_nil (folds : Bool) (total used : Nat) (line : List Char)
    (ws : List (List Char)) : fill folds total used line ws ≠ [] := by
  fun_induction fill folds total used line ws <;> simp_all

/-- The line without the white space at its end that lies beyond `total` characters. -/
def trimExcess (total : Nat) (line : List Char) : List Char :=
  let blanks := line.length - (trimEnd line).length
  line.take (line.length - min blanks (line.length - total))

/-- The lines of one paragraph with all their white space. -/
def brokenLines (folds : Bool) (total : Nat) (chars : List Char) : List (List Char) :=
  match words chars with
  | [] => [chars]
  | ws => fill folds total 0 [] ws

theorem flatten_runs (related : Char → Char → Bool) (chars : List Char) (c : Char)
    (run : List Char) (runs : List (List Char)) :
    (List.splitBy.loop related chars c run runs).flatten =
      runs.reverse.flatten ++ (run.reverse ++ c :: chars) := by
  induction chars generalizing c run runs with
  | nil =>
    change (((c :: run).reverse :: runs).reverse).flatten = _
    simp
  | cons d rest ih =>
    change (bif related c d then List.splitBy.loop related rest d (c :: run) runs
      else List.splitBy.loop related rest d [] ((c :: run).reverse :: runs)).flatten = _
    cases related c d <;> simp [ih]

theorem flatten_joinRuns (runs : List (List Char)) : (joinRuns runs).flatten = runs.flatten := by
  fun_induction joinRuns runs <;> simp_all

theorem flatten_words {chars : List Char} (h : words chars ≠ []) :
    (words chars).flatten = chars := by
  have hs : (chars.splitBy fun a b => isBlank a == isBlank b).flatten = chars := by
    cases chars with
    | nil => rfl
    | cons c rest => exact flatten_runs _ rest c [] []
  simp only [words] at h ⊢
  split
  · next hn => simp_all
  · next first rest hn =>
    rw [hn] at hs h
    simp only at h
    split
    · next hf =>
      rw [if_pos hf] at h
      have hj := flatten_joinRuns rest
      split
      · next hr => simp [hr] at h
      · next word more hr =>
        rw [hr] at hj
        simpa [← hj] using hs
    · rw [flatten_joinRuns, hs]

/-- Breaking loses nothing. -/
theorem flatten_brokenLines (folds : Bool) (total : Nat) (chars : List Char) :
    (brokenLines folds total chars).flatten = chars := by
  rw [brokenLines]
  split
  · simp
  · next ws h => rw [flatten_fill, flatten_words (by simpa using h)]; rfl

theorem brokenLines_ne_nil (folds : Bool) (total : Nat) (chars : List Char) :
    brokenLines folds total chars ≠ [] := by
  rw [brokenLines]
  split
  · simp
  · exact fun h => fill_ne_nil _ _ _ _ _ h

/-- The lines of one paragraph. -/
def wrap (folds : Bool) (total : Nat) (chars : List Char) : List (List Char) :=
  (brokenLines folds total chars).map (trimExcess total)

/-! ### Measure -/

/-- The characters that may end a line. -/
def lineEndRanges : List (Nat × Nat) :=
  [(0x0A, 0x0D), (0x1C, 0x1E), (0x85, 0x85), (0x2028, 0x2029)]

/-- The cells of the longest line of a text, where every line that may end does. -/
def extent (chars : List Char) : Nat :=
  let ended := chars.map fun c => if inRanges lineEndRanges c.toNat then '\n' else c
  ((pieces '\n' ended).map width).foldl max 0

/-! ### Placement -/

/-- How text is aligned. -/
inductive Alignment where
  | left
  | center
  | right
deriving DecidableEq, Repr

/-- The name of an alignment. -/
def Alignment.name : Alignment → String
  | .left => "left"
  | .center => "center"
  | .right => "right"

/-- The blanks before and after a text that leaves `free` cells. -/
def margins (a : Alignment) (free : Nat) : Nat × Nat :=
  match a with
  | .left => (0, free)
  | .center => (free / 2, free - free / 2)
  | .right => (free, 0)

/-- The margins take up all that is free. -/
theorem margins_sum (a : Alignment) (free : Nat) :
    (margins a free).1 + (margins a free).2 = free := by
  cases a <;> simp only [margins] <;> omega

/-- A line of at most `total` cells: cut off where it is too long, with `mark` at the cut. -/
def shorten? (mark : List Char) (total : Nat) (line : List Char) : Option (List Char) :=
  if width line ≤ total then some line else (fit? (total - width mark) line).map (· ++ mark)

/-- A line placed in `total` cells. -/
def align? (a : Alignment) (mark : List Char) (total : Nat) (line : List Char) :
    Option (List Char) := do
  let kept ← shorten? mark total (if a = .left then line else trimEnd line)
  let (before, after) := margins a (total - width kept)
  return List.replicate before ' ' ++ kept ++ List.replicate after ' '

end TapeMachine.Text
