/-
Marked text: text with spans that carry marks.

Marked text is broken into lines like plain text, and the spans go with the characters
that they mark.  What a terminal is told of a line is its segments, which end where a span
starts or ends.

* **`Marked.slice`** — a part of a marked text;
* **`Marked.wrap`** — the lines of a paragraph (`chars_wrap`: those of its text);
* **`Marked.expandTabs`** — the text without tabs (`chars_expandTabs`);
* **`Marked.center?`** — a line placed in a width (`chars_center?`);
* **`Marked.segments`** — the segments of a line (`flatten_segments`: they lose nothing).

Design notes:

* A span that marks no character is kept as long as its text is neither divided nor shortened.
* Between tabs a text is divided, and every part gets a span of its own.
* A line that starts with several joiners may be wider than its clusters.  Where it is still too
  wide after it has been cut, its spans move to the left.
-/
import TapeMachine.Text.Console
import TapeMachine.Text.Wrap

namespace TapeMachine.Text

/-- A mark on the characters from one place to another one. -/
structure Span (α : Type) where
  start : Nat
  stop : Nat
  mark : α
deriving DecidableEq, Repr

/-- A text with marks on some of its characters. -/
structure Marked (α : Type) where
  chars : List Char
  spans : List (Span α) := []
deriving DecidableEq, Repr

variable {α : Type}

namespace Span

/-- A span in a text that has grown at its front. -/
def shift (s : Span α) (n : Int) : Span α :=
  { s with start := (s.start + n).toNat, stop := (s.stop + n).toNat }

/-- What a span marks between two places, seen from the first of them. -/
def between? (s : Span α) (first last : Nat) : Option (Span α) :=
  let start := s.start - first
  let stop := min s.stop last - first
  if start < stop then some { s with start, stop } else none

/-- What a span marks of the first characters of a text. -/
def before? (s : Span α) (last : Nat) : Option (Span α) :=
  if s.start < last then some { s with stop := min s.stop last } else none

end Span

namespace Marked

/-! ### Parts -/

/-- The part of a marked text between two places. -/
def slice (m : Marked α) (first last : Nat) : Marked α :=
  { chars := (m.chars.drop first).take (last - first)
    spans := m.spans.filterMap (·.between? first last) }

/-- The parts of some sizes from a place on, each with a gap after it. -/
def slicesFrom (m : Marked α) (gap first : Nat) : List Nat → List (Marked α)
  | [] => []
  | size :: rest => m.slice first (first + size) :: m.slicesFrom gap (first + size + gap) rest

/-- A marked text in parts of some sizes, with gaps between them.  A single part is not taken
out. -/
def divide (m : Marked α) (gap : Nat) (sizes : List Nat) : List (Marked α) :=
  if sizes.length ≤ 1 then [m] else m.slicesFrom gap 0 sizes

/-- The parts between the occurrences of a character. -/
def split (m : Marked α) (separator : Char) : List (Marked α) :=
  m.divide 1 ((pieces separator m.chars).map List.length)

/-- A marked text with other characters.  Spans end with a text that gets shorter. -/
def withChars (m : Marked α) (chars : List Char) : Marked α :=
  { chars
    spans := if chars.length < m.chars.length then m.spans.filterMap (·.before? chars.length)
      else m.spans }

/-- A marked text between blanks.  Where fewer than none are asked for before it, only its spans
move. -/
def pad (m : Marked α) (before after : Int) : Marked α :=
  { chars := List.replicate before.toNat ' ' ++ m.chars ++ List.replicate after.toNat ' '
    spans := m.spans.map (·.shift before) }

/-! ### Tabs -/

/-- A marked text with blanks after it.  They are marked like the last character. -/
def lengthen (m : Marked α) (n : Nat) : Marked α :=
  { chars := m.chars ++ List.replicate n ' '
    spans := m.spans.map fun s =>
      if m.chars.length ≤ s.stop then { s with stop := s.stop + n } else s }

/-- Texts one after the other, of which every one gets a mark. -/
def joinFrom (mark : α) (first : Nat) : List (Marked α) → Marked α
  | [] => { chars := [] }
  | m :: rest =>
    let last := first + m.chars.length
    let others := joinFrom mark last rest
    { chars := m.chars ++ others.chars
      spans := ⟨first, last, mark⟩ :: m.spans.map (·.shift first) ++ others.spans }

/-- The pieces of a line between tabs, from a place and a column on, with blanks for the tabs. -/
def tabParts (m : Marked α) (first column : Nat) : List (List Char) → List (Marked α)
  | [] => []
  | [piece] => if piece = [] then [] else [{ m.slice first m.chars.length with chars := piece }]
  | piece :: rest =>
    let last := first + piece.length + 1
    let part := { m.slice first last with chars := piece ++ [' '] }
    let reached := column + width part.chars
    part.lengthen (toTabStop reached) ::
      m.tabParts last (reached + toTabStop reached) rest

/-- A line with blanks in the place of tabs, where every part gets a mark. -/
def expandTabs (mark : α) (m : Marked α) : Marked α :=
  if '\t' ∈ m.chars then joinFrom mark 0 (m.tabParts 0 0 (pieces '\t' m.chars)) else m

theorem chars_joinFrom (mark : α) (first : Nat) (ms : List (Marked α)) :
    (joinFrom mark first ms).chars = (ms.map chars).flatten := by
  induction ms generalizing first with
  | nil => rfl
  | cons m rest ih => simp [joinFrom, ih]

theorem chars_tabParts (m : Marked α) (first column : Nat) (ps : List (List Char)) :
    ((m.tabParts first column ps).map chars).flatten = joinTabs column ps := by
  fun_induction tabParts m first column ps with
  | case1 => rfl
  | case2 => simp [joinTabs, *]
  | case3 => simp [joinTabs]
  | case4 first column piece rest hne last part reached ih =>
    cases rest with
    | nil => exact absurd rfl (hne · |>.elim)
    | cons => simp [joinTabs, lengthen, part, reached, ih]

/-- The characters are those of the plain line without tabs. -/
theorem chars_expandTabs (mark : α) (m : Marked α) :
    (m.expandTabs mark).chars = expandTabsInLine m.chars := by
  rw [expandTabs, expandTabsInLine]
  split
  · rw [chars_joinFrom, chars_tabParts]
  · next h => rw [pieces_of_not_mem h, joinTabs]

/-! ### Lines -/

/-- The lines of one paragraph. -/
def wrap (folds : Bool) (total : Nat) (m : Marked α) : List (Marked α) :=
  (m.divide 0 ((brokenLines folds total m.chars).map List.length)).map fun line =>
    line.withChars (trimExcess total line.chars)

theorem chars_slicesFrom (m : Marked α) (first : Nat) {parts : List (List Char)}
    (h : m.chars.drop first = parts.flatten) :
    (m.slicesFrom 0 first (parts.map List.length)).map chars = parts := by
  induction parts generalizing first with
  | nil => rfl
  | cons part rest ih =>
    have hrest : m.chars.drop (first + part.length) = rest.flatten := by
      rw [← List.drop_drop, h, List.flatten_cons, List.drop_left]
    simp [slicesFrom, slice, h, ih _ hrest]

theorem chars_divide (m : Marked α) {parts : List (List Char)} (h : parts ≠ [])
    (hm : m.chars = parts.flatten) : (m.divide 0 (parts.map List.length)).map chars = parts := by
  rw [divide]
  split
  · match parts, h with
    | [part], _ => simpa using hm
    | _ :: _ :: _, _ => simp_all
  · exact m.chars_slicesFrom 0 hm

/-- The characters are those of the plain lines. -/
theorem chars_wrap (folds : Bool) (total : Nat) (m : Marked α) :
    (m.wrap folds total).map chars = Text.wrap folds total m.chars := by
  have h := m.chars_divide (brokenLines_ne_nil folds total m.chars)
    (flatten_brokenLines folds total m.chars).symm
  rw [wrap, Text.wrap, List.map_map]
  conv => rhs; rw [← h]
  simp [Function.comp_def, withChars]

/-- A line placed in the middle of `total` cells. -/
def center? (total : Nat) (m : Marked α) : Option (Marked α) := do
  let kept := m.withChars (trimEnd m.chars)
  let shown := kept.withChars (← shorten? [] total kept.chars)
  let free : Int := total - width shown.chars
  return shown.pad (free / 2) (free - free / 2)

/-- The characters are those of the plain line in the middle. -/
theorem chars_center? (total : Nat) (m : Marked α) :
    (m.center? total).map chars = align? .center [] total m.chars := by
  have hc : (if Alignment.center = .left then m.chars else trimEnd m.chars) = trimEnd m.chars :=
    if_neg (by decide)
  simp only [center?, align?, withChars, hc, margins]
  cases shorten? [] total (trimEnd m.chars) with
  | none => rfl
  | some kept =>
    have hb : (((total : Int) - width kept) / 2).toNat = (total - width kept) / 2 := by omega
    have ha : ((total : Int) - width kept - ((total : Int) - width kept) / 2).toNat =
        total - width kept - (total - width kept) / 2 := by omega
    simp [pad, hb, ha]

/-! ### Segments -/

/-- The places where segments end. -/
def cuts (m : Marked α) : List Nat :=
  m.spans.flatMap fun s => [s.start, s.stop]

/-- The segments of characters from a place on. -/
def segmentsFrom (cuts : List Nat) (place : Nat) : List Char → List (List Char)
  | [] => []
  | c :: rest =>
    match segmentsFrom cuts (place + 1) rest with
    | [] => [[c]]
    | segment :: more =>
      if place + 1 ∈ cuts then [c] :: segment :: more else (c :: segment) :: more

/-- The segments of a line. -/
def segments (m : Marked α) : List (List Char) :=
  segmentsFrom m.cuts 0 m.chars

theorem flatten_segmentsFrom (cuts : List Nat) (place : Nat) (chars : List Char) :
    (segmentsFrom cuts place chars).flatten = chars := by
  fun_induction segmentsFrom cuts place chars <;> simp_all

/-- Segments lose nothing. -/
theorem flatten_segments (m : Marked α) : m.segments.flatten = m.chars :=
  flatten_segmentsFrom _ _ _

end Marked

/-- A line of segments of at most `total` cells, cut off where it is too long. -/
def cropLine? (total : Nat) (segments : List (List Char)) : Option (List Char) :=
  if totalCells (segments.map width) ≤ total then some segments.flatten else clip? total segments

end TapeMachine.Text
