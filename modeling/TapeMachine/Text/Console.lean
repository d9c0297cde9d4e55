/-
Text as it is written to a terminal.

Bell, backspace, vertical tab, form feed and carriage return would move or ring
and are left out.  In each line a tab becomes blanks up to the next multiple of
eight cells, counted from the start of the line.

* **`dropControls`** — the text without the five controls;
* **`expandTabs`** — the text without tabs.

Design notes:

* A tab is a blank first, and more blanks are added up to the tab stop.  So it takes
  a blank at least, and a joiner before it joins that blank.
-/
import TapeMachine.Text.Pieces
import TapeMachine.Text.Width

namespace TapeMachine.Text

/-- The controls that are never written. -/
def isDropped (c : Char) : Bool :=
  c.toNat = 7 || c.toNat = 8 || c.toNat = 11 || c.toNat = 12 || c.toNat = 13

/-- The text without the controls that are never written. -/
def dropControls (chars : List Char) : List Char :=
  chars.filter (!isDropped ·)

/-- The distance between tab stops, in cells. -/
def tabStop : Nat := 8

/-- The blanks from a column to the next tab stop, of which there are none at a tab stop. -/
def toTabStop (column : Nat) : Nat :=
  (tabStop - column % tabStop) % tabStop

/-- A line of pieces with blanks for the tabs between them, from a column on. -/
def joinTabs (column : Nat) : List (List Char) → List Char
  | [] => []
  | [piece] => piece
  | piece :: rest =>
    let reached := column + width (piece ++ [' '])
    piece ++ ' ' :: List.replicate (toTabStop reached) ' ' ++
      joinTabs (reached + toTabStop reached) rest

/-- A line with blanks in the place of tabs. -/
def expandTabsInLine (line : List Char) : List Char :=
  joinTabs 0 (pieces '\t' line)

/-- The text with blanks in the place of tabs. -/
def expandTabs (chars : List Char) : List Char :=
  ['\n'].intercalate ((pieces '\n' chars).map expandTabsInLine)

end TapeMachine.Text
