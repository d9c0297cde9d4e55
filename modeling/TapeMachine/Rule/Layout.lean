/-
The layout of a listing as a table of text.

The title stands over the table, centred.  A line that is too long for it is wrapped.
Below the headers every rule takes as many lines as its highest cell.  A word that is
too long for its column ends in an ellipsis.

* **`Listing.text`** — the title, the headers and the rows, framed by lines;
* **`Listing.titleLines?`** — the lines of the title;
* **`Listing.cellLines?`** — the lines of a cell.

Design notes:

* The title is marked-up text, the cells are not: they hold the user's symbols.
* The names in a title are looked up after its lines have been placed, and only those whose
  spans still mark something.
* There is no layout if a line that starts with several joiners has to be cut where its
  clusters have ended.
-/
import TapeMachine.Rule.Columns
import TapeMachine.Text.Markup

namespace TapeMachine

/-- Why a listing has no layout. -/
inductive LayoutFault where
  /-- The title is not well marked up. -/
  | badTitle (f : Text.Markup.Fault)
  /-- A line has to be cut where it holds nothing more. -/
  | noCut
deriving DecidableEq, Repr

namespace Listing

/-! ### Texts -/

/-- The lines of a title over a table of a given width. -/
def titleLines? (total : Nat) (title : Text.Marked Text.Markup.Mark) :
    Option (List (Text.Marked Text.Markup.Mark)) :=
  let lines := (title.split '\n').flatMap fun line => (line.expandTabs none).wrap true total
  lines.mapM (·.center? total)

/-- A line of a cell between two blanks. -/
def framed? (a : Text.Alignment) (width : Nat) (line : List Char) : Option (List Char) := do
  let part ← Text.fit? width (← Text.align? a ['…'] width line)
  Text.clip? (width + 2) [[' '], part, [' ']]

/-- The lines of a cell in a column of a given width, with a blank on either side. -/
def cellLines? (a : Text.Alignment) (width : Nat) (cell : String) : Option (List (List Char)) :=
  let lines := (Text.pieces '\n' cell.toList).flatMap fun line =>
    Text.wrap false width (Text.expandTabsInLine line)
  lines.mapM (framed? a width)

/-! ### The table -/

/-- The parts of a horizontal line: its two ends, what it is made of, and its crossings. -/
structure Border where
  first : String
  fill : Char
  crossing : String
  last : String

def topBorder : Border := ⟨"┏", '━', "┳", "┓"⟩

def headerBorder : Border := ⟨"┡", '━', "╇", "┩"⟩

def bottomBorder : Border := ⟨"└", '─', "┴", "┘"⟩

/-- A horizontal line over columns of the given widths. -/
def Border.line (b : Border) (widths : List Nat) : String :=
  let runs := widths.map fun w => String.ofList (List.replicate (w + 2) b.fill)
  b.first ++ b.crossing.intercalate runs ++ b.last ++ "\n"

/-- A line of cells between upright strokes. -/
def cellsLine (stroke : Char) (parts : List (List Char)) : String :=
  String.ofList (stroke :: (parts.flatMap fun part => part ++ [stroke]) ++ ['\n'])

/-- A row as text. -/
def rowText? (stroke : Char) (widths : List Nat) (cells : List String) : Option String := do
  let columns ← (headers.zip (widths.zip cells)).mapM fun ((_, a), w, cell) => do
    return (List.replicate (w + 2) ' ', ← cellLines? a w cell)
  let height := (columns.map fun (_, lines) => lines.length).foldl max 0
  return String.join ((List.range height).map fun i =>
    cellsLine stroke (columns.map fun (blank, lines) => lines.getD i blank))

/-- The table under lines of a title as text. -/
def textUnder? (l : Listing) (heading : List (Text.Marked Text.Markup.Mark)) : Option String := do
  let ws := l.widths
  let shown ← heading.mapM fun line => Text.cropLine? screenWidth line.segments
  let top ← rowText? '┃' ws (headers.map (·.1))
  let rows ← l.rows.mapM fun r => rowText? '│' ws r.cells
  return String.join (shown.map fun line => String.ofList line ++ "\n") ++
    topBorder.line ws ++ top ++ headerBorder.line ws ++ String.join rows ++ bottomBorder.line ws

/-- The table under a title as text. -/
def textTitled (l : Listing) (title : Text.Marked Text.Markup.Mark) :
    Except LayoutFault String := do
  let some heading := titleLines? (totalWidth l.widths) title | throw .noCut
  if heading.all Text.Markup.canShow then
    let some text := l.textUnder? heading | throw .noCut
    return text
  else throw (.badTitle .missingPart)

/-- The table as text, and the notes on its title. -/
def text (l : Listing) : Except LayoutFault String × List Expression.Note :=
  let (title, notes) := Text.Markup.read l.title.toList
  (title.mapError .badTitle >>= l.textTitled, notes)

end Listing

end TapeMachine
