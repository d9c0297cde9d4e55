/-
The listing of a rule table: what an inspection shows, before it is laid out.

Rules stand in the order of the table, each with its place, and a note on every
rule that can never be applied.

* **`Listing.ofRules`** — one row per rule;
* **`Listing.headers`** — the columns and how they are aligned.
-/
import TapeMachine.Rule.Shadow
import TapeMachine.Text.Console
import TapeMachine.Text.Wrap

namespace TapeMachine

/-- One row of a listing. -/
structure ListingRow where
  cells : List String
  /-- Whether the rule can never be applied. -/
  marked : Bool
deriving DecidableEq, Repr

/-- A table with a title and a column for every part of a rule. -/
structure Listing where
  title : String
  rows : List ListingRow
deriving DecidableEq, Repr

namespace Listing

/-- The columns of every listing. -/
def headers : List (String × Text.Alignment) :=
  [("#", .right), ("State", .left), ("Read", .left), ("Write", .left), ("Step", .center),
   ("Next", .left), ("Note", .left)]

/-- The title of a listing that is given none. -/
def defaultTitle : String := "Rules"

/-- The text of a cell that shows user text. -/
def shown (text : String) : String :=
  String.ofList (Text.dropControls text.toList)

/-- The row of the rule at `place`, which `winner` shadows, if any. -/
def row (place : Nat) (r : Rule) (winner : Option Nat) : ListingRow :=
  let note := winner.elim "" fun w => s!"shadowed by #{w}"
  { cells := [toString place, shown r.state, shown r.read, shown r.write, r.move.arrow,
      shown r.next, note]
    marked := winner.isSome }

/-- The listing of a table. -/
def ofRules (rules : List Rule) (title : String := defaultTitle) : Listing :=
  let winners := shadowed rules
  { title, rows := rules.zipIdx.map fun (r, place) => row place r (winners.lookup place) }

/-- The number of rules that can never be applied. -/
def markedCount (l : Listing) : Nat :=
  (l.rows.filter (·.marked)).length

end Listing

end TapeMachine
