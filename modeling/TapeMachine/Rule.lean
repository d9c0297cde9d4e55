/-
Rules: one line of a machine's table.

In `state`, reading `read`, the machine writes `write`, moves one cell and
continues in `next`.  State names and tape symbols are arbitrary text, compared
character by character.

* **`Move.ofToken?`** — reads an arrow; it inverts **`Move.arrow`**;
* **`Rule.spelling`** — the five tokens of a rule, in the order of the file.
-/

namespace TapeMachine

/-- A direction along the tape. -/
inductive Move where
  | left
  | right
deriving DecidableEq, Repr

/-- The arrow that stands for a direction in a rule table. -/
def Move.arrow : Move → String
  | .left => "<-"
  | .right => "->"

/-- The direction that a token names, if it is one of the two arrows. -/
def Move.ofToken? (token : String) : Option Move :=
  if token = "->" then some .right
  else if token = "<-" then some .left
  else none

@[simp] theorem Move.ofToken?_arrow (m : Move) : Move.ofToken? m.arrow = some m := by
  cases m <;> decide

/-- One transition of a machine. -/
structure Rule where
  state : String
  read : String
  write : String
  move : Move
  next : String
deriving DecidableEq, Repr

/-- The five tokens that spell a rule: STATE READ WRITE (-> | <-) NEXT. -/
def Rule.spelling (r : Rule) : List String :=
  [r.state, r.read, r.write, r.move.arrow, r.next]

end TapeMachine
