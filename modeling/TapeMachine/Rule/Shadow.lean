/-
Shadowed rules.

The first rule for a state and a symbol always wins, so a later rule for the same
pair can never be applied.  It is shadowed by the first one.

* **`shadowed`** — the places of the shadowed rules, each with the place of the rule
  that wins, in the order of the table.
-/
import TapeMachine.Rule

namespace TapeMachine

/-- What a rule waits for. -/
def Rule.trigger (r : Rule) : String × String :=
  (r.state, r.read)

/-- The shadowed rules of the rest of a table, which starts at `place`.  `winners` lists the
triggers met so far, each with the place of its first rule. -/
def shadowedFrom (winners : List ((String × String) × Nat)) (place : Nat) :
    List Rule → List (Nat × Nat)
  | [] => []
  | r :: rest =>
    match winners.lookup r.trigger with
    | some winner => (place, winner) :: shadowedFrom winners (place + 1) rest
    | none => shadowedFrom ((r.trigger, place) :: winners) (place + 1) rest

/-- The shadowed rules of a table, by place, each with the place of the rule that wins. -/
def shadowed (rules : List Rule) : List (Nat × Nat) :=
  shadowedFrom [] 0 rules

end TapeMachine
