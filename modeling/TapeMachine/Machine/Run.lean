/-
Runs: steps until a machine halts, fails or exceeds its limit.

A run shows the machine before every step.  It ends when no rule matches, when a
step fails, or when a transition takes the count of steps above the limit.  A
limit of 0 is none, and a negative limit is exceeded by the first transition.
The count is that of the machine's whole life, so a run that was cut by its limit
can be taken up again under a higher one.

* **`Machine.turn`** — one round: a step, and whether the run goes on;
* **`Machine.run`** — all rounds, with the machines that were shown;
* **`Machine.turnsWithin`** — with a limit, a run has no more rounds than this.

Design notes:

* A run without a limit may never end, so `run` is given the number of rounds after
  which it is abandoned.  That is an ending of its own, unlike any other.
-/
import TapeMachine.Machine.Snapshot

namespace TapeMachine

/-- How a run ended. -/
inductive Ending where
  /-- No rule matched. -/
  | halted
  | fault (f : Fault)
  /-- The count of steps went above the limit. -/
  | limitExceeded
  /-- The rounds granted to the run were used up. -/
  | abandoned
deriving DecidableEq, Repr

/-- A run: the machines shown, the machine at the end, and how it ended. -/
structure Run where
  visited : List Machine
  machine : Machine
  ending : Ending
deriving DecidableEq, Repr

/-- The text that a run shows. -/
def Run.text (r : Run) : String :=
  Machine.trace r.visited

/-- The result of one round. -/
inductive Turn where
  | goOn (m : Machine)
  | stop (m : Machine) (e : Ending)
deriving DecidableEq, Repr

namespace Machine

/-- Whether a count of steps is above a limit.  A limit of 0 is none. -/
def exceeds (limit : Int) (steps : Nat) : Bool :=
  limit ≠ 0 ∧ (steps : Int) > limit

/-- One round of a run.  The machine counts as halted unless a rule is applied. -/
def turn (rules : List Rule) (limit : Int) (m : Machine) : Turn :=
  match { m with halted := true }.step rules with
  | (m', .idle) => .stop m' .halted
  | (m', .fault f) => .stop m' (.fault f)
  | (m', .fired) => if exceeds limit m'.steps then .stop m' .limitExceeded else .goOn m'

/-- Rounds until one of them is the last, with the machines shown so far in reverse. -/
def runFrom (rules : List Rule) (limit : Int) : Nat → Machine → List Machine → Run
  | 0, m, shown => ⟨shown.reverse, m, .abandoned⟩
  | rounds + 1, m, shown =>
    match m.turn rules limit with
    | .stop m' e => ⟨(m :: shown).reverse, m', e⟩
    | .goOn m' => runFrom rules limit rounds m' (m :: shown)

/-- A run of at most `rounds` rounds.  A machine that has halted stays as it is. -/
def run (rounds : Nat) (rules : List Rule) (limit : Int) (m : Machine) : Run :=
  if m.halted then ⟨[], m, .halted⟩ else runFrom rules limit rounds m []

/-- The most rounds that a run under a limit other than 0 can have. -/
def turnsWithin (limit : Int) (m : Machine) : Nat :=
  max 1 (limit - m.steps + 1).toNat

/-- More rounds than any run will ever have. -/
def endlessly : Nat := 0x4000000000000000

end Machine

end TapeMachine
