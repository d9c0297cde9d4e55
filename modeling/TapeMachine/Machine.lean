/-
The machine: a one-way tape of symbols, a head, a state and a count of steps.

The tape is a list of cells.  The head is an integer, and only `0 ≤ head < length`
is the ordinary case.  A head past the last cell reads nothing.  A head `-k`
addresses cell `length - k`; no run that starts on a cell ever gets there, but a
machine may be put there by hand.

* **`Machine.cell`** — the symbol under the head, or why there is none;
* **`Machine.choose`** — the first rule for the state and the symbol under the head;
* **`Machine.fire`** — what one rule does to the machine;
* **`Machine.step`** — one step with a table of rules.

Design notes:

* The cell is read only when a rule for the state turns up, so a machine without
  such a rule halts wherever its head stands.
* A rule writes before it moves.  A move to the left of the first cell therefore
  fails with the symbol written and everything else unchanged.
-/
import TapeMachine.Rule

namespace TapeMachine

/-- What happens when the head moves past the last cell: the next read fails, or the tape grows. -/
inductive Overflow where
  | error
  | extend
deriving DecidableEq, Repr

/-- The name of a policy. -/
def Overflow.name : Overflow → String
  | .error => "error"
  | .extend => "extend"

/-- All policies, in the order in which they are listed to the user. -/
def Overflow.all : List Overflow :=
  [.error, .extend]

/-- The policy of a given name. -/
def Overflow.ofName? (name : String) : Option Overflow :=
  Overflow.all.find? (·.name = name)

@[simp] theorem Overflow.ofName?_name (p : Overflow) : Overflow.ofName? p.name = some p := by
  cases p <;> decide

/-- The configuration of a machine. -/
structure Machine where
  state : String
  tape : List String
  /-- The symbol of a new cell: the last symbol of the initial tape. -/
  blank : Option String
  head : Int
  halted : Bool
  /-- Transitions since the machine was made. -/
  steps : Nat
  policy : Overflow
deriving DecidableEq, Repr

/-- Why a step failed. -/
inductive Fault where
  /-- A move to the left of the first cell. -/
  | underflow
  /-- The cell was needed, and the head stands past the last one. -/
  | overflow (head : Int)
  /-- The cell was needed, and the head stands before the first one. -/
  | noSuchCell (head : Int)
deriving DecidableEq, Repr

/-- How a step ended. -/
inductive Outcome where
  /-- No rule matches. -/
  | idle
  /-- A rule was applied. -/
  | fired
  | fault (f : Fault)
deriving DecidableEq, Repr

namespace Machine

/-- Every run starts in this state. -/
def startState : String := "Inc"

/-- A machine on a tape that has not moved yet. -/
def onTape (tape : List String) (policy : Overflow) (state : String := startState)
    (head : Int := 0) : Machine :=
  { state, tape, blank := tape.getLast?, head, halted := false, steps := 0, policy }

/-- The index of the cell that the head addresses, or why there is none. -/
def address (m : Machine) : Except Fault Nat :=
  if m.head ≥ m.tape.length then .error (.overflow m.head)
  else if m.head ≥ 0 then .ok m.head.toNat
  else if m.head + m.tape.length ≥ 0 then .ok (m.head + m.tape.length).toNat
  else .error (.noSuchCell m.head)

/-- The symbol under the head, or why there is none. -/
def cell (m : Machine) : Except Fault String :=
  match m.address with
  | .error f => .error f
  | .ok i =>
    match m.tape[i]? with
    | some symbol => .ok symbol
    | none => .error (.noSuchCell m.head)

/-- The first rule for the state and the symbol under the head, with its place in the table,
counted from `place`. -/
def choose (m : Machine) (place : Nat := 0) : List Rule → Except Fault (Option (Nat × Rule))
  | [] => .ok none
  | r :: rest =>
    if r.state = m.state then
      match m.cell with
      | .error f => .error f
      | .ok symbol => if r.read = symbol then .ok (some (place, r)) else m.choose (place + 1) rest
    else m.choose (place + 1) rest

/-- The machine with `symbol` in the cell under the head. -/
def writeCell (m : Machine) (symbol : String) : Machine :=
  match m.address with
  | .error _ => m
  | .ok i => { m with tape := m.tape.set i symbol }

/-- The tape after the head has moved to `head`: one new cell if the policy asks for it. -/
def grownTape (m : Machine) (head : Int) : List String :=
  if m.policy = .extend ∧ head = m.tape.length then m.tape ++ m.blank.toList else m.tape

/-- The machine after its head has moved, or nothing if there is no cell to the left. -/
def moveHead (m : Machine) : Move → Option Machine
  | .left => if m.head = 0 then none else some { m with head := m.head - 1 }
  | .right => some { m with head := m.head + 1, tape := m.grownTape (m.head + 1) }

/-- The effect of one rule: write, move, change state. -/
def fire (m : Machine) (r : Rule) : Machine × Outcome :=
  let written := m.writeCell r.write
  match written.moveHead r.move with
  | none => (written, .fault .underflow)
  | some moved => ({ moved with state := r.next, halted := false, steps := m.steps + 1 }, .fired)

/-- One step with a table of rules.  When no rule matches, nothing changes. -/
def step (m : Machine) (rules : List Rule) : Machine × Outcome :=
  match m.choose 0 rules with
  | .error f => (m, .fault f)
  | .ok none => (m, .idle)
  | .ok (some (_, r)) => m.fire r

end Machine

end TapeMachine
