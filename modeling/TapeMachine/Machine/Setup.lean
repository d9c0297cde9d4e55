/-
Setting up a machine from what the user gives.

* **`Overflow.ofName`** — the policy of a given name;
* **`Machine.ofTape`** — a machine at the left end of a tape, which must hold a symbol;
* **`simulate`** — a rule table and a tape, both as text, run to the end;
* **`simulate_eq_ok_iff`** — what it takes for there to be a run.
-/
import TapeMachine.Failure

namespace TapeMachine

/-- The policy of a given name. -/
def Overflow.ofName (name : String) : Except Crash Overflow :=
  match Overflow.ofName? name with
  | some policy => .ok policy
  | none => .error (.unknownPolicy name)

/-- A machine in the start state on the first cell of a tape. -/
def Machine.ofTape (tape : List String) (policy : Overflow) : Except Failure Machine :=
  if tape = [] then .error .emptyTape else .ok (Machine.onTape tape policy)

/-- The same, with the policy given by its name.  The tape is looked at first. -/
def Machine.ofTapeNamed (tape : List String) (policy : String) : Except Problem Machine :=
  if tape = [] then .error (.failure .emptyTape)
  else
    match Overflow.ofName policy with
    | .error e => .error (.crash e)
    | .ok p => .ok (Machine.onTape tape p)

/-- Runs the machine of a rule table over a tape, both given as text. -/
def simulate (rounds : Nat) (program tape policy : String) (limit : Int) : Except Problem Run :=
  match readProgram program with
  | .error e => .error (.failure (.badRule e))
  | .ok rules =>
    match Machine.ofTapeNamed (readTape tape) policy with
    | .error e => .error e
    | .ok m => .ok (m.run rounds rules limit)

/-- A machine that was set up stands on a tape with a symbol, under a policy that there is. -/
theorem Machine.ofTapeNamed_eq_ok_iff {tape : List String} {policy : String} {m : Machine} :
    Machine.ofTapeNamed tape policy = .ok m ↔
      tape ≠ [] ∧ ∃ p, Overflow.ofName? policy = some p ∧ m = Machine.onTape tape p := by
  rw [Machine.ofTapeNamed, Overflow.ofName]
  by_cases htape : tape = []
  · simp [htape]
  · rcases Overflow.ofName? policy with _ | p
    · simp [htape]
    · simp [htape, eq_comm]

/-- There is a run if the rules can be read, the tape holds a symbol, and the policy has its name. -/
theorem simulate_eq_ok_iff {rounds : Nat} {program tape policy : String} {limit : Int} {r : Run} :
    simulate rounds program tape policy limit = .ok r ↔
      ∃ rules p, readProgram program = .ok rules ∧ readTape tape ≠ [] ∧
        Overflow.ofName? policy = some p ∧
        r = (Machine.onTape (readTape tape) p).run rounds rules limit := by
  constructor
  · intro h
    rw [simulate] at h
    rcases hprogram : readProgram program with e | rules <;> rw [hprogram] at h
    · cases h
    · rcases hm : Machine.ofTapeNamed (readTape tape) policy with e | m <;> rw [hm] at h
      · cases h
      · cases h
        obtain ⟨htape, p, hp, rfl⟩ := Machine.ofTapeNamed_eq_ok_iff.mp hm
        exact ⟨rules, p, rfl, htape, hp, rfl⟩
  · rintro ⟨rules, p, hprogram, htape, hp, rfl⟩
    have hm := Machine.ofTapeNamed_eq_ok_iff.mpr ⟨htape, p, hp, rfl⟩
    rw [simulate, hprogram]
    simp only [hm]

end TapeMachine
