/-
What holds of every machine that can be reached.

A machine is made on the first cell of a tape and then used: for single steps, with
tables that may change from one step to the next, and for runs under all kinds of
limits.  Some of these fail, and the machine may be used again all the same.

* **`Machine.WellFormed`** — what holds of the machine at every moment, in terms of the tape
  that it was made on, its policy and the rules applied so far;
* **`Machine.WellFormed.step`** — a step preserves it, however it ends;
* **`Machine.WellFormed.perform`** — so does a sequence of operations;
* **`Machine.wellFormed_of_operations`** — hence it holds of every machine within reach.

Design notes:

* A run is granted a number of rounds.  A run that never ends is thereby seen at every
  moment as one that is abandoned there, and so is the inside of any other run.
* The tape that the machine was made on is a value, which no operation can change.
-/
import TapeMachine.Machine.Setup
import TapeMachine.Proofs.Loop

namespace TapeMachine

/-- What may be done with a machine. -/
inductive Operation where
  | step (rules : List Rule)
  | run (rules : List Rule) (limit : Int) (rounds : Nat)

namespace Operation

/-- The table that an operation is given. -/
def rules : Operation → List Rule
  | .step rules => rules
  | .run rules _ _ => rules

/-- The machine after an operation, whether that has failed or not. -/
def apply (m : Machine) : Operation → Machine
  | .step rules => (m.step rules).1
  | .run rules limit rounds => (m.run rounds rules limit).machine

/-- The fault that an operation ends with, if it does. -/
def fault? (m : Machine) : Operation → Option Fault
  | .step rules =>
    match (m.step rules).2 with
    | .fault f => some f
    | _ => none
  | .run rules limit rounds =>
    match (m.run rounds rules limit).ending with
    | .fault f => some f
    | _ => none

/-- The rules that an operation applies, in order. -/
def applied (m : Machine) : Operation → List Rule
  | .step rules => (m.selected rules).toList
  | .run rules limit rounds => (m.run rounds rules limit).visited.filterMap (·.selected rules)

end Operation

namespace Machine

/-- The machine after several operations. -/
def perform (m : Machine) (operations : List Operation) : Machine :=
  operations.foldl Operation.apply m

/-- The rules that several operations apply, in order. -/
def appliedIn (m : Machine) : List Operation → List Rule
  | [] => []
  | o :: rest => o.applied m ++ appliedIn (o.apply m) rest

/-- What holds of a machine that was made on `tape` and has applied the rules `used`. -/
structure WellFormed (tape : List String) (policy : Overflow) (used : List Rule) (m : Machine) :
    Prop where
  policy_eq : m.policy = policy
  blank_eq : m.blank = tape.getLast?
  head_nonneg : 0 ≤ m.head
  head_le_length : m.head ≤ m.tape.length
  head_le_steps : m.head ≤ m.steps
  head_parity : m.head % 2 = m.steps % 2
  length_of_error : policy = .error → m.tape.length = tape.length
  length_of_extend : policy = .extend → tape.length ≤ m.tape.length
  head_lt_of_extend : policy = .extend → m.head < m.tape.length
  cells : ∀ symbol ∈ m.tape, symbol ∈ tape ∨ ∃ r ∈ used, symbol = r.write
  state : m.state = startState ∨ ∃ r ∈ used, m.state = r.next

variable {m : Machine} {tape : List String} {policy : Overflow} {used used' : List Rule}
  {rules : List Rule} {limit : Int} {r : Rule} {i : Nat}

theorem wellFormed_onTape (h : tape ≠ []) (policy : Overflow) :
    WellFormed tape policy [] (onTape tape policy) where
  policy_eq := rfl
  blank_eq := rfl
  head_nonneg := Int.le_refl 0
  head_le_length := Int.natCast_nonneg _
  head_le_steps := Int.le_refl 0
  head_parity := rfl
  length_of_error _ := rfl
  length_of_extend _ := Nat.le_refl _
  head_lt_of_extend _ := Int.natCast_pos.mpr (List.length_pos_iff.mpr h)
  cells _ hs := .inl hs
  state := .inl rfl

namespace WellFormed

/-- Rules applied in other places do no harm. -/
theorem mono (h : WellFormed tape policy used m) (hused : used ⊆ used') :
    WellFormed tape policy used' m where
  policy_eq := h.policy_eq
  blank_eq := h.blank_eq
  head_nonneg := h.head_nonneg
  head_le_length := h.head_le_length
  head_le_steps := h.head_le_steps
  head_parity := h.head_parity
  length_of_error := h.length_of_error
  length_of_extend := h.length_of_extend
  head_lt_of_extend := h.head_lt_of_extend
  cells symbol hs := (h.cells symbol hs).imp_right fun ⟨r, hr, he⟩ => ⟨r, hused hr, he⟩
  state := h.state.imp_right fun ⟨r, hr, he⟩ => ⟨r, hused hr, he⟩

/-- The mark of a halted machine does not matter. -/
theorem halted (h : WellFormed tape policy used m) (b : Bool) :
    WellFormed tape policy used { m with halted := b } :=
  ⟨h.policy_eq, h.blank_eq, h.head_nonneg, h.head_le_length, h.head_le_steps, h.head_parity,
    h.length_of_error, h.length_of_extend, h.head_lt_of_extend, h.cells, h.state⟩

/-- A head that has not left the tape reads a cell. -/
theorem exists_cell (h : WellFormed tape policy used m) (hpolicy : policy = .extend) :
    ∃ symbol, m.cell = .ok symbol := by
  obtain ⟨symbol, -, hcell⟩ := exists_cell_of_inside ⟨h.head_nonneg, h.head_lt_of_extend hpolicy⟩
  exact ⟨symbol, hcell⟩

/-! ### One step -/

/-- A symbol that a rule writes. -/
theorem written (h : WellFormed tape policy used m) (i : Nat) (r : Rule) :
    WellFormed tape policy (used ++ [r]) (m.written i r.write) := by
  have hm := h.mono (List.subset_append_left used [r])
  refine ⟨hm.policy_eq, hm.blank_eq, hm.head_nonneg, ?_, hm.head_le_steps, hm.head_parity,
    ?_, ?_, ?_, ?_, hm.state⟩
  · rw [length_tape_written]
    exact hm.head_le_length
  · rw [length_tape_written]
    exact hm.length_of_error
  · rw [length_tape_written]
    exact hm.length_of_extend
  · rw [length_tape_written]
    exact hm.head_lt_of_extend
  · intro symbol hs
    rcases List.mem_or_eq_of_mem_set hs with hold | rfl
    · exact hm.cells symbol hold
    · exact .inr ⟨r, List.mem_append_right _ (List.mem_singleton_self r), rfl⟩

/-- A transition to the left, from another cell than the first. -/
theorem wentLeft (h : WellFormed tape policy used m) (hhead : m.head ≠ 0) (hr : r ∈ used) :
    WellFormed tape policy used (m.wentLeft r.next) := by
  have hnonneg := h.head_nonneg
  have hlength := h.head_le_length
  have hsteps := h.head_le_steps
  have hparity := h.head_parity
  refine ⟨h.policy_eq, h.blank_eq, ?_, ?_, ?_, ?_, h.length_of_error, h.length_of_extend, ?_,
    h.cells, .inr ⟨r, hr, rfl⟩⟩
  · show 0 ≤ m.head - 1
    omega
  · show m.head - 1 ≤ m.tape.length
    omega
  · show m.head - 1 ≤ (m.steps + 1 : Nat)
    omega
  · show (m.head - 1) % 2 = (m.steps + 1 : Nat) % 2
    omega
  · intro _
    show m.head - 1 < m.tape.length
    omega

/-- The tape after a move from a cell to the next one.  It grows if that is asked for, and otherwise
it may be left behind. -/
theorem length_grownTape (htape : tape ≠ []) (h : WellFormed tape policy used m)
    (hlt : m.head < m.tape.length) :
    m.head + 1 ≤ (m.grownTape (m.head + 1)).length ∧
      (policy = .error → (m.grownTape (m.head + 1)).length = tape.length) ∧
      (policy = .extend → tape.length ≤ (m.grownTape (m.head + 1)).length ∧
        m.head + 1 < (m.grownTape (m.head + 1)).length) := by
  rw [grownTape, h.policy_eq, h.blank_eq, List.getLast?_eq_some_getLast htape, Option.toList_some]
  split
  · rename_i hgrow
    rw [List.length_append, List.length_singleton]
    have hextend := h.length_of_extend hgrow.1
    refine ⟨by omega, fun hp => ?_, fun _ => ⟨by omega, by omega⟩⟩
    rw [hp] at hgrow
    cases hgrow.1
  · rename_i hstay
    refine ⟨by omega, h.length_of_error, fun hp => ⟨h.length_of_extend hp, ?_⟩⟩
    have hne : m.head + 1 ≠ m.tape.length := fun he => hstay ⟨hp, he⟩
    omega

/-- A transition to the right, from a cell. -/
theorem wentRight (htape : tape ≠ []) (h : WellFormed tape policy used m)
    (hlt : m.head < m.tape.length) (hr : r ∈ used) :
    WellFormed tape policy used (m.wentRight r.next) := by
  have hnonneg := h.head_nonneg
  have hsteps := h.head_le_steps
  have hparity := h.head_parity
  obtain ⟨hlength, herror, hextend⟩ := h.length_grownTape htape hlt
  refine ⟨h.policy_eq, h.blank_eq, ?_, hlength, ?_, ?_, herror, fun hp => (hextend hp).1,
    fun hp => (hextend hp).2, ?_, .inr ⟨r, hr, rfl⟩⟩
  · show 0 ≤ m.head + 1
    omega
  · show m.head + 1 ≤ (m.steps + 1 : Nat)
    omega
  · show (m.head + 1) % 2 = (m.steps + 1 : Nat) % 2
    omega
  · intro symbol hs
    change symbol ∈ m.grownTape (m.head + 1) at hs
    rw [grownTape] at hs
    split at hs
    · rcases List.mem_append.mp hs with hold | hnew
      · exact h.cells symbol hold
      · -- A new cell holds the last symbol of the first tape.
        rw [h.blank_eq, Option.mem_toList] at hnew
        exact .inl (List.mem_of_getLast? hnew)
    · exact h.cells symbol hs

/-- **A step preserves what holds of a machine, however it ends.**  A step that fails for lack of a
cell changes nothing.  One that fails to the left of the tape has written a symbol, and nothing else
is different. -/
theorem step (htape : tape ≠ []) (h : WellFormed tape policy used m) (rules : List Rule) :
    WellFormed tape policy (used ++ (m.selected rules).toList) (m.step rules).1 := by
  rcases hstep : m.step rules with ⟨m', o⟩
  cases step_cases hstep with
  | idle => exact h.mono (List.subset_append_left _ _)
  | offTape => exact h.mono (List.subset_append_left _ _)
  | underflow hi hr hmove hhead =>
    rw [hr]
    exact h.written _ _
  | left hi hr hmove hhead =>
    rw [hr]
    exact (h.written _ _).wentLeft hhead (List.mem_append_right _ (List.mem_singleton_self _))
  | @right i r hi hr hmove =>
    rw [hr]
    have hlt : (m.written i r.write).head < (m.written i r.write).tape.length := by
      rw [length_tape_written]
      exact head_lt_of_address hi
    exact (h.written _ _).wentRight htape hlt
      (List.mem_append_right _ (List.mem_singleton_self _))

/-- A step never looks to the left of the first cell. -/
theorem ne_noSuchCell (h : WellFormed tape policy used m) {m' : Machine} {f : Fault}
    (hstep : m.step rules = (m', .fault f)) (head : Int) : f ≠ .noSuchCell head := by
  cases step_cases hstep with
  | offTape hcell =>
    rw [eq_overflow_of_no_cell hcell h.head_nonneg]
    exact Fault.noConfusion
  | underflow => exact Fault.noConfusion

/-- What holds of a machine holds along its course, in terms of all rules of the table. -/
theorem after (htape : tape ≠ []) (h : WellFormed tape policy rules m) {k : Nat} {c : Machine}
    (hc : Course.after (Machine.step · rules) k m = some c) : WellFormed tape policy rules c := by
  refine Course.after_invariant (fun s s' hs hstep => ?_) h hc
  have hnext := hs.step htape rules
  rw [hstep] at hnext
  refine hnext.mono (List.append_subset.mpr ⟨List.Subset.refl rules, fun r hr => ?_⟩)
  exact mem_of_selected (Option.mem_toList.mp hr)

/-! ### Operations -/

/-- The rounds of a run preserve what holds of a machine.  The rules that they apply are those
selected by the machines that they show. -/
theorem runFrom (htape : tape ≠ []) (h : WellFormed tape policy used m) (rules : List Rule)
    (limit : Int) (rounds : Nat) (shown : List Machine) :
    ∃ new, (runFrom rules limit rounds m shown).visited = shown.reverse ++ new ∧
      WellFormed tape policy (used ++ new.filterMap (·.selected rules))
        (runFrom rules limit rounds m shown).machine ∧
      ∀ head, (runFrom rules limit rounds m shown).ending ≠ .fault (.noSuchCell head) := by
  induction rounds generalizing m used shown with
  | zero => exact ⟨[], (List.append_nil _).symm, by simpa [Machine.runFrom] using h,
      fun _ => Ending.noConfusion⟩
  | succ rounds ih =>
    have hwf := h.step htape rules
    -- A round applies the rule that the machine shown in it selects.
    have hone : [m].filterMap (·.selected rules) = (m.selected rules).toList := by
      cases hr : m.selected rules <;> simp [hr]
    rw [← hone] at hwf
    rw [Machine.runFrom]
    rcases hstep : m.step rules with ⟨m', _ | _ | f⟩ <;> rw [hstep] at hwf
    · rw [turn_of_idle hstep]
      exact ⟨[m], List.reverse_cons, hwf.halted true, fun _ => Ending.noConfusion⟩
    · rw [turn_of_fired hstep]
      by_cases hlimit : exceeds limit m'.steps = true
      · rw [if_pos hlimit]
        exact ⟨[m], List.reverse_cons, hwf, fun _ => Ending.noConfusion⟩
      · rw [if_neg hlimit]
        obtain ⟨new, hvisited, hend, hfault⟩ := ih hwf (m :: shown)
        refine ⟨m :: new, ?_, ?_, hfault⟩
        · rw [hvisited, List.reverse_cons, List.append_assoc]
          rfl
        · rw [List.append_assoc, ← List.filterMap_append] at hend
          exact hend
    · rw [turn_of_fault hstep]
      refine ⟨[m], List.reverse_cons, hwf.halted true, fun head he => ?_⟩
      exact h.ne_noSuchCell hstep head (Ending.fault.inj he)

theorem apply (htape : tape ≠ []) (h : WellFormed tape policy used m) (o : Operation) :
    WellFormed tape policy (used ++ o.applied m) (o.apply m) := by
  cases o with
  | step rules => exact h.step htape rules
  | run rules limit rounds =>
    rw [Operation.applied, Operation.apply, Machine.run]
    by_cases hhalted : m.halted = true
    · rw [if_pos hhalted]
      simpa using h
    · rw [if_neg hhalted]
      obtain ⟨new, hvisited, hend, -⟩ := h.runFrom htape rules limit rounds []
      rw [hvisited]
      exact hend

/-- No operation fails by looking to the left of the first cell. -/
theorem fault?_ne (htape : tape ≠ []) (h : WellFormed tape policy used m) (o : Operation)
    (head : Int) : o.fault? m ≠ some (.noSuchCell head) := by
  intro hfault
  cases o with
  | step rules =>
    rcases hstep : m.step rules with ⟨m', _ | _ | f⟩ <;>
      simp only [Operation.fault?, hstep] at hfault <;> cases hfault
    exact h.ne_noSuchCell hstep head rfl
  | run rules limit rounds =>
    simp only [Operation.fault?, Machine.run] at hfault
    by_cases hhalted : m.halted = true
    · rw [if_pos hhalted] at hfault
      cases hfault
    · rw [if_neg hhalted] at hfault
      obtain ⟨new, -, -, hne⟩ := h.runFrom htape rules limit rounds []
      split at hfault
      · rename_i f hf
        cases hfault
        exact hne head hf
      · cases hfault

theorem perform (htape : tape ≠ []) (h : WellFormed tape policy used m)
    (operations : List Operation) :
    WellFormed tape policy (used ++ m.appliedIn operations) (m.perform operations) := by
  induction operations generalizing m used with
  | nil => simpa [appliedIn, Machine.perform] using h
  | cons o rest ih =>
    have hrest := ih (h.apply htape o)
    rw [List.append_assoc] at hrest
    exact hrest

end WellFormed

/-- An operation applies only rules of the table that it is given. -/
theorem mem_rules_of_applied {o : Operation} (h : r ∈ o.applied m) : r ∈ o.rules := by
  cases o with
  | step rules => exact mem_of_selected (Option.mem_toList.mp h)
  | run rules limit rounds =>
    obtain ⟨v, -, hv⟩ := List.mem_filterMap.mp h
    exact mem_of_selected hv

theorem exists_mem_of_appliedIn {operations : List Operation} (h : r ∈ m.appliedIn operations) :
    ∃ o ∈ operations, r ∈ o.rules := by
  induction operations generalizing m with
  | nil => cases h
  | cons o rest ih =>
    rcases List.mem_append.mp h with h | h
    · exact ⟨o, List.mem_cons_self, mem_rules_of_applied h⟩
    · obtain ⟨o', ho', hr⟩ := ih h
      exact ⟨o', List.mem_cons_of_mem o ho', hr⟩

/-- **What holds of every machine within reach.**  A machine that is made on a tape can be used for
any operations in any order, with any tables and limits, and after failures too.  It is well-formed
at every moment: its head stands on the tape or right behind it, where single moves as many as the
transitions have taken it; a tape that may grow has a cell under the head; and symbols and states
come from the tape, the start and the rules applied, all of which are in the tables given.  No
operation ever looks for a cell to the left of the first one. -/
theorem wellFormed_of_operations (tape : List String) (htape : tape ≠ []) (policy : Overflow)
    (operations : List Operation) :
    ∃ m, Machine.ofTape tape policy = .ok m ∧
      WellFormed tape policy (m.appliedIn operations) (m.perform operations) ∧
      (policy = .extend → ∃ symbol, (m.perform operations).cell = .ok symbol) ∧
      (∀ (o : Operation) (head : Int), o.fault? (m.perform operations) ≠ some (.noSuchCell head)) ∧
      ∀ r ∈ m.appliedIn operations, ∃ o ∈ operations, r ∈ o.rules := by
  have hwf := (wellFormed_onTape htape policy).perform htape operations
  rw [List.nil_append] at hwf
  exact ⟨onTape tape policy, if_neg htape, hwf, hwf.exists_cell,
    hwf.fault?_ne htape, fun _ hr => exists_mem_of_appliedIn hr⟩

/-- A failure to the left of the tape, and then a run with another table that leaves the tape to the
right. -/
theorem wellFormed_of_operations_of_failure :
    ["a"] ≠ [] ∧ ∃ m, Machine.ofTape ["a"] .error = .ok m ∧
      WellFormed ["a"] .error [⟨"Inc", "a", "b", .left, "Inc"⟩, ⟨"Inc", "b", "c", .right, "Out"⟩]
        (m.perform [.step [⟨"Inc", "a", "b", .left, "Inc"⟩],
          .run [⟨"Inc", "b", "c", .right, "Out"⟩] 0 5]) := by
  refine ⟨by decide, ?_⟩
  obtain ⟨m, hm, hwf, -⟩ := wellFormed_of_operations ["a"] (by decide) .error
    [.step [⟨"Inc", "a", "b", .left, "Inc"⟩], .run [⟨"Inc", "b", "c", .right, "Out"⟩] 0 5]
  cases hm
  exact ⟨_, rfl, hwf⟩

end Machine

end TapeMachine
