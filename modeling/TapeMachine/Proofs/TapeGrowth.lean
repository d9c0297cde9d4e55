/-
The growth of the tape, whatever is done to the machine from outside.

Between operations anyone may put the head on any integer, the machine into any state, and
take off or set the mark of a halted machine.  Heads then stand left of the tape or far to the
right of it, so nothing that is known of machines within reach of a run is of use here.  All that
carries over is the length of the tape: a cell is added only behind a cell that has just been
read, so a tape without cells never gets one, and a machine that was made without a symbol for
new cells is never asked for it.

Every cell holds a symbol, so the want of a default could not be seen on a tape: a machine that has
none would add nothing.  What is stated is that this never happens.  Whenever a step adds a cell,
there is a default to put into it.

* **`Machine.AddsCell`** — whether a step adds a cell;
* **`Machine.step_of_addsCell`**, **`Machine.length_step_of_not_addsCell`** — what such a step does,
  and that no other step changes the length;
* **`Machine.Rooted`** — what holds of a machine at every moment, however it is used;
* **`Machine.Rooted.exists_default`** — it has a symbol for every cell that it adds;
* **`Machine.Rooted.use`** — every use preserves it, and adds as many cells as its steps do;
* **`Machine.tape_of_uses`** — hence it holds of every machine that there can be.
-/
import TapeMachine.Proofs.Reachable

namespace TapeMachine

/-- What may be done with a machine, or to it. -/
inductive Use where
  | operate (o : Operation)
  | setState (state : String)
  | setHead (head : Int)
  | setHalted (halted : Bool)

namespace Operation

/-- The machines of which an operation makes a step, one after the other. -/
def visited (m : Machine) : Operation → List Machine
  | .step _ => [m]
  | .run rules limit rounds => (m.run rounds rules limit).visited

end Operation

namespace Use

/-- The table that is given, if any. -/
def rules : Use → List Rule
  | .operate o => o.rules
  | _ => []

/-- The machine after a use, whether that has failed or not. -/
def apply (m : Machine) : Use → Machine
  | .operate o => o.apply m
  | .setState state => { m with state }
  | .setHead head => { m with head }
  | .setHalted halted => { m with halted }

/-- The machines of which a use makes a step, one after the other. -/
def visited (m : Machine) : Use → List Machine
  | .operate o => o.visited m
  | _ => []

end Use

namespace Machine

/-- The machine after several uses. -/
def afterUses (m : Machine) (uses : List Use) : Machine :=
  uses.foldl Use.apply m

/-- The rule that a step applies moves to the right from the last cell, and the tape may grow. -/
def AddsCell (m : Machine) (rules : List Rule) : Prop :=
  m.policy = .extend ∧ m.head + 1 = m.tape.length ∧ ∃ r ∈ m.selected rules, r.move = .right

instance (m : Machine) (rules : List Rule) : Decidable (m.AddsCell rules) :=
  inferInstanceAs (Decidable (_ ∧ _ ∧ _))

variable {m : Machine} {tape : List String} {policy : Overflow} {rules : List Rule}
  {limit : Int} {rounds : Nat} {r : Rule}

/-! ### One step -/

/-- A rule is applied only to a cell. -/
theorem selected_of_empty (h : m.tape = []) (rules : List Rule) : m.selected rules = none := by
  rcases hr : m.selected rules with _ | r
  · rfl
  · obtain ⟨i, symbol, -, hsymbol, -⟩ := exists_address_of_selected hr
    rw [h] at hsymbol
    cases hsymbol

/-- Where no rule is applied the machine stays as it is, whether that is a fault or not. -/
theorem step_fst_of_selected_eq_none (h : m.selected rules = none) : (m.step rules).1 = m := by
  rcases hstep : m.step rules with ⟨m', o⟩
  cases step_cases hstep with
  | idle => rfl
  | offTape => rfl
  | underflow hi hr => cases h.symm.trans hr
  | left hi hr => cases h.symm.trans hr
  | right hi hr => cases h.symm.trans hr

/-- No step changes the policy or the symbol for new cells. -/
theorem policy_and_blank_step (m : Machine) (rules : List Rule) :
    (m.step rules).1.policy = m.policy ∧ (m.step rules).1.blank = m.blank := by
  rcases hstep : m.step rules with ⟨m', o⟩
  cases step_cases hstep with
  | idle => exact ⟨rfl, rfl⟩
  | offTape => exact ⟨rfl, rfl⟩
  | underflow => exact ⟨rfl, rfl⟩
  | left => exact ⟨rfl, rfl⟩
  | right => exact ⟨rfl, rfl⟩

/-- A step that adds a cell applies a rule to the last one, and the new one holds the default. -/
theorem step_of_addsCell (h : m.AddsCell rules) :
    ∃ r, m.selected rules = some r ∧ r.move = .right ∧
      m.step rules =
        ({ m with
            state := r.next
            tape := m.tape.set (m.tape.length - 1) r.write ++ m.blank.toList
            head := m.head + 1
            halted := false
            steps := m.steps + 1 }, .fired) := by
  obtain ⟨hpolicy, hhead, r, hr, hmove⟩ := h
  have hselected : m.selected rules = some r := hr
  -- The rule was found by what a cell holds, so there is a last one, which is where the head is.
  have hne : m.tape ≠ [] := by
    intro hempty
    rw [selected_of_empty hempty] at hselected
    cases hselected
  have hpos : 0 < m.tape.length := List.length_pos_iff.mpr hne
  have hi : m.address = .ok (m.tape.length - 1) := by
    rw [address_of_inside ⟨by omega, by omega⟩]
    congr 1
    omega
  have hgrow : (m.written (m.tape.length - 1) r.write).grownTape (m.head + 1) =
      m.tape.set (m.tape.length - 1) r.write ++ m.blank.toList := by
    refine if_pos ⟨hpolicy, ?_⟩
    rw [length_tape_written]
    exact hhead
  refine ⟨r, hselected, hmove, ?_⟩
  rw [step_of_selected hselected, fire_right hi hmove, ← hgrow]
  rfl

/-- No other step changes the length of the tape.  A move to the right from a cell that is counted
back from the right end leads to the next cell, and from the last one to the first. -/
theorem length_step_of_not_addsCell (h : ¬m.AddsCell rules) :
    (m.step rules).1.tape.length = m.tape.length := by
  rcases hstep : m.step rules with ⟨m', o⟩
  cases step_cases hstep with
  | idle => rfl
  | offTape => rfl
  | underflow => exact length_tape_written m _ _
  | left => exact length_tape_written m _ _
  | @right i r hi hr hmove =>
    -- Writing keeps the length, so the move asks the same of the tape as before it.
    have hstay : ¬(m.policy = .extend ∧ m.head + 1 = (m.written i r.write).tape.length) := by
      rw [length_tape_written]
      exact fun hgrow => h ⟨hgrow.1, hgrow.2, r, hr, hmove⟩
    have hgrown : (m.written i r.write).grownTape (m.head + 1) = (m.written i r.write).tape :=
      if_neg hstay
    show ((m.written i r.write).grownTape (m.head + 1)).length = m.tape.length
    rw [hgrown, length_tape_written]

/-! ### Every moment -/

/-- What holds at every moment of a machine that was made on `tape`. -/
structure Rooted (tape : List String) (policy : Overflow) (m : Machine) : Prop where
  policy_eq : m.policy = policy
  blank_eq : m.blank = tape.getLast?
  length_le : tape.length ≤ m.tape.length
  /-- A tape without cells stays so, and no transition is ever made on it. -/
  unmoved : tape = [] → m.tape = [] ∧ m.steps = 0

theorem rooted_onTape (tape : List String) (policy : Overflow) (state : String) (head : Int) :
    Rooted tape policy (onTape tape policy state head) where
  policy_eq := rfl
  blank_eq := rfl
  length_le := Nat.le_refl _
  unmoved h := ⟨h, rfl⟩

namespace Rooted

/-- A machine that adds a cell was made on one, whose symbol is the default. -/
theorem exists_default (h : Rooted tape policy m) (hadds : m.AddsCell rules) :
    ∃ symbol, tape.getLast? = some symbol ∧ m.blank = some symbol := by
  obtain ⟨-, -, r, hr, -⟩ := hadds
  have hne : tape ≠ [] := by
    intro hempty
    rw [selected_of_empty (h.unmoved hempty).1] at hr
    cases hr
  have hlast := List.getLast?_eq_some_getLast hne
  exact ⟨tape.getLast hne, hlast, h.blank_eq.trans hlast⟩

/-- The length of the tape after a step. -/
theorem length_step (h : Rooted tape policy m) (rules : List Rule) :
    (m.step rules).1.tape.length = m.tape.length + if m.AddsCell rules then 1 else 0 := by
  by_cases hadds : m.AddsCell rules
  · obtain ⟨r, -, -, hstep⟩ := step_of_addsCell hadds
    obtain ⟨symbol, -, hblank⟩ := h.exists_default hadds
    rw [if_pos hadds, hstep, hblank, Option.toList_some]
    show (m.tape.set (m.tape.length - 1) r.write ++ [symbol]).length = m.tape.length + 1
    rw [List.length_append, List.length_set, List.length_singleton]
  · rw [if_neg hadds, length_step_of_not_addsCell hadds, Nat.add_zero]

/-- **A step preserves what holds at every moment**, wherever the head stands. -/
theorem step (h : Rooted tape policy m) (rules : List Rule) :
    Rooted tape policy (m.step rules).1 := by
  obtain ⟨hpolicy, hblank⟩ := policy_and_blank_step m rules
  refine ⟨hpolicy.trans h.policy_eq, hblank.trans h.blank_eq, ?_, fun hempty => ?_⟩
  · rw [h.length_step rules]
    exact Nat.le_add_right_of_le h.length_le
  · obtain ⟨htape, hsteps⟩ := h.unmoved hempty
    rw [step_fst_of_selected_eq_none (selected_of_empty htape rules)]
    exact ⟨htape, hsteps⟩

/-- The state, the head and the mark of a halted machine do not matter. -/
theorem assign (h : Rooted tape policy m) (state : String) (head : Int) (halted : Bool) :
    Rooted tape policy { m with state, head, halted } :=
  ⟨h.policy_eq, h.blank_eq, h.length_le, h.unmoved⟩

/-- The rounds of a run add as many cells as the steps that are made in them. -/
theorem runFrom (h : Rooted tape policy m) (rules : List Rule) (limit : Int) (rounds : Nat)
    (shown : List Machine) :
    ∃ new, (runFrom rules limit rounds m shown).visited = shown.reverse ++ new ∧
      (∀ v ∈ new, Rooted tape policy v) ∧
      Rooted tape policy (runFrom rules limit rounds m shown).machine ∧
      (runFrom rules limit rounds m shown).machine.tape.length =
        m.tape.length + new.countP (·.AddsCell rules) := by
  -- On the rounds; those that are shown already are only passed on.
  induction rounds generalizing m shown with
  | zero =>
    exact ⟨[], (List.append_nil _).symm, List.forall_mem_nil _, h, rfl⟩
  | succ rounds ih =>
    have hnext := h.step rules
    have hlength := h.length_step rules
    have hone : ∀ v ∈ [m], Rooted tape policy v := List.forall_mem_singleton.mpr h
    have hcount : [m].countP (·.AddsCell rules) = if m.AddsCell rules then 1 else 0 := by
      rw [List.countP_singleton]
      simp only [decide_eq_true_eq]
    rw [← hcount] at hlength
    rw [Machine.runFrom]
    rcases hstep : m.step rules with ⟨m', _ | _ | f⟩ <;> rw [hstep] at hnext hlength
    · rw [turn_of_idle hstep]
      exact ⟨[m], List.reverse_cons, hone, hnext.assign _ _ true, hlength⟩
    · rw [turn_of_fired hstep]
      by_cases hlimit : exceeds limit m'.steps = true
      · rw [if_pos hlimit]
        exact ⟨[m], List.reverse_cons, hone, hnext, hlength⟩
      · rw [if_neg hlimit]
        obtain ⟨new, hvisited, hnew, hend, hadded⟩ := ih hnext (m :: shown)
        refine ⟨m :: new, ?_, List.forall_mem_cons.mpr ⟨h, hnew⟩, hend, ?_⟩
        · rw [hvisited, List.reverse_cons, List.append_assoc]
          rfl
        · rw [hadded, hlength, Nat.add_assoc, ← List.countP_append]
          rfl
    · rw [turn_of_fault hstep]
      exact ⟨[m], List.reverse_cons, hone, hnext.assign _ _ true, hlength⟩

/-- An operation adds as many cells as its steps do. -/
theorem operate (h : Rooted tape policy m) (o : Operation) :
    (∀ v ∈ o.visited m, Rooted tape policy v) ∧ Rooted tape policy (o.apply m) ∧
      (o.apply m).tape.length = m.tape.length + (o.visited m).countP (·.AddsCell o.rules) := by
  cases o with
  | step rules =>
    refine ⟨List.forall_mem_singleton.mpr h, h.step rules, ?_⟩
    rw [Operation.visited, List.countP_singleton]
    simp only [decide_eq_true_eq]
    exact h.length_step rules
  | run rules limit rounds =>
    rw [Operation.visited, Operation.apply, Operation.rules, Machine.run]
    by_cases hhalted : m.halted = true
    · rw [if_pos hhalted]
      exact ⟨List.forall_mem_nil _, h, rfl⟩
    · rw [if_neg hhalted]
      obtain ⟨new, hvisited, hnew, hend, hadded⟩ := h.runFrom rules limit rounds []
      rw [hvisited]
      exact ⟨hnew, hend, hadded⟩

/-- **So does every use, and an assignment adds none.** -/
theorem use (h : Rooted tape policy m) (u : Use) :
    (∀ v ∈ u.visited m, Rooted tape policy v) ∧ Rooted tape policy (u.apply m) ∧
      (u.apply m).tape.length = m.tape.length + (u.visited m).countP (·.AddsCell u.rules) := by
  cases u with
  | operate o => exact h.operate o
  | setState state => exact ⟨List.forall_mem_nil _, h.assign state m.head m.halted, rfl⟩
  | setHead head => exact ⟨List.forall_mem_nil _, h.assign m.state head m.halted, rfl⟩
  | setHalted halted => exact ⟨List.forall_mem_nil _, h.assign m.state m.head halted, rfl⟩

theorem afterUses (h : Rooted tape policy m) (uses : List Use) :
    Rooted tape policy (m.afterUses uses) := by
  induction uses generalizing m with
  | nil => exact h
  | cons u rest ih => exact ih (h.use u).2.1

end Rooted

/-- **The tape grows only at its right end, and only by a symbol that there is.**  Let a machine be
made on any tape, in any state and with the head anywhere, and let it be used in any way: for steps
and runs with all kinds of tables and limits, with the state, the head and the mark of a halted
machine assigned in between.

A tape that was empty stays empty, and no rule is ever applied to it.  Whatever is done next, the
tape becomes longer by exactly as many cells as there are steps that add one.  Such a step applies a
rule to the last cell that moves to the right, under the policy `extend`, and puts the symbol that
was last on the first tape, which there is, into the one new cell.  All other steps leave the length
as it is. -/
theorem tape_of_uses (tape : List String) (policy : Overflow) (state : String) (head : Int)
    (uses : List Use) (u : Use) :
    let m := (onTape tape policy state head).afterUses uses
    (tape = [] → m.tape = [] ∧ m.steps = 0 ∧ (u.apply m).tape = [] ∧ (u.apply m).steps = 0 ∧
      ∀ v ∈ u.visited m, v.selected u.rules = none) ∧
    tape.length ≤ m.tape.length ∧ m.blank = tape.getLast? ∧
    (u.apply m).tape.length = m.tape.length + (u.visited m).countP (·.AddsCell u.rules) ∧
    ∀ v ∈ u.visited m,
      (v.AddsCell u.rules →
        policy = .extend ∧ v.head = v.tape.length - 1 ∧
          ∃ r symbol, v.selected u.rules = some r ∧ r.move = .right ∧
            tape.getLast? = some symbol ∧
            v.step u.rules =
              ({ v with
                  state := r.next
                  tape := v.tape.set (v.tape.length - 1) r.write ++ [symbol]
                  head := v.head + 1
                  halted := false
                  steps := v.steps + 1 }, .fired)) ∧
      (¬v.AddsCell u.rules → (v.step u.rules).1.tape.length = v.tape.length) := by
  intro m
  have hm : Rooted tape policy m := (rooted_onTape tape policy state head).afterUses uses
  obtain ⟨hvisited, hnext, hadded⟩ := hm.use u
  refine ⟨fun hempty => ?_, hm.length_le, hm.blank_eq, hadded,
    fun v hv => ⟨fun hadds => ?_, length_step_of_not_addsCell⟩⟩
  · obtain ⟨htape, hsteps⟩ := hm.unmoved hempty
    obtain ⟨htape', hsteps'⟩ := hnext.unmoved hempty
    refine ⟨htape, hsteps, htape', hsteps', fun v hv => ?_⟩
    exact selected_of_empty ((hvisited v hv).unmoved hempty).1 u.rules
  · obtain ⟨r, hr, hmove, hstep⟩ := step_of_addsCell hadds
    obtain ⟨symbol, hlast, hblank⟩ := (hvisited v hv).exists_default hadds
    have hcell : v.blank.toList = [symbol] := by
      rw [hblank, Option.toList_some]
    rw [hcell] at hstep
    have hpolicy : policy = .extend := (hvisited v hv).policy_eq.symm.trans hadds.1
    have hhead : v.head = v.tape.length - 1 := by
      have hend := hadds.2.1
      omega
    exact ⟨hpolicy, hhead, r, symbol, hr, hmove, hlast, hstep⟩

/-- The head of a machine on one cell is put far to the right and then back to the left end of the
tape, from where a step adds a cell.  From -1, which stands for the same cell, it adds none. -/
theorem tape_of_uses_of_assigned_head :
    ((onTape ["a"] .extend).afterUses [.setHead 7, .setHead 0]).AddsCell
        [⟨"Inc", "a", "b", .right, "Inc"⟩] ∧
      (((onTape ["a"] .extend).afterUses [.setHead 7, .setHead 0]).step
        [⟨"Inc", "a", "b", .right, "Inc"⟩]).1.tape = ["b", "a"] ∧
      (((onTape ["a"] .extend).afterUses [.setHead (-1)]).step
        [⟨"Inc", "a", "b", .right, "Inc"⟩]).1.tape.length = 1 := by
  obtain ⟨-, -, -, -, hadding⟩ := tape_of_uses ["a"] .extend "Inc" 0 [.setHead 7, .setHead 0]
    (.operate (.step [⟨"Inc", "a", "b", .right, "Inc"⟩]))
  obtain ⟨-, -, -, -, hstaying⟩ := tape_of_uses ["a"] .extend "Inc" 0 [.setHead (-1)]
    (.operate (.step [⟨"Inc", "a", "b", .right, "Inc"⟩]))
  have hadds : ((onTape ["a"] .extend).afterUses [.setHead 7, .setHead 0]).AddsCell
      [⟨"Inc", "a", "b", .right, "Inc"⟩] := by
    decide
  obtain ⟨-, -, r, symbol, hr, -, hlast, hstep⟩ :=
    (hadding _ (List.mem_singleton_self _)).1 hadds
  cases hr
  cases hlast
  exact ⟨hadds, congrArg (·.1.tape) hstep, (hstaying _ (List.mem_singleton_self _)).2 (by decide)⟩

end Machine

end TapeMachine
