/-
Transitions: what one step does to a machine.

A step is settled by the cell under the head and the first rule for the state and
that cell.  What follows says once and for all what can happen, so that nothing
that is said of runs has to open the definitions again.

* **`firstRule`** — the rule that wins for a state and a symbol;
* **`Machine.selected`** — the rule that a step applies;
* **`Machine.Transition`** — the ways in which a step can go, each with all that it requires;
* **`Machine.step_cases`**, **`Machine.Transition.step_eq`** — a step goes in one of these ways,
  and what goes in one of them is the step;
* **`Machine.step_halted`** — a step does not look at whether the machine has halted.
-/
import Mathlib.Tactic.ByContra
import TapeMachine.Machine.Snapshot
import TapeMachine.Rule.Shadow

namespace TapeMachine

/-- The first rule for a state and a symbol. -/
def firstRule (rules : List Rule) (state symbol : String) : Option Rule :=
  rules.find? fun r => r.trigger = (state, symbol)

theorem firstRule_cons (r : Rule) (rest : List Rule) (state symbol : String) :
    firstRule (r :: rest) state symbol =
      if r.state = state ∧ r.read = symbol then some r else firstRule rest state symbol := by
  rw [firstRule, List.find?_cons]
  by_cases h : r.state = state ∧ r.read = symbol
  · simp [Rule.trigger, h]
  · simp [Rule.trigger, h, firstRule]

theorem mem_of_firstRule {rules : List Rule} {state symbol : String} {r : Rule}
    (h : firstRule rules state symbol = some r) : r ∈ rules :=
  List.mem_of_find?_eq_some h

theorem trigger_of_firstRule {rules : List Rule} {state symbol : String} {r : Rule}
    (h : firstRule rules state symbol = some r) : r.trigger = (state, symbol) := by
  simpa using List.find?_some h

namespace Machine

variable {m m' : Machine} {rules : List Rule} {r : Rule} {symbol : String} {f : Fault} {i : Nat}

/-! ### The cell under the head -/

theorem address_of_inside (h : m.HeadInside) : m.address = .ok m.head.toNat := by
  rw [address, if_neg (by have := h.2; omega), if_pos h.1]

theorem cell_of_inside (h : m.HeadInside) (hs : m.tape[m.head.toNat]? = some symbol) :
    m.cell = .ok symbol := by
  rw [cell, address_of_inside h]
  simp only [hs]

/-- A head on a cell reads it. -/
theorem exists_cell_of_inside (h : m.HeadInside) :
    ∃ symbol, m.tape[m.head.toNat]? = some symbol ∧ m.cell = .ok symbol := by
  have hlt : m.head.toNat < m.tape.length := by
    have := h.1
    have := h.2
    omega
  have hs := List.getElem?_eq_getElem hlt
  exact ⟨_, hs, cell_of_inside h hs⟩

/-- A symbol that was read stands in the cell that the head addresses. -/
theorem exists_address_of_cell (h : m.cell = .ok symbol) :
    ∃ i, m.address = .ok i ∧ m.tape[i]? = some symbol := by
  rw [cell] at h
  split at h
  · cases h
  · rename_i i hi
    split at h
    · rename_i s hs
      cases h
      exact ⟨i, hi, hs⟩
    · cases h

theorem cell_of_ge (h : m.tape.length ≤ m.head) : m.cell = .error (.overflow m.head) := by
  rw [cell, address, if_pos h]

theorem head_lt_of_address (h : m.address = .ok i) : m.head < m.tape.length := by
  by_contra hge
  rw [address, if_pos (by omega)] at h
  cases h

/-- A head that is not to the left of the tape can only miss a cell by standing past the last one. -/
theorem eq_overflow_of_no_cell (h : m.cell = .error f) (hhead : 0 ≤ m.head) :
    f = .overflow m.head := by
  by_cases hlt : m.head < m.tape.length
  · obtain ⟨symbol, -, hcell⟩ := exists_cell_of_inside ⟨hhead, hlt⟩
    rw [hcell] at h
    cases h
  · rw [cell_of_ge (by omega)] at h
    cases h
    rfl

/-! ### The first rule -/

/-- On a cell, the choice falls on the first rule for the state and the symbol. -/
theorem choose_of_cell (h : m.cell = .ok symbol) (place : Nat) (rules : List Rule) :
    (m.choose place rules).map (·.map Prod.snd) = .ok (firstRule rules m.state symbol) := by
  induction rules generalizing place with
  | nil => rfl
  | cons r rest ih =>
    rw [choose, firstRule_cons]
    by_cases hstate : r.state = m.state
    · rw [if_pos hstate, h]
      by_cases hread : r.read = symbol
      · simp [hread, hstate, Except.map]
      · simpa [hread, hstate] using ih (place + 1)
    · simpa [hstate] using ih (place + 1)

/-- Off the tape, no choice is made once a rule for the state turns up. -/
theorem choose_of_no_cell (h : m.cell = .error f) (place : Nat) (rules : List Rule) :
    m.choose place rules =
      if ∃ r ∈ rules, r.state = m.state then .error f else .ok none := by
  induction rules generalizing place with
  | nil => rfl
  | cons r rest ih =>
    rw [choose]
    by_cases hstate : r.state = m.state
    · simp [hstate, h]
    · simp [hstate, ih (place + 1)]

/-- The rule that a step applies. -/
def selected (m : Machine) (rules : List Rule) : Option Rule :=
  m.cell.toOption.bind (firstRule rules m.state)

theorem selected_of_cell (h : m.cell = .ok symbol) :
    m.selected rules = firstRule rules m.state symbol := by
  rw [selected, h]
  rfl

theorem selected_of_no_cell (h : m.cell = .error f) : m.selected rules = none := by
  rw [selected, h]
  rfl

/-- A rule that is applied is a rule for the state and the symbol in the cell addressed. -/
theorem exists_address_of_selected (h : m.selected rules = some r) :
    ∃ i symbol, m.address = .ok i ∧ m.tape[i]? = some symbol ∧ m.cell = .ok symbol ∧
      firstRule rules m.state symbol = some r := by
  rcases hcell : m.cell with f | symbol
  · -- Off the tape no rule is applied.
    rw [selected_of_no_cell hcell] at h
    cases h
  · rw [selected_of_cell hcell] at h
    obtain ⟨i, hi, hsymbol⟩ := exists_address_of_cell hcell
    exact ⟨i, symbol, hi, hsymbol, rfl, h⟩

theorem mem_of_selected (h : m.selected rules = some r) : r ∈ rules := by
  obtain ⟨i, symbol, -, -, -, hr⟩ := exists_address_of_selected h
  exact mem_of_firstRule hr

theorem step_of_cell (h : m.cell = .ok symbol) :
    m.step rules = (m.selected rules).elim (m, .idle) m.fire := by
  have hchoose := choose_of_cell h 0 rules
  rw [step, selected_of_cell h]
  rcases hc : m.choose 0 rules with g | _ | ⟨p, r⟩ <;> rw [hc] at hchoose
  · cases hchoose
  · rw [← Except.ok.inj hchoose]
    rfl
  · rw [← Except.ok.inj hchoose]
    rfl

theorem step_of_no_cell (h : m.cell = .error f) :
    m.step rules = if ∃ r ∈ rules, r.state = m.state then (m, .fault f) else (m, .idle) := by
  rw [step, choose_of_no_cell h]
  by_cases hr : ∃ r ∈ rules, r.state = m.state
  · rw [if_pos hr, if_pos hr]
  · rw [if_neg hr, if_neg hr]

theorem step_of_selected (h : m.selected rules = some r) : m.step rules = m.fire r := by
  obtain ⟨i, symbol, -, -, hcell, -⟩ := exists_address_of_selected h
  rw [step_of_cell hcell, h]
  rfl

/-- Without a rule for the state no cell is looked at, wherever the head stands. -/
theorem step_of_no_rule (h : ∀ r ∈ rules, r.state ≠ m.state) : m.step rules = (m, .idle) := by
  rcases hcell : m.cell with f | symbol
  · rw [step_of_no_cell hcell, if_neg fun ⟨r, hr, hs⟩ => h r hr hs]
  · rcases hr : m.selected rules with _ | r
    · rw [step_of_cell hcell, hr]
      rfl
    · rw [selected_of_cell hcell] at hr
      exact absurd (congrArg Prod.fst (trigger_of_firstRule hr)) (h r (mem_of_firstRule hr))

/-! ### The effect of a rule -/

/-- The machine after a symbol has been written to a cell. -/
def written (m : Machine) (i : Nat) (symbol : String) : Machine :=
  { m with tape := m.tape.set i symbol }

@[simp] theorem length_tape_written (m : Machine) (i : Nat) (symbol : String) :
    (m.written i symbol).tape.length = m.tape.length :=
  List.length_set

/-- The machine after a transition to the left. -/
def wentLeft (m : Machine) (next : String) : Machine :=
  { m with state := next, head := m.head - 1, halted := false, steps := m.steps + 1 }

/-- The machine after a transition to the right. -/
def wentRight (m : Machine) (next : String) : Machine :=
  { m with state := next, head := m.head + 1, tape := m.grownTape (m.head + 1),
           halted := false, steps := m.steps + 1 }

/-- Left of the first cell there is none, but the symbol has been written by then. -/
theorem fire_left_of_zero (hi : m.address = .ok i) (hmove : r.move = .left) (hhead : m.head = 0) :
    m.fire r = (m.written i r.write, .fault .underflow) := by
  rw [fire, writeCell, hi, hmove]
  simp only [moveHead, if_pos hhead]
  rfl

theorem fire_left (hi : m.address = .ok i) (hmove : r.move = .left) (hhead : m.head ≠ 0) :
    m.fire r = ((m.written i r.write).wentLeft r.next, .fired) := by
  rw [fire, writeCell, hi, hmove]
  simp only [moveHead, if_neg hhead]
  rfl

/-- Under the policy `error` the tape never grows. -/
theorem grownTape_of_error (h : m.policy = .error) (head : Int) : m.grownTape head = m.tape := by
  rw [grownTape, if_neg (by simp [h])]

theorem fire_right (hi : m.address = .ok i) (hmove : r.move = .right) :
    m.fire r = ((m.written i r.write).wentRight r.next, .fired) := by
  rw [fire, writeCell, hi, hmove]
  rfl

/-! ### One step -/

/-- The ways in which a step can go, each with all that it requires. -/
inductive Transition (m : Machine) (rules : List Rule) : Machine × Outcome → Prop
  /-- No rule matches. -/
  | idle (hnone : m.selected rules = none)
      (hoff : ∀ f, m.cell = .error f → ∀ r ∈ rules, r.state ≠ m.state) :
      Transition m rules (m, .idle)
  /-- A rule for the state needs a cell that is not there. -/
  | offTape {f : Fault} {r : Rule} (hcell : m.cell = .error f) (hr : r ∈ rules)
      (hstate : r.state = m.state) : Transition m rules (m, .fault f)
  /-- The rule that is applied moves to the left of the first cell. -/
  | underflow {i : Nat} {r : Rule} (hi : m.address = .ok i) (hr : m.selected rules = some r)
      (hmove : r.move = .left) (hhead : m.head = 0) :
      Transition m rules (m.written i r.write, .fault .underflow)
  | left {i : Nat} {r : Rule} (hi : m.address = .ok i) (hr : m.selected rules = some r)
      (hmove : r.move = .left) (hhead : m.head ≠ 0) :
      Transition m rules ((m.written i r.write).wentLeft r.next, .fired)
  | right {i : Nat} {r : Rule} (hi : m.address = .ok i) (hr : m.selected rules = some r)
      (hmove : r.move = .right) :
      Transition m rules ((m.written i r.write).wentRight r.next, .fired)

/-- Every step goes in one of these ways. -/
theorem transition_step (m : Machine) (rules : List Rule) : Transition m rules (m.step rules) := by
  rcases hr : m.selected rules with _ | r
  · rcases hcell : m.cell with f | symbol
    · rw [step_of_no_cell hcell]
      by_cases hstate : ∃ r ∈ rules, r.state = m.state
      · rw [if_pos hstate]
        obtain ⟨r, hmem, hs⟩ := hstate
        exact .offTape hcell hmem hs
      · rw [if_neg hstate]
        exact .idle hr fun _ _ r hmem hs => hstate ⟨r, hmem, hs⟩
    · rw [step_of_cell hcell, hr]
      refine .idle hr fun f hf => ?_
      rw [hcell] at hf
      cases hf
  · obtain ⟨i, -, hi, -⟩ := exists_address_of_selected hr
    rw [step_of_selected hr]
    rcases hmove : r.move with _ | _
    · by_cases hhead : m.head = 0
      · rw [fire_left_of_zero hi hmove hhead]
        exact .underflow hi hr hmove hhead
      · rw [fire_left hi hmove hhead]
        exact .left hi hr hmove hhead
    · rw [fire_right hi hmove]
      exact .right hi hr hmove

/-- What a step does, read off from its result. -/
theorem step_cases {x : Machine × Outcome} (h : m.step rules = x) : Transition m rules x :=
  h ▸ transition_step m rules

/-- The ways exclude each other: each of them is what the step does. -/
theorem Transition.step_eq {x : Machine × Outcome} (h : Transition m rules x) :
    m.step rules = x := by
  cases h with
  | idle hnone hoff =>
    rcases hcell : m.cell with f | symbol
    · rw [step_of_no_cell hcell]
      exact if_neg fun ⟨r, hmem, hs⟩ => hoff f hcell r hmem hs
    · rw [step_of_cell hcell, hnone]
      rfl
  | offTape hcell hr hstate =>
    rw [step_of_no_cell hcell]
    exact if_pos ⟨_, hr, hstate⟩
  | underflow hi hr hmove hhead => rw [step_of_selected hr, fire_left_of_zero hi hmove hhead]
  | left hi hr hmove hhead => rw [step_of_selected hr, fire_left hi hmove hhead]
  | right hi hr hmove => rw [step_of_selected hr, fire_right hi hmove]

/-- Where no rule is applied nothing changes. -/
theorem eq_of_idle (h : m.step rules = (m', .idle)) : m' = m := by
  cases step_cases h with
  | idle => rfl

/-- A step is idle where no rule is applied and, off the tape, none is for the state. -/
theorem none_of_idle (h : (m.step rules).2 = .idle) :
    m.selected rules = none ∧ ∀ f, m.cell = .error f → ∀ r ∈ rules, r.state ≠ m.state := by
  rcases hstep : m.step rules with ⟨m', o⟩
  rw [hstep] at h
  obtain rfl : o = .idle := h
  cases step_cases hstep with
  | idle hnone hoff => exact ⟨hnone, hoff⟩

/-- On a cell, a step fails only by leaving the tape to the left. -/
theorem eq_underflow_of_cell (hcell : m.cell = .ok symbol) (h : m.step rules = (m', .fault f)) :
    f = .underflow := by
  cases step_cases h with
  | offTape hoff =>
    rw [hcell] at hoff
    cases hoff
  | underflow => rfl

/-- A step that fails has written at most. -/
theorem same_of_fault (h : m.step rules = (m', .fault f)) :
    m'.steps = m.steps ∧ m'.state = m.state ∧ m'.head = m.head := by
  cases step_cases h with
  | offTape => exact ⟨rfl, rfl, rfl⟩
  | underflow => exact ⟨rfl, rfl, rfl⟩

/-- A transition clears the mark of a halted machine and is counted. -/
theorem halted_and_steps_of_fired (h : m.step rules = (m', .fired)) :
    m'.halted = false ∧ m'.steps = m.steps + 1 := by
  cases step_cases h with
  | left => exact ⟨rfl, rfl⟩
  | right => exact ⟨rfl, rfl⟩

/-- A step does not look at the mark of a halted machine, and only a transition changes it. -/
theorem step_halted (m : Machine) (b : Bool) (rules : List Rule) :
    { m with halted := b }.step rules =
      match m.step rules with
      | (m', .fired) => (m', .fired)
      | (m', o) => ({ m' with halted := b }, o) := by
  -- Each way goes on the marked machine as it goes on the other.
  refine Transition.step_eq ?_
  rcases hstep : m.step rules with ⟨m', o⟩
  cases step_cases hstep with
  | idle hnone hoff => exact .idle hnone hoff
  | offTape hcell hr hstate => exact .offTape hcell hr hstate
  | underflow hi hr hmove hhead => exact .underflow (m := { m with halted := b }) hi hr hmove hhead
  | left hi hr hmove hhead => exact .left (m := { m with halted := b }) hi hr hmove hhead
  | right hi hr hmove => exact .right (m := { m with halted := b }) hi hr hmove

end Machine

end TapeMachine
