/-
A run and the cells around its tape.

Under the policy `error` a run knows of its tape no more than the cells it goes over, as
long as no step of it fails.  With more cells on either side it therefore does the same,
and leaves those cells as they are.  There is one place where the two runs stand before
different things: past the last cell of the one there may be a cell of the other.  A step
goes on from there only if it looks at no cell, which it does not if no rule is for the
state, and then it does not look at the other's cell either.

* **`Machine.Inset`** — a machine, and the same machine with more cells on both sides;
* **`Machine.Inset.cell`**, **`Machine.Inset.selected`** — both read the same symbol, and apply
  the same rule;
* **`Machine.Inset.stepsAlike`** — their steps go alike, unless the first one fails;
* **`Machine.run_inset`** — and so do their runs.
-/
import TapeMachine.Proofs.SideBySide

namespace TapeMachine.Machine

/-- The second machine is the first one, with the cells `before` and `behind` around its tape. -/
structure Inset (before behind : List String) (c d : Machine) : Prop where
  state_eq : d.state = c.state
  tape_eq : d.tape = before ++ c.tape ++ behind
  head_eq : d.head = c.head + before.length
  halted_eq : d.halted = c.halted
  steps_eq : d.steps = c.steps
  error : c.policy = .error
  error' : d.policy = .error
  head_nonneg : 0 ≤ c.head

namespace Inset

variable {before behind : List String} {c d : Machine} {rules : List Rule} {i : Nat}
  {symbol : String}

/-- The head of the one stands on a cell of its tape where the other's stands on the same cell. -/
theorem address (h : Inset before behind c d) (hi : c.address = .ok i) :
    d.address = .ok (before.length + i) ∧ i < c.tape.length := by
  have hlt := head_lt_of_address hi
  have hnonneg := h.head_nonneg
  have hlength : d.tape.length = before.length + c.tape.length + behind.length := by
    rw [h.tape_eq, List.length_append, List.length_append]
  rw [address_of_inside ⟨hnonneg, hlt⟩, Except.ok.injEq] at hi
  have hhead := h.head_eq
  rw [address_of_inside ⟨by omega, by omega⟩, Except.ok.injEq]
  omega

theorem cell (h : Inset before behind c d) (hcell : c.cell = .ok symbol) :
    d.cell = .ok symbol := by
  obtain ⟨i, hi, hsymbol⟩ := exists_address_of_cell hcell
  obtain ⟨hd, hlt⟩ := h.address hi
  have hsame : d.tape[before.length + i]? = some symbol := by
    rw [h.tape_eq, List.append_assoc, List.getElem?_append_right (by omega),
      Nat.add_sub_cancel_left, List.getElem?_append_left hlt, hsymbol]
  rw [Machine.cell, hd]
  simp only [hsame]

theorem selected (h : Inset before behind c d) (hcell : c.cell = .ok symbol) :
    d.selected rules = c.selected rules := by
  rw [selected_of_cell (h.cell hcell), selected_of_cell hcell, h.state_eq]

/-! ### What a rule does -/

theorem written (h : Inset before behind c d) (hi : i < c.tape.length) (symbol : String) :
    Inset before behind (c.written i symbol) (d.written (before.length + i) symbol) :=
  { h with
    tape_eq := by
      rw [Machine.written, Machine.written, h.tape_eq, List.append_assoc,
        List.set_append_right _ _ (by omega), Nat.add_sub_cancel_left,
        List.set_append_left _ _ hi, List.append_assoc] }

theorem wentLeft (h : Inset before behind c d) (hhead : c.head ≠ 0) (next : String) :
    Inset before behind (c.wentLeft next) (d.wentLeft next) :=
  { h with
    state_eq := rfl
    halted_eq := rfl
    steps_eq := congrArg (· + 1) h.steps_eq
    head_eq := by
      show d.head - 1 = c.head - 1 + before.length
      rw [h.head_eq]
      omega
    head_nonneg := by
      show 0 ≤ c.head - 1
      have := h.head_nonneg
      omega }

theorem wentRight (h : Inset before behind c d) (next : String) :
    Inset before behind (c.wentRight next) (d.wentRight next) :=
  { h with
    state_eq := rfl
    halted_eq := rfl
    steps_eq := congrArg (· + 1) h.steps_eq
    tape_eq := by
      rw [Machine.wentRight, Machine.wentRight, grownTape_of_error h.error,
        grownTape_of_error h.error', h.tape_eq]
    head_eq := by
      show d.head + 1 = c.head + 1 + before.length
      rw [h.head_eq]
      omega
    head_nonneg := by
      show 0 ≤ c.head + 1
      have := h.head_nonneg
      omega }

/-! ### One step -/

/-- Where no rule matches on the one tape, none does on the other. -/
theorem step_of_idle (h : Inset before behind c d) (hnone : c.selected rules = none)
    (hoff : ∀ f, c.cell = .error f → ∀ r ∈ rules, r.state ≠ c.state) :
    d.step rules = (d, .idle) := by
  rcases hcell : c.cell with f | symbol
  · -- The other's head may stand on a cell behind the tape, which is not looked at.
    refine step_of_no_rule fun r hr => ?_
    rw [h.state_eq]
    exact hoff f hcell r hr
  · rw [step_of_cell (h.cell hcell), h.selected hcell, hnone]
    rfl

/-- A rule that is applied on the one tape is applied on the other. -/
theorem step_of_selected (h : Inset before behind c d) {r : Rule} (hi : c.address = .ok i)
    (hr : c.selected rules = some r) :
    d.step rules = d.fire r ∧ d.address = .ok (before.length + i) ∧
      Inset before behind (c.written i r.write) (d.written (before.length + i) r.write) := by
  obtain ⟨hd, hlt⟩ := h.address hi
  obtain ⟨_, symbol, -, -, hcell, -⟩ := exists_address_of_selected hr
  exact ⟨Machine.step_of_selected ((h.selected hcell).trans hr), hd, h.written hlt r.write⟩

/-- Steps go alike, unless the first machine's fails. -/
theorem stepsAlike (before behind : List String) (rules : List Rule) :
    StepsAlike rules rules (fun o => ∀ f, o ≠ .fault f) (Inset before behind) where
  kept_fired := nofun
  halted_eq := Inset.halted_eq
  steps_eq := Inset.steps_eq
  marked h := { h with halted_eq := rfl }
  step := by
    intro c d h hkept
    rcases hc : c.step rules with ⟨c', o⟩
    rw [hc] at hkept
    cases step_cases hc with
    | idle hnone hoff =>
      rw [h.step_of_idle hnone hoff]
      exact ⟨rfl, h⟩
    | offTape | underflow => exact absurd rfl (hkept _)
    | left hi hr hmove hhead =>
      obtain ⟨hstep, hd, hwritten⟩ := h.step_of_selected hi hr
      have hhead' : d.head ≠ 0 := by
        have := h.head_nonneg
        rw [h.head_eq]
        omega
      rw [hstep, fire_left hd hmove hhead']
      exact ⟨rfl, hwritten.wentLeft hhead _⟩
    | right hi hr hmove =>
      obtain ⟨hstep, hd, hwritten⟩ := h.step_of_selected hi hr
      rw [hstep, fire_right hd hmove]
      exact ⟨rfl, hwritten.wentRight _⟩

end Inset

/-- **A run that halts or is cut short by the limit goes the same way with more cells on either side
of its tape, and leaves those cells as they are.** -/
theorem run_inset (tape before behind : List String) (state : String) {head : Int}
    (hhead : 0 ≤ head) (rules : List Rule) (limit : Int) (rounds : Nat) {r r' : Run}
    (hr : (onTape tape .error state head).run rounds rules limit = r)
    (hr' : (onTape (before ++ tape ++ behind) .error state (before.length + head)).run rounds rules
      limit = r')
    (hending : r.ending = .halted ∨ r.ending = .limitExceeded) :
    r'.ending = r.ending ∧ r'.machine.steps = r.machine.steps ∧
      r'.machine.state = r.machine.state ∧
      r'.machine.head = r.machine.head + before.length ∧
      r'.machine.tape = before ++ r.machine.tape ++ behind := by
  have hinset : Inset before behind (onTape tape .error state head)
      (onTape (before ++ tape ++ behind) .error state (before.length + head)) :=
    ⟨rfl, rfl, Int.add_comm _ _, rfl, rfl, rfl, rfl, hhead⟩
  subst hr hr'
  have hkept : ∀ f, ((onTape tape .error state head).run rounds rules limit).ending.lastOutcome ≠
      .fault f := by
    intro f
    rcases hending with h | h <;> rw [h] <;> nofun
  obtain ⟨hsame, h, -⟩ := (Inset.stepsAlike before behind rules).run hinset rfl hkept
  exact ⟨hsame, h.steps_eq, h.state_eq, h.head_eq, h.tape_eq⟩

/-- A machine that halts past its only cell halts on the next one if there is one, and does not
rewrite it. -/
theorem run_inset_of_halt_past_end :
    ∃ r r', (onTape ["a"] .error "Inc").run 5 [⟨"Inc", "a", "b", .right, "Stop"⟩] 0 = r ∧
      (onTape ["x", "a", "a"] .error "Inc" 1).run 5 [⟨"Inc", "a", "b", .right, "Stop"⟩] 0 = r' ∧
      r.ending = .halted ∧ ¬r.machine.HeadInside ∧ r'.ending = .halted ∧ r'.machine.HeadInside ∧
      r'.machine.tape = ["x", "b", "a"] := by
  have hhead : (0 : Int) ≤ 0 := by decide
  obtain ⟨hending, -, -, -, htape⟩ := run_inset ["a"] ["x"] ["a"] "Inc" hhead
    [⟨"Inc", "a", "b", .right, "Stop"⟩] 0 5 rfl rfl (.inl (by decide))
  exact ⟨_, _, rfl, rfl, by decide, by decide, hending, by decide, htape⟩

end TapeMachine.Machine
