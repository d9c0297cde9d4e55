/-
A full account of one step.

A step looks at the table, the head and the cell in turn, and each of them can end it.
The account says what there is to say about any machine, also about one whose head was put
where no run would take it: in which case the step is, and what becomes of the machine.
It is told in terms of the table, the tape and the head alone, and not of the search.

* **`Machine.Addresses`**, **`Machine.cell_eq_ok_iff`** — the cell that a head stands for, from
  either end of the tape;
* **`Machine.Uses`**, **`Machine.Uses.step_eq`** — the rule in the least place for the state and
  the symbol in that cell, which is the one that is applied;
* **`Machine.Account`** — the five cases of a step, each with all that it requires and does;
* **`Machine.Account.step_eq`**, **`Machine.Account.way_eq`** — what an account says is what the
  step does, and the case is settled by the machine and the table;
* **`Machine.step_account`** — every step is in exactly one of the cases, and leaves the other cells
  alone.
-/
import TapeMachine.Proofs.Shadowing

namespace TapeMachine.Machine

/-- The head stands for cell `i`, counted from the left end of the tape or, if the head is negative,
back from the right end. -/
def Addresses (m : Machine) (i : Nat) : Prop :=
  i < m.tape.length ∧ (m.head = i ∨ m.head = i - m.tape.length)

instance (m : Machine) (i : Nat) : Decidable (m.Addresses i) :=
  inferInstanceAs (Decidable (_ ∧ _))

/-- The rule `r` in place `k` is the first one for the state and the symbol in cell `i`, which the
head stands for. -/
structure Uses (m : Machine) (rules : List Rule) (i k : Nat) (r : Rule) : Prop where
  addresses : m.Addresses i
  place : rules[k]? = some r
  state : r.state = m.state
  read : m.tape[i]? = some r.read
  first : ∀ j < k, ∀ s, rules[j]? = some s → ¬(s.state = m.state ∧ s.read = r.read)

/-- The cases of a step. -/
inductive Way where
  /-- No rule is for the state. -/
  | unnamed
  /-- A rule is for the state, and the head stands past the last cell. -/
  | pastEnd
  /-- A rule is for the state, and the head stands before the first cell, from either end. -/
  | beforeStart
  /-- A rule is for the state, but none for the symbol. -/
  | unmatched
  /-- A rule is used. -/
  | used
deriving DecidableEq, Repr

/-- What a step does, in each of its cases: the machine after it, and how it ended. -/
inductive Account (m : Machine) (rules : List Rule) : Way → Machine × Outcome → Prop
  | unnamed (hnone : ∀ r ∈ rules, r.state ≠ m.state) : Account m rules .unnamed (m, .idle)
  | pastEnd (hnamed : ∃ r ∈ rules, r.state = m.state) (hhead : m.tape.length ≤ m.head) :
      Account m rules .pastEnd (m, .fault (.overflow m.head))
  | beforeStart (hnamed : ∃ r ∈ rules, r.state = m.state) (hhead : m.head < -m.tape.length) :
      Account m rules .beforeStart (m, .fault (.noSuchCell m.head))
  | unmatched {i : Nat} {symbol : String} (hnamed : ∃ r ∈ rules, r.state = m.state)
      (hi : m.Addresses i) (hsymbol : m.tape[i]? = some symbol)
      (hnone : ∀ r ∈ rules, ¬(r.state = m.state ∧ r.read = symbol)) :
      Account m rules .unmatched (m, .idle)
  /-- The symbol is written, but there is no cell to move to. -/
  | underflow {i k : Nat} {r : Rule} (hr : m.Uses rules i k r) (hmove : r.move = .left)
      (hhead : m.head = 0) :
      Account m rules .used ({ m with tape := m.tape.set i r.write }, .fault .underflow)
  | left {i k : Nat} {r : Rule} (hr : m.Uses rules i k r) (hmove : r.move = .left)
      (hhead : m.head ≠ 0) :
      Account m rules .used
        ({ m with
            state := r.next
            tape := m.tape.set i r.write
            head := m.head - 1
            halted := false
            steps := m.steps + 1 }, .fired)
  /-- If the head leaves a tape that may grow, a cell with the default is added, which there is for
  every machine made on a cell, and otherwise none. -/
  | right {i k : Nat} {r : Rule} (hr : m.Uses rules i k r) (hmove : r.move = .right) :
      Account m rules .used
        ({ m with
            state := r.next
            tape := m.tape.set i r.write ++
              if m.policy = .extend ∧ m.head + 1 = m.tape.length then m.blank.toList else []
            head := m.head + 1
            halted := false
            steps := m.steps + 1 }, .fired)

/-- The case of a step, found by looking. -/
def way (m : Machine) (rules : List Rule) : Way :=
  if ∃ r ∈ rules, r.state = m.state then
    match m.cell with
    | .error (.overflow _) => .pastEnd
    | .error _ => .beforeStart
    | .ok symbol => if (firstPlace rules (m.state, symbol)).isSome then .used else .unmatched
  else .unnamed

variable {m : Machine} {rules : List Rule} {i j k : Nat} {r : Rule} {symbol : String} {w : Way}
  {x : Machine × Outcome}

/-! ### The cell -/

theorem address_eq_ok_iff : m.address = .ok i ↔ m.Addresses i := by
  rw [address, Addresses]
  split
  · simp only [reduceCtorEq, false_iff]
    omega
  · split
    · rw [Except.ok.injEq]
      omega
    · split
      · rw [Except.ok.injEq]
        omega
      · simp only [reduceCtorEq, false_iff]
        omega

/-- A symbol is read from the cell that the head stands for. -/
theorem cell_eq_ok_iff :
    m.cell = .ok symbol ↔ ∃ i, m.Addresses i ∧ m.tape[i]? = some symbol := by
  constructor
  · intro h
    obtain ⟨i, hi, hsymbol⟩ := exists_address_of_cell h
    exact ⟨i, address_eq_ok_iff.mp hi, hsymbol⟩
  · rintro ⟨i, hi, hsymbol⟩
    rw [cell, address_eq_ok_iff.mpr hi]
    simp only [hsymbol]

theorem cell_of_lt (h : m.head < -m.tape.length) : m.cell = .error (.noSuchCell m.head) := by
  rw [cell, address, if_neg (by omega), if_neg (by omega), if_neg (by omega)]

/-- A head misses the tape on one side or stands for a cell. -/
theorem head_cases (m : Machine) :
    m.tape.length ≤ m.head ∨ m.head < -m.tape.length ∨
      ∃ i symbol, m.Addresses i ∧ m.tape[i]? = some symbol := by
  by_cases hright : m.tape.length ≤ m.head
  · exact .inl hright
  · by_cases hleft : m.head < -m.tape.length
    · exact .inr (.inl hleft)
    · obtain ⟨i, hi⟩ : ∃ i, m.Addresses i := by
        by_cases hsign : 0 ≤ m.head
        · exact ⟨m.head.toNat, by omega, .inl (by omega)⟩
        · exact ⟨(m.head + m.tape.length).toNat, by omega, .inr (by omega)⟩
      exact .inr (.inr ⟨i, _, hi, List.getElem?_eq_getElem hi.1⟩)

/-! ### The rule -/

/-- The rule in the first place for the state and the symbol is used. -/
theorem exists_uses (hi : m.Addresses i) (hsymbol : m.tape[i]? = some symbol)
    (hk : firstPlace rules (m.state, symbol) = some k) : ∃ r, m.Uses rules i k r := by
  obtain ⟨hlt, htrigger, hfirst⟩ := firstPlace_eq_some_iff.mp hk
  obtain ⟨hstate, hread⟩ := Prod.mk.inj htrigger
  refine ⟨rules[k], hi, List.getElem?_eq_getElem hlt, hstate, ?_, fun j hj s hs hsame => ?_⟩
  · rw [hsymbol, hread]
  · obtain ⟨_, rfl⟩ := List.getElem?_eq_some_iff.mp hs
    exact hfirst j hj (Prod.ext hsame.1 (hsame.2.trans hread))

namespace Uses

theorem cell (h : m.Uses rules i k r) : m.cell = .ok r.read :=
  cell_eq_ok_iff.mpr ⟨i, h.addresses, h.read⟩

theorem address (h : m.Uses rules i k r) : m.address = .ok i :=
  address_eq_ok_iff.mpr h.addresses

theorem firstPlace_eq (h : m.Uses rules i k r) : firstPlace rules (m.state, r.read) = some k := by
  obtain ⟨hk, rfl⟩ := List.getElem?_eq_some_iff.mp h.place
  refine firstPlace_eq_some_iff.mpr ⟨hk, Prod.ext h.state rfl, fun j hj hsame => ?_⟩
  obtain ⟨hstate, hread⟩ := Prod.mk.inj hsame
  exact h.first j hj _ (List.getElem?_eq_getElem (by omega)) ⟨hstate, hread⟩

theorem exists_rule (h : m.Uses rules i k r) : ∃ r ∈ rules, r.state = m.state :=
  ⟨r, List.mem_of_getElem? h.place, h.state⟩

/-- The rule that is used is the one that the step applies. -/
theorem step_eq (h : m.Uses rules i k r) : m.step rules = m.fire r := by
  obtain ⟨hk, hstep⟩ := step_of_selects (selects_iff.mpr ⟨r.read, h.cell, h.firstPlace_eq⟩)
  obtain ⟨_, rfl⟩ := List.getElem?_eq_some_iff.mp h.place
  exact hstep

end Uses

/-! ### The account -/

namespace Account

/-- What an account says is what the step does. -/
theorem step_eq (h : Account m rules w x) : m.step rules = x := by
  cases h with
  | unnamed hnone => exact step_of_no_rule hnone
  | pastEnd hnamed hhead => rw [step_of_no_cell (cell_of_ge hhead), if_pos hnamed]
  | beforeStart hnamed hhead => rw [step_of_no_cell (cell_of_lt hhead), if_pos hnamed]
  | unmatched hnamed hi hsymbol hnone =>
    have hcell := cell_eq_ok_iff.mpr ⟨_, hi, hsymbol⟩
    have hrule : firstRule rules m.state _ = none :=
      List.find?_eq_none.mpr fun r hr hsame => hnone r hr (by simpa [Rule.trigger] using hsame)
    rw [step_of_cell hcell, selected_of_cell hcell, hrule]
    rfl
  | underflow hr hmove hhead => rw [hr.step_eq, fire_left_of_zero hr.address hmove hhead]; rfl
  | left hr hmove hhead => rw [hr.step_eq, fire_left hr.address hmove hhead]; rfl
  | @right i k r hr hmove =>
    have hgrown : (m.written i r.write).grownTape (m.head + 1) = m.tape.set i r.write ++
        if m.policy = .extend ∧ m.head + 1 = m.tape.length then m.blank.toList else [] := by
      rw [grownTape, length_tape_written]
      by_cases hgrow : m.policy = .extend ∧ m.head + 1 = m.tape.length
      · rw [if_pos hgrow]
        exact if_pos hgrow
      · rw [if_neg hgrow, List.append_nil]
        exact if_neg hgrow
    rw [hr.step_eq, fire_right hr.address hmove, ← hgrown]
    rfl

/-- The case is settled by the machine and the table. -/
theorem way_eq (h : Account m rules w x) : w = m.way rules := by
  have hused : ∀ {i k r}, m.Uses rules i k r → Way.used = m.way rules := by
    intro i k r hr
    simp only [way, if_pos hr.exists_rule, hr.cell, hr.firstPlace_eq, Option.isSome_some, if_true]
  cases h with
  | unnamed hnone => rw [way, if_neg fun ⟨r, hr, hs⟩ => hnone r hr hs]
  | pastEnd hnamed hhead => simp only [way, if_pos hnamed, cell_of_ge hhead]
  | beforeStart hnamed hhead => simp only [way, if_pos hnamed, cell_of_lt hhead]
  | @unmatched i symbol hnamed hi hsymbol hnone =>
    have hplace : firstPlace rules (m.state, symbol) = none :=
      firstPlace_eq_none_iff.mpr fun hmem => by
        obtain ⟨r, hr, htrigger⟩ := List.mem_map.mp hmem
        exact hnone r hr (Prod.mk.inj htrigger)
    simp only [way, if_pos hnamed, cell_eq_ok_iff.mpr ⟨i, hi, hsymbol⟩, hplace]
    rfl
  | underflow hr => exact hused hr
  | left hr => exact hused hr
  | right hr => exact hused hr

end Account

/-- Every step has an account. -/
theorem exists_account (m : Machine) (rules : List Rule) : ∃ w x, Account m rules w x := by
  by_cases hnamed : ∃ r ∈ rules, r.state = m.state
  · rcases head_cases m with hright | hleft | ⟨i, symbol, hi, hsymbol⟩
    · exact ⟨_, _, .pastEnd hnamed hright⟩
    · exact ⟨_, _, .beforeStart hnamed hleft⟩
    · rcases hplace : firstPlace rules (m.state, symbol) with _ | k
      · refine ⟨_, _, .unmatched hnamed hi hsymbol fun r hr hsame => ?_⟩
        exact firstPlace_eq_none_iff.mp hplace
          (List.mem_map.mpr ⟨r, hr, Prod.ext hsame.1 hsame.2⟩)
      · obtain ⟨r, hr⟩ := exists_uses hi hsymbol hplace
        rcases hmove : r.move with _ | _
        · by_cases hhead : m.head = 0
          · exact ⟨_, _, .underflow hr hmove hhead⟩
          · exact ⟨_, _, .left hr hmove hhead⟩
        · exact ⟨_, _, .right hr hmove⟩
  · exact ⟨_, _, .unnamed fun r hr hs => hnamed ⟨r, hr, hs⟩⟩

/-- A cell that the head does not stand for is as it was. -/
theorem Account.getElem?_tape (h : Account m rules w x) (hj : j < m.tape.length)
    (hother : ¬m.Addresses j) : x.1.tape[j]? = m.tape[j]? := by
  have hset : ∀ {i k r}, m.Uses rules i k r → (m.tape.set i r.write)[j]? = m.tape[j]? := by
    intro i k r hr
    have hne : i ≠ j := by
      rintro rfl
      exact hother hr.addresses
    exact List.getElem?_set_ne hne
  cases h with
  | unnamed | pastEnd | beforeStart | unmatched => rfl
  | underflow hr => exact hset hr
  | left hr => exact hset hr
  | right hr =>
    -- Cells are only ever added behind the others.
    rw [List.getElem?_append_left (by rw [List.length_set]; exact hj)]
    exact hset hr

/-- **Every step is in exactly one of the five cases of the account, does what the account says, and
leaves all other cells as they were.** -/
theorem step_account (m : Machine) (rules : List Rule) :
    (∃! w, Account m rules w (m.step rules)) ∧
      (∀ w x, Account m rules w x → m.step rules = x) ∧
      ∀ j < m.tape.length, ¬m.Addresses j → (m.step rules).1.tape[j]? = m.tape[j]? := by
  obtain ⟨w, x, h⟩ := exists_account m rules
  obtain rfl := h.step_eq
  refine ⟨⟨w, h, fun w' h' => ?_⟩, fun _ _ h' => h'.step_eq, fun j hj hother => ?_⟩
  · rw [h.way_eq, h'.way_eq]
  · exact h.getElem?_tape hj hother

/-- A head at -1 stands for the last of two cells, which the step rewrites; it then stands for the
first one, and no cell is added. -/
theorem step_account_of_negative_head :
    ∃ x, (onTape ["a", "b"] .extend "Inc" (-1)).step [⟨"Inc", "b", "x", .right, "Dec"⟩] = x ∧
      Account (onTape ["a", "b"] .extend "Inc" (-1)) [⟨"Inc", "b", "x", .right, "Dec"⟩] .used x ∧
      x.1.tape = ["a", "x"] ∧ x.1.head = 0 ∧
      x.1.tape[0]? = (onTape ["a", "b"] .extend "Inc" (-1)).tape[0]? := by
  obtain ⟨-, hstep, hother⟩ := step_account (onTape ["a", "b"] .extend "Inc" (-1))
    [⟨"Inc", "b", "x", .right, "Dec"⟩]
  have huses : (onTape ["a", "b"] .extend "Inc" (-1)).Uses [⟨"Inc", "b", "x", .right, "Dec"⟩] 1 0
      ⟨"Inc", "b", "x", .right, "Dec"⟩ :=
    ⟨by decide, rfl, rfl, rfl, fun j hj => absurd hj (Nat.not_lt_zero j)⟩
  have haccount := Account.right huses rfl
  have hx := hstep _ _ haccount
  exact ⟨_, hx, haccount, by decide, by decide, hx ▸ hother 0 (by decide) (by decide)⟩

end TapeMachine.Machine
