/-
The two policies beside each other.

Two machines start on the same tape, one under the policy `error` and one under
`extend`.  As long as the head stays on the tape they go through the same
configurations.  When it moves past the last cell, the tape of the second machine
grows by one cell, and that is the only difference there can ever be: the first
machine makes no transition from there, since every rule would have to read a cell.

* **`Machine.Beside`** — a machine under `error`, and the one under `extend` that has come as far;
* **`Machine.Beside.step`** — a step of both goes alike, unless the first one has to read past the
  end;
* **`Machine.beside_after`** — so does a course of any length;
* **`Machine.run_under_both_policies`** — runs from the same tape, however they end.
-/
import TapeMachine.Machine.Setup
import TapeMachine.Proofs.SideBySide

namespace TapeMachine

open Course

namespace Machine

variable {c d m m' : Machine} {rules : List Rule} {limit : Int} {n i k rounds : Nat} {last : String}

/-- A machine under `error` on a tape of `n` cells, and the machine under `extend` that has come as
far.  Its tape has one cell more if the head has left the other one's. -/
structure Beside (n : Nat) (last : String) (c d : Machine) : Prop where
  state_eq : d.state = c.state
  head_eq : d.head = c.head
  halted_eq : d.halted = c.halted
  steps_eq : d.steps = c.steps
  policy_error : c.policy = .error
  policy_extend : d.policy = .extend
  blank_eq : d.blank = some last
  head_nonneg : 0 ≤ c.head
  head_le : c.head ≤ n
  length_eq : c.tape.length = n
  tape_eq : d.tape = c.tape ++ if c.head = n then [last] else []

theorem beside_onTape (tape : List String) (h : tape ≠ []) :
    Beside tape.length (tape.getLast h) (onTape tape .error) (onTape tape .extend) where
  state_eq := rfl
  head_eq := rfl
  halted_eq := rfl
  steps_eq := rfl
  policy_error := rfl
  policy_extend := rfl
  blank_eq := List.getLast?_eq_some_getLast h
  head_nonneg := Int.le_refl 0
  head_le := Int.natCast_nonneg _
  length_eq := rfl
  tape_eq := by
    have hpos := List.length_pos_iff.mpr h
    have hne : (onTape tape .error).head ≠ tape.length := by
      show (0 : Int) ≠ tape.length
      omega
    rw [if_neg hne, List.append_nil]
    rfl

namespace Beside

/-- The head is on a cell or right behind the last one. -/
theorem head_eq_of_not_lt (h : Beside n last c d) (hlt : ¬c.head < n) : c.head = n :=
  Int.le_antisymm h.head_le (Int.not_lt.mp hlt)

/-- On a cell, the tapes are the same. -/
theorem tape_eq_of_lt (h : Beside n last c d) (hlt : c.head < n) : d.tape = c.tape := by
  rw [h.tape_eq, if_neg (by omega), List.append_nil]

/-- The mark of a halted machine does not matter. -/
theorem halted (h : Beside n last c d) (b : Bool) :
    Beside n last { c with halted := b } { d with halted := b } :=
  { h with halted_eq := rfl }

/-- On a cell, both snapshots are the same. -/
theorem render_eq (h : Beside n last c d) (hlt : c.head < n) : d.render = c.render := by
  have htape := h.tape_eq_of_lt hlt
  simp only [render, drawing, label, htape, h.state_eq, h.head_eq]

/-! ### One step -/

theorem address_eq (h : Beside n last c d) (hlt : c.head < n) : d.address = c.address := by
  rw [address, address, h.head_eq, h.tape_eq_of_lt hlt]

theorem selected_eq (h : Beside n last c d) (hlt : c.head < n) (rules : List Rule) :
    d.selected rules = c.selected rules := by
  rw [selected, selected, cell, cell, h.address_eq hlt, h.tape_eq_of_lt hlt, h.head_eq, h.state_eq]

theorem written (h : Beside n last c d) (hlt : c.head < n) (i : Nat) (symbol : String) :
    Beside n last (c.written i symbol) (d.written i symbol) := by
  refine { h with length_eq := ?_, tape_eq := ?_ }
  · rw [length_tape_written]
    exact h.length_eq
  · show d.tape.set i symbol = c.tape.set i symbol ++ if c.head = n then [last] else []
    rw [h.tape_eq_of_lt hlt, if_neg (by omega), List.append_nil]

theorem wentLeft (h : Beside n last c d) (hlt : c.head < n) (hne : c.head ≠ 0) (next : String) :
    Beside n last (c.wentLeft next) (d.wentLeft next) := by
  have hnonneg := h.head_nonneg
  have hhead := h.head_eq
  have hsteps := h.steps_eq
  refine ⟨rfl, ?_, rfl, ?_, h.policy_error, h.policy_extend, h.blank_eq, ?_, ?_, h.length_eq, ?_⟩
  · show d.head - 1 = c.head - 1
    omega
  · show d.steps + 1 = c.steps + 1
    omega
  · show 0 ≤ c.head - 1
    omega
  · show c.head - 1 ≤ n
    omega
  · show d.tape = c.tape ++ if c.head - 1 = n then [last] else []
    rw [h.tape_eq_of_lt hlt, if_neg (by omega), List.append_nil]

/-- The move that takes the head past the last cell is the one at which the second tape grows. -/
theorem wentRight (h : Beside n last c d) (hlt : c.head < n) (next : String) :
    Beside n last (c.wentRight next) (d.wentRight next) := by
  have hnonneg := h.head_nonneg
  have hhead := h.head_eq
  have hsteps := h.steps_eq
  have hlength := h.length_eq
  have htape := h.tape_eq_of_lt hlt
  -- The tape under `error` never grows.  The other one grows at its end, and nowhere else.
  have hstays : c.grownTape (c.head + 1) = c.tape := grownTape_of_error h.policy_error _
  have hgrows : d.grownTape (d.head + 1) = c.tape ++ if c.head + 1 = n then [last] else [] := by
    rw [grownTape, h.policy_extend, h.blank_eq, htape, hhead, hlength, Option.toList_some]
    by_cases hend : c.head + 1 = n
    · rw [if_pos ⟨rfl, hend⟩, if_pos hend]
    · rw [if_neg fun hn => hend hn.2, if_neg hend, List.append_nil]
  refine ⟨rfl, ?_, rfl, ?_, h.policy_error, h.policy_extend, h.blank_eq, ?_, ?_, ?_, ?_⟩
  · show d.head + 1 = c.head + 1
    omega
  · show d.steps + 1 = c.steps + 1
    omega
  · show 0 ≤ c.head + 1
    omega
  · show c.head + 1 ≤ n
    omega
  · show (c.grownTape (c.head + 1)).length = n
    rw [hstays, hlength]
  · show d.grownTape (d.head + 1) =
      c.grownTape (c.head + 1) ++ if c.head + 1 = n then [last] else []
    rw [hgrows, hstays]

/-- On a cell, a step goes alike on both tapes. -/
theorem step_of_lt (h : Beside n last c d) (hlt : c.head < n) (rules : List Rule) :
    (d.step rules).2 = (c.step rules).2 ∧ Beside n last (c.step rules).1 (d.step rules).1 := by
  have hselected := h.selected_eq hlt rules
  have haddress := h.address_eq hlt
  have hinside : c.HeadInside := ⟨h.head_nonneg, by rw [h.length_eq]; exact hlt⟩
  obtain ⟨symbol, -, hcell⟩ := exists_cell_of_inside hinside
  rcases hstep : c.step rules with ⟨c', o⟩
  -- The way in which the one step goes is the way of the other.
  cases step_cases hstep with
  | idle hnone =>
    have hd : d.step rules = (d, .idle) := by
      refine Transition.step_eq (.idle (hselected.trans hnone) fun f hf => ?_)
      rw [cell, haddress, h.tape_eq_of_lt hlt, h.head_eq] at hf
      cases hcell.symm.trans hf
    rw [hd]
    exact ⟨rfl, h⟩
  | offTape hoff =>
    cases hcell.symm.trans hoff
  | underflow hi hr hmove hhead =>
    rw [Transition.step_eq (.underflow (haddress.trans hi) (hselected.trans hr) hmove
      (h.head_eq.trans hhead))]
    exact ⟨rfl, h.written hlt _ _⟩
  | left hi hr hmove hhead =>
    rw [Transition.step_eq (.left (haddress.trans hi) (hselected.trans hr) hmove
      (h.head_eq ▸ hhead))]
    exact ⟨rfl, (h.written hlt _ _).wentLeft hlt hhead _⟩
  | right hi hr hmove =>
    rw [Transition.step_eq (.right (haddress.trans hi) (hselected.trans hr) hmove)]
    exact ⟨rfl, (h.written hlt _ _).wentRight hlt _⟩

/-- Past the last cell, the first machine makes no transition.  It fails if there is a rule for its
state, and otherwise no step is made on the other tape either. -/
theorem step_of_eq (h : Beside n last c d) (hend : c.head = n) (rules : List Rule) :
    c.step rules = (c, .fault (.overflow n)) ∨
      c.step rules = (c, .idle) ∧ d.step rules = (d, .idle) := by
  have hcell : c.cell = .error (.overflow n) := by
    have hlength := h.length_eq
    rw [cell_of_ge (by omega), hend]
  by_cases hstate : ∃ r ∈ rules, r.state = c.state
  · left
    rw [step_of_no_cell hcell, if_pos hstate]
  · right
    have hnone : ∀ r ∈ rules, r.state ≠ d.state := by
      intro r hr hs
      exact hstate ⟨r, hr, hs.trans h.state_eq⟩
    -- Whatever the new cell holds, no rule is for this state.
    exact ⟨by rw [step_of_no_cell hcell, if_neg hstate], step_of_no_rule hnone⟩

/-- **A step goes alike under both policies, unless a cell past the end has to be read.**  A
transition is only made on a cell. -/
theorem step (h : Beside n last c d) (rules : List Rule) :
    c.step rules = (c, .fault (.overflow n)) ∧ c.head = n ∨
      (d.step rules).2 = (c.step rules).2 ∧ Beside n last (c.step rules).1 (d.step rules).1 ∧
        ((c.step rules).2 = .fired → c.head < n) := by
  by_cases hlt : c.head < n
  · obtain ⟨houtcome, hnext⟩ := h.step_of_lt hlt rules
    exact .inr ⟨houtcome, hnext, fun _ => hlt⟩
  · have hend := h.head_eq_of_not_lt hlt
    rcases h.step_of_eq hend rules with hoff | ⟨hc, hd⟩
    · exact .inl ⟨hoff, hend⟩
    · refine .inr ?_
      rw [hc, hd]
      exact ⟨rfl, h, fun hfired => by cases hfired⟩

theorem step_of_fired (h : Beside n last c d) {c' : Machine} (hc : c.step rules = (c', .fired)) :
    c.head < n ∧ ∃ d', d.step rules = (d', .fired) ∧ Beside n last c' d' := by
  rcases h.step rules with ⟨hoff, -⟩ | ⟨houtcome, hnext, hlt⟩
  · rw [hoff] at hc
    cases hc
  · rw [hc] at houtcome hnext hlt
    exact ⟨hlt rfl, _, Prod.ext rfl houtcome, hnext⟩

/-- The mark, the count of steps and every step but a read past the end are alike. -/
theorem stepsAlike (n : Nat) (last : String) (rules : List Rule) :
    StepsAlike rules rules (fun o => ∀ head, o ≠ .fault (.overflow head)) (Beside n last) where
  kept_fired _ := Outcome.noConfusion
  halted_eq h := h.halted_eq
  steps_eq h := h.steps_eq
  marked h := h.halted true
  step h hkept := by
    rcases h.step rules with ⟨hoff, -⟩ | ⟨houtcome, hnext, -⟩
    · exact absurd (congrArg Prod.snd hoff) (hkept _)
    · exact ⟨houtcome, hnext⟩

end Beside

/-! ### Courses -/

/-- As far as the course of the first machine goes, the other one's goes alike. -/
theorem beside_after (h : Beside n last m m') (hc : after (Machine.step · rules) k m = some c) :
    ∃ d, after (Machine.step · rules) k m' = some d ∧ Beside n last c d :=
  (Beside.stepsAlike n last rules).after h hc

/-- Only in its last configuration can the first machine have left the tape. -/
theorem head_lt_of_after (h : Beside n last m m') (hc : after (Machine.step · rules) k m = some c)
    (hi : i < k) : ∃ u, after (Machine.step · rules) i m = some u ∧ u.head < n := by
  obtain ⟨v, hv⟩ := exists_after_of_le hc (by omega : i + 1 ≤ k)
  obtain ⟨u, hu, hstep⟩ := after_succ_eq_some_last.mp hv
  obtain ⟨d, -, hud⟩ := beside_after h hu
  exact ⟨u, hu, (hud.step_of_fired hstep).1⟩

/-! ### Runs -/

/-- A run that does not fail past the end of its tape ends as that of the other machine does. -/
theorem beside_run (h : Beside n last m m') (hm : m.halted = false)
    (hend : ∀ head, (m.run rounds rules limit).ending ≠ .fault (.overflow head)) :
    (m'.run rounds rules limit).ending = (m.run rounds rules limit).ending ∧
      Beside n last (m.run rounds rules limit).machine (m'.run rounds rules limit).machine := by
  obtain ⟨hending, hlast, -⟩ := (Beside.stepsAlike n last rules).run h hm
    fun head ho => hend head (Ending.lastOutcome_eq_fault_iff.mp ho)
  exact ⟨hending, hlast⟩

/-- A run that fails past the end of its tape does so right behind it, after a transition, and the
other machine has come as far. -/
theorem beside_run_of_overflow (h : Beside n last m m') (hm : m.halted = false) {head : Int}
    (hend : (m.run rounds rules limit).ending = .fault (.overflow head)) :
    head = n ∧ ∃ k c d, after (Machine.step · rules) k m = some c ∧ c.head = n ∧
      (m.run rounds rules limit).machine = { c with halted := true } ∧
      after (Machine.step · rules) k m' = some d ∧ Beside n last c d := by
  have hrun := passage_run hm rules limit rounds
  generalize m.run rounds rules limit = r at hrun hend ⊢
  cases hrun with
  | idle => cases hend
  | @fault k c c' f hc hfault hl hk =>
    obtain rfl : f = .overflow head := Ending.fault.inj hend
    obtain ⟨d, hd, hcd⟩ := beside_after h hc
    by_cases hlt : c.head < n
    · -- On a cell a step fails only to the left of the tape.
      obtain ⟨symbol, -, hcell⟩ := exists_cell_of_inside
        (⟨hcd.head_nonneg, by rw [hcd.length_eq]; exact hlt⟩ : c.HeadInside)
      cases eq_underflow_of_cell hcell hfault
    · have hright := hcd.head_eq_of_not_lt hlt
      rcases hcd.step_of_eq hright rules with hoff | ⟨hidle, -⟩
      · cases hfault.symm.trans hoff
        exact ⟨rfl, k, c, d, hc, hright, rfl, hd, hcd⟩
      · cases hfault.symm.trans hidle
  | cut => cases hend
  | abandoned => cases hend

/-- What the first run shows while its head is on the tape, the second one shows in the same
place. -/
theorem shown_beside (h : Beside n last m m') (hm : m.halted = false)
    (hi : (m.run rounds rules limit).visited[i]? = some c) (hlt : c.head < n) :
    ∃ d, (m'.run rounds rules limit).visited[i]? = some d ∧ d.render = c.render := by
  obtain ⟨d, hd, hcd⟩ := (Beside.stepsAlike n last rules).getElem?_visited h hm hi
  exact ⟨d, hd, hcd.render_eq hlt⟩

/-- The text shown depends on the single snapshots alone. -/
theorem trace_eq_of_map_render {v w : List Machine} (h : v.map render = w.map render) :
    trace v = trace w := by
  have hsplit : ∀ u : List Machine, trace u = String.join ((u.map render).map (· ++ "\n")) := by
    intro u
    rw [trace, List.map_map]
    rfl
  rw [hsplit, hsplit, h]

/-- Nor is there any difference in what has been shown up to there. -/
theorem trace_take_beside (h : Beside n last m m') (hm : m.halted = false)
    (hi : (m.run rounds rules limit).visited[i]? = some c) :
    trace ((m'.run rounds rules limit).visited.take i) =
      trace ((m.run rounds rules limit).visited.take i) := by
  obtain ⟨hc, hrounds, hl⟩ := (getElem?_visited_eq_some hm).mp hi
  refine trace_eq_of_map_render (List.ext_getElem? fun j => ?_)
  rw [List.getElem?_map, List.getElem?_map, List.getElem?_take, List.getElem?_take]
  by_cases hj : j < i
  · -- The machine shown at place `j` makes a transition, and so its head is on the tape.
    obtain ⟨u, hu, hlt⟩ := head_lt_of_after h hc hj
    have hshown : (m.run rounds rules limit).visited[j]? = some u :=
      (getElem?_visited_eq_some hm).mpr ⟨hu, by omega, by omega⟩
    obtain ⟨v, hv, hrender⟩ := shown_beside h hm hshown hlt
    rw [if_pos hj, if_pos hj, hshown, hv, Option.map_some, Option.map_some, hrender]
  · rw [if_neg hj, if_neg hj]

/-- **The two policies agree until the head must read past the end.**  Take a tape of `n` cells, and
any rules and limit.

If the run under `error` does not fail for lack of a cell, the run under `extend` ends in the same
way, after the same number of steps, in the same state and on the same cell, and its tape is the
same but for one cell more if that is the cell behind the `n` others.  If it does fail so, it does
in cell `n`, after a transition, and the machine under `extend` has a cell there after as many.  In
either case all that is shown while the head is on the tape is shown by both, at the same place of
the text. -/
theorem run_under_both_policies (tape : List String) (h : tape ≠ []) (rules : List Rule)
    (limit : Int) :
    ∃ m m', Machine.ofTape tape .error = .ok m ∧ Machine.ofTape tape .extend = .ok m' ∧
      ∀ rounds r r', m.run rounds rules limit = r → m'.run rounds rules limit = r' →
        ((∀ head, r.ending ≠ .fault (.overflow head)) →
          r'.ending = r.ending ∧ r'.machine.steps = r.machine.steps ∧
            r'.machine.state = r.machine.state ∧ r'.machine.head = r.machine.head ∧
            r'.machine.halted = r.machine.halted ∧
            r'.machine.tape =
              r.machine.tape ++ if r.machine.head = tape.length then [tape.getLast h] else []) ∧
        (∀ head, r.ending = .fault (.overflow head) →
          head = tape.length ∧ 1 ≤ r.machine.steps ∧
            ∃ c d, after (Machine.step · rules) r.machine.steps m = some c ∧
              r.machine = { c with halted := true } ∧
              after (Machine.step · rules) r.machine.steps m' = some d ∧
              d.state = c.state ∧ d.head = c.head ∧ d.tape = c.tape ++ [tape.getLast h]) ∧
        ∀ (i : Nat) (c : Machine), r.visited[i]? = some c → c.head < tape.length →
          trace (r'.visited.take i) = trace (r.visited.take i) ∧
            ∃ d, r'.visited[i]? = some d ∧ d.render = c.render := by
  have hstart := beside_onTape tape h
  have hready : (onTape tape .error).halted = false := rfl
  refine ⟨onTape tape .error, onTape tape .extend, if_neg h, if_neg h, ?_⟩
  rintro rounds r r' rfl rfl
  refine ⟨fun hend => ?_, fun head hend => ?_, fun i c hi hlt =>
    ⟨trace_take_beside hstart hready hi, shown_beside hstart hready hi hlt⟩⟩
  · obtain ⟨hending, hlast⟩ := beside_run hstart hready hend
    exact ⟨hending, hlast.steps_eq, hlast.state_eq, hlast.head_eq, hlast.halted_eq, hlast.tape_eq⟩
  · obtain ⟨hhead, k, c, d, hc, hright, hmachine, hd, hcd⟩ :=
      beside_run_of_overflow hstart hready hend
    have hsteps : ((onTape tape .error).run rounds rules limit).machine.steps = k := by
      rw [hmachine]
      exact (steps_after hc).trans (Nat.zero_add k)
    -- The head starts on a cell, so it has taken a transition to leave the tape.
    have hpos : k ≠ 0 := by
      rintro rfl
      cases hc
      have hlength := List.length_pos_iff.mpr h
      change (0 : Int) = tape.length at hright
      omega
    rw [hsteps]
    refine ⟨hhead, by omega, c, d, hc, hmachine, hd, hcd.state_eq, hcd.head_eq, ?_⟩
    rw [hcd.tape_eq, if_pos hright]

/-- One move to the right takes the head off a tape of one cell.  Without a rule for the new state
both runs halt, with one cell more under `extend`; with one the first run fails. -/
theorem run_under_both_policies_of_one_move :
    ["a"] ≠ [] ∧ ∃ m m', Machine.ofTape ["a"] .error = .ok m ∧
      Machine.ofTape ["a"] .extend = .ok m' ∧
      (m'.run 5 [⟨"Inc", "a", "b", .right, "Out"⟩] 0).machine.tape = ["b", "a"] ∧
      (m'.run 5 [⟨"Inc", "a", "b", .right, "Out"⟩] 0).ending = .halted ∧
      (m.run 5 [⟨"Inc", "a", "b", .right, "Inc"⟩] 0).ending = .fault (.overflow 1) ∧
      ∃ d, after (Machine.step · [⟨"Inc", "a", "b", .right, "Inc"⟩]) 1 m' = some d ∧
        d.tape = ["b", "a"] := by
  refine ⟨by decide, ?_⟩
  obtain ⟨m, m', hm, hm', hhalts⟩ :=
    run_under_both_policies ["a"] (by decide) [⟨"Inc", "a", "b", .right, "Out"⟩] 0
  obtain ⟨m₁, m₁', hm₁, hm₁', hfails⟩ :=
    run_under_both_policies ["a"] (by decide) [⟨"Inc", "a", "b", .right, "Inc"⟩] 0
  cases hm
  cases hm'
  cases hm₁
  cases hm₁'
  obtain ⟨hending, -, -, -, -, htape⟩ := (hhalts 5 _ _ rfl rfl).1 (fun _ => Ending.noConfusion)
  obtain ⟨-, -, c, d, hc, -, hd, -, -, hgrown⟩ := (hfails 5 _ _ rfl rfl).2.1 1 rfl
  cases hc
  exact ⟨_, _, rfl, rfl, htape, hending, rfl, d, hd, hgrown⟩

end Machine

end TapeMachine
