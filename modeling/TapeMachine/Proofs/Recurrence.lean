/-
Runs that come back, and a limit that finds them.

Under the policy that fails at the right end of the tape, the tape keeps its length.
Its cells hold symbols of the first tape and symbols that rules write, and the state is
the first one or one that a rule leads to.  So there are finitely many configurations
in which a rule can be applied.  A run that makes more transitions than that comes back
to one of them, and then it never ends.

* **`Course.exists_after_of_repeat`** — a course that comes back goes on for ever;
* **`Course.exists_after_of_card_lt`** — so does one with more transitions than there are
  configurations;
* **`Machine.configurations`** — how many configurations there can be;
* **`Machine.limit_decides_ending`** — the limit that tells whether a run ever ends.

Design notes:

* A machine counts its steps, so no machine comes back as it was.  But nothing that a step
  does depends on the count, so machines are compared without it.
-/
import Mathlib.Data.Fintype.BigOperators
import TapeMachine.Machine.Setup
import TapeMachine.Proofs.Reachable
import TapeMachine.Proofs.Resumption

namespace TapeMachine

namespace Course

variable {σ κ : Type} {step : σ → σ × Outcome} {R : σ → σ → Prop} {s a b t : σ} {i j : Nat}

/-- A course that comes back to a configuration goes on for ever.  The two need not be equal, as
long as no step tells them apart. -/
theorem exists_after_of_repeat
    (hstep : ∀ s t, R s t → (step s).2 = (step t).2 ∧
      ((step s).2 = .fired → R (step s).1 (step t).1))
    (hi : after step i s = some a) (hj : after step j s = some b) (hij : i < j) (hR : R a b)
    (k : Nat) : ∃ t, after step k s = some t := by
  by_contra hend
  have hnone : after step k s = none := Option.eq_none_iff_forall_ne_some.mpr fun t ht => hend ⟨t, ht⟩
  obtain ⟨p, -, t, ht, hlast⟩ := exists_last_of_after_eq_none hnone
  have hstop : after step (p + 1) s = none := by
    rw [after_add, ht, Option.bind_some]
    exact after_succ_of_not_fired hlast
  have hjp : j ≤ p := by
    by_contra hlt
    obtain ⟨u, hu⟩ := exists_after_of_le hj (by omega : p + 1 ≤ j)
    rw [hstop] at hu
    cases hu
  -- From the second configuration the course ends too early for the first.
  have hb : after step (p + 1 - j) b = none := by
    have hadd : after step (j + (p + 1 - j)) s = _ := after_add
    rw [hj, Option.bind_some, show j + (p + 1 - j) = p + 1 by omega, hstop] at hadd
    exact hadd.symm
  have ha : ∃ u, after step (p + 1 - j) a = some u := by
    obtain ⟨u, hu⟩ := exists_after_of_le ht (by omega : i + (p + 1 - j) ≤ p)
    rw [after_add, hi, Option.bind_some] at hu
    exact ⟨u, hu⟩
  obtain ⟨u, hu⟩ := ha
  have hrel := after_lockstep hstep (p + 1 - j) hR
  rw [hu, hb] at hrel
  cases hrel

/-- **A course with more transitions than there are configurations goes on for ever.**  `key` tells
configurations apart as far as steps do, and `keys` holds the keys of those from which a transition
starts. -/
theorem exists_after_of_card_lt (key : σ → κ) (keys : Finset κ)
    (hstep : ∀ s t, R s t → (step s).2 = (step t).2 ∧
      ((step s).2 = .fired → R (step s).1 (step t).1))
    (hkeys : ∀ k a, after step k s = some a → (step a).2 = .fired → key a ∈ keys)
    (hR : ∀ i j a b, after step i s = some a → after step j s = some b → key a = key b → R a b)
    (h : after step (keys.card + 1) s = some t) (k : Nat) : ∃ t, after step k s = some t := by
  -- The configurations before the last one, each with a transition of its own.
  have hbefore : ∀ i ∈ Finset.range (keys.card + 1), ∃ a, after step i s = some a ∧
      (step a).2 = .fired := by
    intro i hi
    obtain ⟨u, hu⟩ := exists_after_of_le h (Finset.mem_range.mp hi : i + 1 ≤ keys.card + 1)
    obtain ⟨a, ha, hfired⟩ := after_succ_eq_some_last.mp hu
    exact ⟨a, ha, congrArg Prod.snd hfired⟩
  have : Nonempty σ := ⟨s⟩
  choose! config hconfig hfired using hbefore
  have hcard : keys.card < (Finset.range (keys.card + 1)).card := by
    rw [Finset.card_range]
    omega
  obtain ⟨i, hi, j, hj, hne, hsame⟩ := Finset.exists_ne_map_eq_of_card_lt_of_maps_to hcard
    (f := fun i => key (config i)) fun i hi => hkeys i _ (hconfig i hi) (hfired i hi)
  rcases Nat.lt_or_gt_of_ne hne with hij | hij
  · exact exists_after_of_repeat hstep (hconfig i hi) (hconfig j hj) hij
      (hR i j _ _ (hconfig i hi) (hconfig j hj) hsame) k
  · exact exists_after_of_repeat hstep (hconfig j hj) (hconfig i hi) hij
      (hR j i _ _ (hconfig j hj) (hconfig i hi) hsame.symm) k

end Course

namespace Machine

open Course

variable {m m' c d : Machine} {rules : List Rule} {tape : List String} {k : Nat}

/-! ### Steps without their count -/

/-- The same machine with another count of steps. -/
def counting (m : Machine) (n : Nat) : Machine :=
  { m with steps := n }

/-- A step does not look at the count of steps, and only a transition is counted. -/
theorem step_counting (m : Machine) (n : Nat) (rules : List Rule) :
    (m.counting n).step rules =
      match m.step rules with
      | (m', .fired) => (m'.counting (n + 1), .fired)
      | (m', o) => (m'.counting n, o) := by
  refine Transition.step_eq ?_
  rcases hstep : m.step rules with ⟨m', o⟩
  cases step_cases hstep with
  | idle hnone hoff => exact .idle (m := m.counting n) hnone hoff
  | offTape hcell hr hstate => exact .offTape (m := m.counting n) hcell hr hstate
  | underflow hi hr hmove hhead => exact .underflow (m := m.counting n) hi hr hmove hhead
  | left hi hr hmove hhead => exact .left (m := m.counting n) hi hr hmove hhead
  | right hi hr hmove => exact .right (m := m.counting n) hi hr hmove

/-- Two machines that differ in their count of steps at most step alike. -/
theorem lockstep_counting (rules : List Rule) (c d : Machine) (h : d = c.counting d.steps) :
    (c.step rules).2 = (d.step rules).2 ∧
      ((c.step rules).2 = .fired →
        (d.step rules).1 = (c.step rules).1.counting (d.step rules).1.steps) := by
  rw [h, step_counting]
  rcases c.step rules with ⟨c', _ | _ | f⟩
  · exact ⟨rfl, nofun⟩
  · exact ⟨rfl, fun _ => rfl⟩
  · exact ⟨rfl, nofun⟩

/-! ### Counting configurations -/

/-- The states that a run can be in: the first one, and those that rules lead to. -/
def states (rules : List Rule) : Finset String :=
  insert startState (rules.map Rule.next).toFinset

/-- The symbols that a tape can come to hold: its own, and those that rules write. -/
def symbols (tape : List String) (rules : List Rule) : Finset String :=
  tape.toFinset ∪ (rules.map Rule.write).toFinset

/-- How many configurations there can be with the head on a cell of a tape that keeps its length. -/
def configurations (tape : List String) (rules : List Rule) : Nat :=
  (states rules).card * tape.length * (symbols tape rules).card ^ tape.length

/-- The part of a configuration that steps depend on: state, head, and the first `n` cells. -/
def position (n : Nat) (m : Machine) : String × Nat × (Fin n → String) :=
  (m.state, m.head.toNat, fun i => m.tape[i]?.getD "")

/-- All positions with the head on a cell. -/
def positions (tape : List String) (rules : List Rule) :
    Finset (String × Nat × (Fin tape.length → String)) :=
  states rules ×ˢ Finset.range tape.length ×ˢ Fintype.piFinset fun _ => symbols tape rules

theorem card_positions (tape : List String) (rules : List Rule) :
    (positions tape rules).card = configurations tape rules := by
  rw [positions, Finset.card_product, Finset.card_product, Finset.card_range,
    Fintype.card_piFinset_const, configurations, Nat.mul_assoc]

theorem configurations_pos (h : tape ≠ []) (rules : List Rule) :
    0 < configurations tape rules := by
  obtain ⟨symbol, rest, rfl⟩ := List.exists_cons_of_ne_nil h
  have hstates : 0 < (states rules).card := Finset.card_pos.mpr ⟨_, Finset.mem_insert_self _ _⟩
  have hsymbols : 0 < (symbols (symbol :: rest) rules).card := by
    refine Finset.card_pos.mpr ⟨symbol, ?_⟩
    simp [symbols]
  have hlength : 0 < (symbol :: rest).length := List.length_pos_of_ne_nil h
  exact Nat.mul_pos (Nat.mul_pos hstates hlength) (Nat.pow_pos hsymbols)

/-- A step that applies a rule starts from one of the positions. -/
theorem position_mem_positions (h : WellFormed tape .error rules m)
    (hfired : (m.step rules).2 = .fired) : m.position tape.length ∈ positions tape rules := by
  have hlength : m.tape.length = tape.length := h.length_of_error rfl
  -- The rule reads the cell under the head, so there is one.
  have hlt : m.head < m.tape.length := by
    rcases hstep : m.step rules with ⟨m', o⟩
    rw [hstep] at hfired
    cases hfired
    cases step_cases hstep with
    | left hi => exact head_lt_of_address hi
    | right hi => exact head_lt_of_address hi
  simp only [positions, position, Finset.mem_product, Finset.mem_range, Fintype.mem_piFinset]
  refine ⟨?_, ?_, fun i => ?_⟩
  · rw [states, Finset.mem_insert, List.mem_toFinset, List.mem_map]
    exact h.state.imp_right fun ⟨r, hr, hnext⟩ => ⟨r, hr, hnext.symm⟩
  · have hnonneg := h.head_nonneg
    omega
  · have hi : (i : Nat) < m.tape.length := by
      rw [hlength]
      exact i.isLt
    have hcell : m.tape[(i : Nat)]?.getD "" = m.tape[(i : Nat)] := by
      rw [List.getElem?_eq_getElem hi, Option.getD_some]
    show m.tape[(i : Nat)]?.getD "" ∈ symbols tape rules
    rw [hcell, symbols, Finset.mem_union, List.mem_toFinset, List.mem_toFinset, List.mem_map]
    exact (h.cells _ (List.getElem_mem hi)).imp_right fun ⟨r, hr, hw⟩ => ⟨r, hr, hw.symm⟩

/-- Machines on a course that are in the same position differ in their count of steps at most. -/
theorem eq_counting_of_position_eq (hc : WellFormed tape .error rules c)
    (hd : WellFormed tape .error rules d) (hhalted : c.halted = d.halted)
    (h : c.position tape.length = d.position tape.length) : d = c.counting d.steps := by
  obtain ⟨hstate, hhead, hcells⟩ := Prod.ext_iff.mp h |>.imp_right Prod.ext_iff.mp
  have hcnonneg := hc.head_nonneg
  have hdnonneg := hd.head_nonneg
  have hclength : c.tape.length = tape.length := hc.length_of_error rfl
  have hdlength : d.tape.length = tape.length := hd.length_of_error rfl
  have hheads : d.head = c.head := by
    simp only [position] at hhead
    omega
  have htapes : d.tape = c.tape := by
    refine List.ext_getElem (hdlength.trans hclength.symm) fun i hid hic => ?_
    have hcell := congrFun hcells ⟨i, hclength ▸ hic⟩
    simp only [position, Fin.getElem?_fin] at hcell
    rw [List.getElem?_eq_getElem hic, List.getElem?_eq_getElem hid] at hcell
    exact hcell.symm
  have hblank : d.blank = c.blank := hd.blank_eq.trans hc.blank_eq.symm
  have hpolicy : d.policy = c.policy := hd.policy_eq.trans hc.policy_eq.symm
  cases c
  cases d
  simp_all [counting, position]

/-! ### The limit -/

/-- A machine that makes more transitions than there are configurations makes them for ever. -/
theorem exists_after_of_configurations (htape : tape ≠ []) (rules : List Rule)
    (h : after (Machine.step · rules) (configurations tape rules + 1) (onTape tape .error) = some c)
    (k : Nat) : ∃ c, after (Machine.step · rules) k (onTape tape .error) = some c := by
  have hwf : ∀ {k c}, after (Machine.step · rules) k (onTape tape .error) = some c →
      WellFormed tape .error rules c := fun hc =>
    ((wellFormed_onTape htape .error).mono (List.nil_subset rules)).after htape hc
  have hhalted : ∀ {k c}, after (Machine.step · rules) k (onTape tape .error) = some c →
      c.halted = false := halted_after rfl
  rw [← card_positions] at h
  refine exists_after_of_card_lt (position tape.length) (positions tape rules)
    (R := fun c d => d = c.counting d.steps) (lockstep_counting rules)
    (fun _ a ha hfired => position_mem_positions (hwf ha) hfired)
    (fun _ _ a b ha hb hsame => ?_) h k
  exact eq_counting_of_position_eq (hwf ha) (hwf hb) ((hhalted ha).trans (hhalted hb).symm) hsame

/-- A run without a limit is abandoned as long as its course goes on. -/
theorem ending_eq_abandoned_iff (hm : m.halted = false) (rounds : Nat) :
    (m.run rounds rules 0).ending = .abandoned ↔
      ∃ c, after (Machine.step · rules) rounds m = some c := by
  constructor
  · intro h
    have hrun := passage_run hm rules 0 rounds
    generalize m.run rounds rules 0 = r at hrun h
    cases hrun with
    | idle => cases h
    | fault => cases h
    | cut hlimit => exact absurd rfl hlimit
    | abandoned hc => exact ⟨_, hc⟩
  · rintro ⟨c, hc⟩
    rw [run_of_after hm hc (.inl rfl)]

/-- A run exceeds its limit if its course has a transition more than the limit allows. -/
theorem ending_eq_limitExceeded_iff {limit : Int} (hm : m.halted = false) (hlimit : limit ≠ 0)
    {rounds : Nat} (hrounds : m.turnsWithin limit ≤ rounds) :
    (m.run rounds rules limit).ending = .limitExceeded ↔
      ∃ c, after (Machine.step · rules) (m.turnsWithin limit) m = some c := by
  constructor
  · exact fun h => ⟨_, (after_of_cut hm h).2.1⟩
  · rintro ⟨c, hc⟩
    rw [run_of_limit hm hlimit hc hrounds]

/-- **There is a limit that decides whether a run ends.**  Let a machine stand on a tape under the
policy that fails at the right end, and let `bound` be the number of states times the number of
cells times the number of ways to fill the cells with symbols.

A run under the limit `bound` comes to an end, and exceeds its limit if and only if the run without
a limit never ends.  So a run without a limit that ends has made no more than `bound` transitions. -/
theorem limit_decides_ending (tape : List String) (htape : tape ≠ []) (rules : List Rule) :
    ∃ m, Machine.ofTape tape .error = .ok m ∧
      let bound := configurations tape rules
      (∀ rounds, bound < rounds → (m.run rounds rules bound).ending ≠ .abandoned ∧
        ((m.run rounds rules bound).ending = .limitExceeded ↔
          ∀ rounds', (m.run rounds' rules 0).ending = .abandoned)) ∧
      ∀ rounds, (m.run rounds rules 0).ending ≠ .abandoned →
        (m.run rounds rules 0).machine.steps ≤ bound ∧
          ∀ k c, after (Machine.step · rules) k m = some c → k ≤ bound := by
  refine ⟨onTape tape .error, if_neg htape, ?_⟩
  intro bound
  have hbound : (bound : Int) ≠ 0 := by
    have := configurations_pos htape rules
    omega
  have hturns : (onTape tape .error).turnsWithin bound = bound + 1 := by
    show max 1 ((bound : Int) - (0 : Nat) + 1).toNat = bound + 1
    omega
  -- A course with one transition more than `bound` is endless, and any other stops before that.
  have hendless : (∃ c, after (Machine.step · rules) (bound + 1) (onTape tape .error) = some c) ↔
      ∀ k, ∃ c, after (Machine.step · rules) k (onTape tape .error) = some c :=
    ⟨fun ⟨_, hc⟩ => exists_after_of_configurations htape rules hc, fun h => h _⟩
  refine ⟨fun rounds hrounds => ⟨?_, ?_⟩, fun rounds hends => ?_⟩
  · exact (ending_ne_abandoned rfl hbound (by omega)).1
  · rw [ending_eq_limitExceeded_iff rfl hbound (by omega), hturns, hendless]
    exact forall_congr' fun k => (ending_eq_abandoned_iff rfl k).symm
  · have hstops : ∀ k c, after (Machine.step · rules) k (onTape tape .error) = some c →
        k ≤ bound := by
      intro k c hc
      by_contra hlt
      refine hends ((ending_eq_abandoned_iff rfl rounds).mpr (hendless.mp ?_ rounds))
      exact exists_after_of_le hc (by omega)
    obtain ⟨c, hc, -⟩ := exists_after_run (m := onTape tape .error) rfl rfl rules 0 rounds
    exact ⟨hstops _ c hc, hstops⟩

/-- A machine that goes to and fro between two cells: it exceeds the limit 4, and so it never
ends. -/
theorem limit_decides_ending_of_two_cells :
    let rules : List Rule := [⟨"Inc", "a", "a", .right, "Back"⟩, ⟨"Back", "a", "a", .left, "Inc"⟩]
    ["a", "a"] ≠ [] ∧ configurations ["a", "a"] rules = 4 ∧
      ((onTape ["a", "a"] .error).run 5 rules 4).ending = .limitExceeded ∧
      ∀ rounds, ((onTape ["a", "a"] .error).run rounds rules 0).ending = .abandoned := by
  intro rules
  have hcount : configurations ["a", "a"] rules = 4 := by decide
  have hcut : ((onTape ["a", "a"] .error).run 5 rules 4).ending = .limitExceeded := by decide
  obtain ⟨m, hm, hdecides, -⟩ := limit_decides_ending ["a", "a"] (by decide) rules
  cases hm
  rw [hcount] at hdecides
  exact ⟨by decide, hcount, hcut, (hdecides 5 (by decide)).2.mp hcut⟩

end Machine

end TapeMachine
