/-
A run depends on the table only by what is looked up in it.

What a step reads of a table is the first rule for the state and the symbol under
the head, and off the tape whether there is a rule for the state at all, which the
first rules tell as well.  So tables with the same first rules cannot be told apart
by any machine, wherever its head stands.

* **`SameEffects`** — the first rules for every state and symbol do the same;
* **`Indistinguishable`** — all steps and all runs go alike;
* **`SameEffects.indistinguishable`** — the first implies the second;
* **`unshadowed`**, **`reordered`** — a table without its shadowed rules, and one whose rules have
  changed places;
* **`run_determined_by_lookup`** — hence neither of these can be told from the table itself, if rules
  for the same state and symbol have kept their order.
-/
import Mathlib.Logic.Equiv.Basic
import TapeMachine.Proofs.Shadowing
import TapeMachine.Proofs.SideBySide

namespace TapeMachine

/-- What a rule does once it is applied. -/
def Rule.effect (r : Rule) : String × Move × String :=
  (r.write, r.move, r.next)

/-- For every state and symbol, both tables have no rule or first rules that do the same. -/
def SameEffects (A B : List Rule) : Prop :=
  ∀ state symbol,
    (firstRule A state symbol).map Rule.effect = (firstRule B state symbol).map Rule.effect

/-- Every step and every run, under every limit and after any number of rounds, goes alike with
either table. -/
def Indistinguishable (A B : List Rule) : Prop :=
  ∀ m : Machine, m.step A = m.step B ∧
    ∀ limit rounds, m.run rounds A limit = m.run rounds B limit

variable {A B rules : List Rule} {state symbol : String} {r : Rule} {i : Nat}

/-! ### The first rules -/

/-- There is a rule for a state if and only if it has a first rule for some symbol. -/
theorem exists_rule_iff (rules : List Rule) (state : String) :
    (∃ r ∈ rules, r.state = state) ↔ ∃ symbol, firstRule rules state symbol ≠ none := by
  constructor
  · rintro ⟨r, hr, rfl⟩
    refine ⟨r.read, fun hnone => ?_⟩
    have hno := List.find?_eq_none.mp hnone r hr
    exact hno (decide_eq_true rfl)
  · rintro ⟨symbol, hne⟩
    obtain ⟨r, hr⟩ := Option.ne_none_iff_exists'.mp hne
    exact ⟨r, mem_of_firstRule hr, congrArg Prod.fst (trigger_of_firstRule hr)⟩

/-- A rule is known by what it waits for and what it does. -/
theorem Rule.eq_of_trigger_of_effect {r s : Rule} (ht : r.trigger = s.trigger)
    (he : r.effect = s.effect) : r = s := by
  obtain ⟨hstate, hread⟩ := Prod.mk.inj ht
  obtain ⟨hwrite, hmove⟩ := Prod.mk.inj he
  obtain ⟨hmove, hnext⟩ := Prod.mk.inj hmove
  cases r
  cases s
  simp only at hstate hread hwrite hmove hnext
  rw [hstate, hread, hwrite, hmove, hnext]

theorem SameEffects.firstRule_eq (h : SameEffects A B) (state symbol : String) :
    firstRule A state symbol = firstRule B state symbol := by
  have heffect := h state symbol
  cases hA : firstRule A state symbol with
  | none =>
    rw [hA, Option.map_none] at heffect
    exact (Option.map_eq_none_iff.mp heffect.symm).symm
  | some r =>
    rw [hA, Option.map_some] at heffect
    obtain ⟨s, hB, hs⟩ := Option.map_eq_some_iff.mp heffect.symm
    have htrigger : r.trigger = s.trigger := by
      rw [trigger_of_firstRule hA, trigger_of_firstRule hB]
    rw [hB, Rule.eq_of_trigger_of_effect htrigger hs.symm]

/-- The first rule is the one that has no rule for the same state and symbol before it. -/
theorem firstRule_eq_some_iff :
    firstRule rules state symbol = some r ↔
      ∃ i : Fin rules.length, rules[i] = r ∧ r.trigger = (state, symbol) ∧
        ∀ j < i, rules[j].trigger ≠ (state, symbol) := by
  rw [firstRule, List.find?_eq_some_iff_getElem]
  constructor
  · rintro ⟨htrigger, i, hi, rfl, hbefore⟩
    exact ⟨⟨i, hi⟩, rfl, of_decide_eq_true htrigger, fun j hj => by simpa using hbefore j hj⟩
  · rintro ⟨i, rfl, htrigger, hbefore⟩
    refine ⟨decide_eq_true htrigger, i, i.isLt, rfl, fun j hj => ?_⟩
    simpa using hbefore ⟨j, Nat.lt_trans hj i.isLt⟩ hj

/-! ### Steps and runs -/

namespace Machine

variable {m : Machine}

/-- A step reads nothing of a table but the first rules. -/
theorem step_eq_of_firstRule (h : ∀ state symbol, firstRule A state symbol = firstRule B state symbol)
    (m : Machine) : m.step A = m.step B := by
  rcases hcell : m.cell with f | symbol
  · -- Off the tape it matters whether there is a rule for the state.
    have hstate : (∃ r ∈ A, r.state = m.state) ↔ ∃ r ∈ B, r.state = m.state := by
      rw [exists_rule_iff, exists_rule_iff]
      simp only [h]
    rw [step_of_no_cell hcell, step_of_no_cell hcell]
    simp only [hstate]
  · rw [step_of_cell hcell, step_of_cell hcell, selected_of_cell hcell, selected_of_cell hcell, h]

end Machine

/-- Tables with the same first rules go alike. -/
theorem indistinguishable_of_firstRule
    (h : ∀ state symbol, firstRule A state symbol = firstRule B state symbol) :
    Indistinguishable A B := by
  have hstep := Machine.step_eq_of_firstRule h
  have halike : Machine.StepsAlike A B (fun _ => True) Eq :=
    .of_step_eq trivial fun m _ => (hstep m).symm
  intro m
  refine ⟨hstep m, fun limit rounds => ?_⟩
  by_cases hhalted : m.halted = true
  · rw [Machine.run, Machine.run, if_pos hhalted, if_pos hhalted]
  · exact (halike.run_eq (Bool.eq_false_iff.mpr hhalted) trivial).symm

theorem SameEffects.indistinguishable (h : SameEffects A B) : Indistinguishable A B :=
  indistinguishable_of_firstRule h.firstRule_eq

/-! ### Without the shadowed rules -/

/-- The rules of a table that are not shadowed, in their order. -/
def unshadowed (rules : List Rule) : List Rule :=
  (rules.zipIdx.filter fun p => p.2 ∉ (shadowed rules).map Prod.fst).map Prod.fst

/-- Elements that are left out do not matter to a search that finds an element that is not. -/
theorem find?_filter_of_find? {α : Type} {p q : α → Bool} {l : List α}
    (h : ∀ a, l.find? p = some a → q a = true) : (l.filter q).find? p = l.find? p := by
  induction l with
  | nil => rfl
  | cons a l ih =>
    by_cases hp : p a = true
    · have hq : q a = true := h a (List.find?_cons_of_pos hp)
      rw [List.filter_cons_of_pos hq, List.find?_cons_of_pos hp, List.find?_cons_of_pos hp]
    · rw [List.find?_cons_of_neg hp] at h ⊢
      rw [List.filter_cons]
      split
      · rw [List.find?_cons_of_neg hp, ih h]
      · exact ih h

/-- The first rule for a state and a symbol stands in the first place and is not shadowed. -/
theorem not_mem_shadowed_of_find? {p : Rule × Nat}
    (h : rules.zipIdx.find? (fun p => p.1.trigger = (state, symbol)) = some p) :
    p.2 ∉ (shadowed rules).map Prod.fst := by
  have hplace : firstPlace rules (state, symbol) = some p.2 := by
    rw [firstPlace, List.findIdx?_eq_fst_find?_zipIdx]
    simp only [h, Option.map_some]
  intro hmem
  obtain ⟨⟨i, j⟩, hij, rfl⟩ := List.mem_map.mp hmem
  obtain ⟨r, hr, hj, hlt⟩ := mem_shadowed_iff.mp hij
  have hp := List.mem_zipIdx_iff_getElem?.mp (List.mem_of_find?_eq_some h)
  have htrigger : p.1.trigger = (state, symbol) := by simpa using List.find?_some h
  rw [hr] at hp
  rw [Option.some.inj hp, htrigger, hplace] at hj
  cases hj
  omega

theorem firstRule_unshadowed (rules : List Rule) (state symbol : String) :
    firstRule (unshadowed rules) state symbol = firstRule rules state symbol := by
  have hfind := find?_filter_of_find? (l := rules.zipIdx)
    (p := fun p => p.1.trigger = (state, symbol))
    (q := fun p => p.2 ∉ (shadowed rules).map Prod.fst)
    fun p hp => decide_eq_true (not_mem_shadowed_of_find? hp)
  calc firstRule (unshadowed rules) state symbol
      = (rules.zipIdx.find? fun p => p.1.trigger = (state, symbol)).map Prod.fst := by
        rw [firstRule, unshadowed, List.find?_map, ← hfind]
        rfl
    _ = firstRule (rules.zipIdx.map Prod.fst) state symbol := by
        rw [firstRule, List.find?_map]
        rfl
    _ = firstRule rules state symbol := by rw [List.zipIdx_map_fst]

/-! ### In another order -/

/-- A table whose rule in place `i` has gone to place `σ i`. -/
def reordered (rules : List Rule) (σ : Equiv.Perm (Fin rules.length)) : List Rule :=
  List.ofFn fun i => rules[σ.symm i]

/-- Rules for the same state and symbol have kept their order. -/
def KeepsOrder (rules : List Rule) (σ : Equiv.Perm (Fin rules.length)) : Prop :=
  ∀ i j, i < j → rules[i].trigger = rules[j].trigger → σ i < σ j

theorem length_reordered (rules : List Rule) (σ : Equiv.Perm (Fin rules.length)) :
    (reordered rules σ).length = rules.length :=
  List.length_ofFn

/-- A place of the reordered table, as the place that a rule has gone to. -/
def newPlace (rules : List Rule) (σ : Equiv.Perm (Fin rules.length)) (i : Fin rules.length) :
    Fin (reordered rules σ).length :=
  (σ i).cast (length_reordered rules σ).symm

theorem getElem_newPlace (rules : List Rule) (σ : Equiv.Perm (Fin rules.length))
    (i : Fin rules.length) : (reordered rules σ)[newPlace rules σ i] = rules[i] := by
  have h : (reordered rules σ)[newPlace rules σ i] = rules[σ.symm (σ i)] :=
    List.getElem_ofFn (newPlace rules σ i).isLt
  simp only [h, Equiv.symm_apply_apply]

theorem exists_newPlace_eq (rules : List Rule) (σ : Equiv.Perm (Fin rules.length))
    (k : Fin (reordered rules σ).length) : ∃ i, newPlace rules σ i = k := by
  obtain ⟨i, hi⟩ := σ.surjective (k.cast (length_reordered rules σ))
  refine ⟨i, ?_⟩
  rw [newPlace, hi]
  rfl

theorem mem_of_mem_reordered {σ : Equiv.Perm (Fin rules.length)} (h : r ∈ reordered rules σ) :
    r ∈ rules := by
  obtain ⟨i, rfl⟩ := List.mem_ofFn.mp h
  exact List.getElem_mem _

theorem firstRule_reordered {σ : Equiv.Perm (Fin rules.length)} (h : KeepsOrder rules σ)
    (state symbol : String) :
    firstRule (reordered rules σ) state symbol = firstRule rules state symbol := by
  cases hfirst : firstRule rules state symbol with
  | none =>
    rw [firstRule, List.find?_eq_none] at hfirst ⊢
    exact fun r hr => hfirst r (mem_of_mem_reordered hr)
  | some r =>
    obtain ⟨i, rfl, htrigger, hbefore⟩ := firstRule_eq_some_iff.mp hfirst
    refine firstRule_eq_some_iff.mpr
      ⟨newPlace rules σ i, getElem_newPlace rules σ i, htrigger, fun k hk hsame => ?_⟩
    -- A rule that has come to stand before it stood before it or waits for something else.
    obtain ⟨j, rfl⟩ := exists_newPlace_eq rules σ k
    rw [getElem_newPlace] at hsame
    have hlt : σ j < σ i := hk
    rcases Nat.lt_trichotomy j i with hji | hji | hij
    · exact hbefore j hji hsame
    · rw [Fin.ext hji] at hlt
      exact Nat.lt_irrefl _ hlt
    · exact Nat.lt_asymm hlt (h i j hij (htrigger.trans hsame.symm))

/-- **A run depends on the table only by the first rules for every state and symbol.**  Where these
have the same effects, no machine tells one table from the other: neither by a step, nor by the text
or the end of a run, nor by a failure.  So the shadowed rules may be left out, and the rules may be
put in any order that keeps those for the same state and symbol in theirs. -/
theorem run_determined_by_lookup :
    (∀ A B, SameEffects A B → Indistinguishable A B) ∧
    (∀ rules, Indistinguishable (unshadowed rules) rules) ∧
    ∀ (rules : List Rule) (σ : Equiv.Perm (Fin rules.length)), KeepsOrder rules σ →
      Indistinguishable (reordered rules σ) rules := by
  refine ⟨fun A B h => h.indistinguishable, fun rules => ?_, fun rules σ h => ?_⟩
  · exact indistinguishable_of_firstRule (firstRule_unshadowed rules)
  · exact indistinguishable_of_firstRule (firstRule_reordered h)

/-- A table with a shadowed rule does as well without it, and two rules for different symbols can
change places. -/
theorem run_determined_by_lookup_of_two_rules :
    (SameEffects [⟨"A", "0", "1", .right, "B"⟩, ⟨"A", "0", "0", .left, "C"⟩]
        [⟨"A", "0", "1", .right, "B"⟩] ∧
      Indistinguishable [⟨"A", "0", "1", .right, "B"⟩, ⟨"A", "0", "0", .left, "C"⟩]
        [⟨"A", "0", "1", .right, "B"⟩]) ∧
    KeepsOrder [⟨"A", "0", "1", .right, "B"⟩, ⟨"A", "1", "0", .left, "C"⟩] (Equiv.swap 0 1) ∧
      Indistinguishable [⟨"A", "1", "0", .left, "C"⟩, ⟨"A", "0", "1", .right, "B"⟩]
        [⟨"A", "0", "1", .right, "B"⟩, ⟨"A", "1", "0", .left, "C"⟩] := by
  obtain ⟨hsame, -, horder⟩ := run_determined_by_lookup
  have heffects : SameEffects [⟨"A", "0", "1", .right, "B"⟩, ⟨"A", "0", "0", .left, "C"⟩]
      [⟨"A", "0", "1", .right, "B"⟩] := by
    intro state symbol
    rw [firstRule_cons, firstRule_cons, firstRule_cons]
    split <;> rfl
  have hkeeps : KeepsOrder [⟨"A", "0", "1", .right, "B"⟩, ⟨"A", "1", "0", .left, "C"⟩]
      (Equiv.swap 0 1) := by
    unfold KeepsOrder
    decide
  exact ⟨⟨heffects, hsame _ _ heffects⟩, hkeeps, horder _ _ hkeeps⟩

end TapeMachine
