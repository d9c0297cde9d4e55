/-
Courses: the configurations that a system passes through.

A step gives the next configuration and tells how it went.  As long as a rule is
applied the system goes on, so a configuration has a course: itself, the one
after one transition, and so on, up to a configuration in which no rule is applied.

* **`Course.after`** — the configuration after a number of transitions;
* **`Course.visits`** — the configurations before that one, in order;
* **`Course.exists_last_of_after_eq_none`** — a course that does not go on has a last
  configuration, in which no rule is applied;
* **`Course.after_lockstep`** — if related configurations step alike and stay related, then
  their courses are related throughout;
* **`Course.exists_after_of_follows`** — if only the transitions of the one are known to be followed
  by the other, its course still is.
-/
import TapeMachine.Machine

namespace TapeMachine.Course

variable {σ τ : Type} {step : σ → σ × Outcome} {j k : Nat} {s s' t : σ}

/-- The configuration after `k` transitions, or nothing if there are fewer. -/
def after (step : σ → σ × Outcome) : Nat → σ → Option σ
  | 0, s => some s
  | k + 1, s =>
    match step s with
    | (s', .fired) => after step k s'
    | (_, _) => none

/-- The first `k` configurations of a course, or all of them if there are fewer. -/
def visits (step : σ → σ × Outcome) (k : Nat) (s : σ) : List σ :=
  (List.range k).filterMap (after step · s)

@[simp] theorem after_zero : after step 0 s = some s := rfl

theorem after_succ_of_fired (h : step s = (s', .fired)) :
    after step (k + 1) s = after step k s' := by
  rw [after, h]

theorem after_succ_of_not_fired (h : (step s).2 ≠ .fired) : after step (k + 1) s = none := by
  rw [after]
  split
  · rename_i hs
    rw [hs] at h
    exact absurd rfl h
  · rfl

/-- The first of several transitions. -/
theorem after_succ_eq_some :
    after step (k + 1) s = some t ↔ ∃ s', step s = (s', .fired) ∧ after step k s' = some t := by
  constructor
  · intro h
    by_cases ho : (step s).2 = .fired
    · have hs : step s = ((step s).1, .fired) := Prod.ext rfl ho
      rw [after_succ_of_fired hs] at h
      exact ⟨_, hs, h⟩
    · rw [after_succ_of_not_fired ho] at h
      cases h
  · rintro ⟨s', hs, h⟩
    rw [after_succ_of_fired hs, h]

/-- A course from a configuration on a course is the rest of it. -/
theorem after_add : after step (j + k) s = (after step j s).bind (after step k) := by
  induction j generalizing s with
  | zero => simp
  | succ j ih =>
    rw [Nat.add_right_comm]
    by_cases ho : (step s).2 = .fired
    · have hs : step s = ((step s).1, .fired) := Prod.ext rfl ho
      rw [after_succ_of_fired hs, after_succ_of_fired hs, ih]
    · rw [after_succ_of_not_fired ho, after_succ_of_not_fired ho, Option.bind_none]

/-- The last of several transitions. -/
theorem after_succ_eq_some_last :
    after step (k + 1) s = some t ↔ ∃ u, after step k s = some u ∧ step u = (t, .fired) := by
  -- The last transition is a course of its own, with one transition.
  rw [after_add, Option.bind_eq_some_iff]
  refine exists_congr fun u => and_congr_right fun _ => ?_
  rw [after_succ_eq_some]
  constructor
  · rintro ⟨t', hu, ht⟩
    cases ht
    exact hu
  · exact fun hu => ⟨t, hu, rfl⟩

/-- A course with `k` transitions has as many fewer. -/
theorem exists_after_of_le (h : after step k s = some t) (hj : j ≤ k) :
    ∃ u, after step j s = some u := by
  obtain ⟨i, rfl⟩ := Nat.exists_eq_add_of_le hj
  rw [after_add, Option.bind_eq_some_iff] at h
  obtain ⟨u, hu, -⟩ := h
  exact ⟨u, hu⟩

/-- What every transition preserves, a course preserves. -/
theorem after_invariant {P : σ → Prop}
    (hstep : ∀ s s', P s → step s = (s', .fired) → P s') (hs : P s)
    (h : after step k s = some t) : P t := by
  induction k generalizing s with
  | zero =>
    cases h
    exact hs
  | succ k ih =>
    obtain ⟨s', hs', h⟩ := after_succ_eq_some.mp h
    exact ih (hstep s s' hs hs') h

/-- A course with fewer than `k` transitions has a last configuration. -/
theorem exists_last_of_after_eq_none (h : after step k s = none) :
    ∃ j < k, ∃ t, after step j s = some t ∧ (step t).2 ≠ .fired := by
  induction k with
  | zero => cases h
  | succ k ih =>
    -- Either the course has stopped before, or it stops where the last transition is missing.
    rcases ht : after step k s with _ | t
    · obtain ⟨j, hj, hlast⟩ := ih ht
      exact ⟨j, by omega, hlast⟩
    · refine ⟨k, by omega, t, ht, fun ho => ?_⟩
      have hnext : after step (k + 1) s = some (step t).1 :=
        after_succ_eq_some_last.mpr ⟨t, ht, Prod.ext rfl ho⟩
      rw [h] at hnext
      cases hnext

/-! ### The configurations on the way -/

theorem visits_succ (h : after step k s = some t) :
    visits step (k + 1) s = visits step k s ++ [t] := by
  simp [visits, List.range_succ, h]

theorem length_visits (h : after step k s = some t) : (visits step k s).length = k := by
  induction k generalizing t with
  | zero => rfl
  | succ k ih =>
    obtain ⟨u, hu, -⟩ := after_succ_eq_some_last.mp h
    rw [visits_succ hu, List.length_append, ih hu, List.length_singleton]

theorem exists_after_of_mem_visits (h : t ∈ visits step k s) : ∃ j, after step j s = some t := by
  obtain ⟨j, -, hj⟩ := List.mem_filterMap.mp h
  exact ⟨j, hj⟩

theorem length_visits_le : (visits step k s).length ≤ k :=
  Nat.le_trans (List.length_filterMap_le _ _) (Nat.le_of_eq List.length_range)

/-- The configurations in order: the one at place `j` is that after `j` transitions. -/
theorem getElem?_visits_eq_some :
    (visits step k s)[j]? = some t ↔ after step j s = some t ∧ j < k := by
  induction k with
  | zero => simp [visits]
  | succ k ih =>
    rcases hk : after step k s with _ | u
    · -- The course has stopped before, and nothing is added.
      have hsame : visits step (k + 1) s = visits step k s := by
        simp [visits, List.range_succ, hk]
      rw [hsame, ih]
      refine and_congr_right fun hj => ?_
      have hne : j ≠ k := by
        rintro rfl
        rw [hk] at hj
        cases hj
      omega
    · rw [visits_succ hk, List.getElem?_append, length_visits hk]
      by_cases hlt : j < k
      · rw [if_pos hlt, ih]
        exact and_congr_right fun _ => by omega
      · rw [if_neg hlt]
        constructor
        · intro h
          have hj : j = k := by
            have := (List.getElem?_eq_some_iff.mp h).1
            rw [List.length_singleton] at this
            omega
          subst hj
          rw [Nat.sub_self] at h
          exact ⟨hk.trans h, by omega⟩
        · rintro ⟨hj, hle⟩
          obtain rfl : j = k := by omega
          rw [Nat.sub_self, ← hj, hk]
          rfl

/-! ### Two courses side by side -/

/-- Configurations that are related have related courses, if a step from related configurations
goes alike and, as long as a rule is applied, leads to related ones. -/
theorem after_lockstep {step' : τ → τ × Outcome} {R : σ → τ → Prop}
    (hstep : ∀ s t, R s t → (step s).2 = (step' t).2 ∧
      ((step s).2 = .fired → R (step s).1 (step' t).1)) (k : Nat) {s : σ} {t : τ} (h : R s t) :
    Option.Rel R (after step k s) (after step' k t) := by
  induction k generalizing s t with
  | zero => exact .some h
  | succ k ih =>
    obtain ⟨houtcome, hnext⟩ := hstep s t h
    by_cases ho : (step s).2 = .fired
    · rw [after_succ_of_fired (Prod.ext rfl ho : step s = (_, .fired)),
        after_succ_of_fired (Prod.ext rfl (houtcome ▸ ho) : step' t = (_, .fired))]
      exact ih (hnext ho)
    · rw [after_succ_of_not_fired ho, after_succ_of_not_fired (houtcome ▸ ho)]
      exact .none

/-- A course is followed from a related configuration, if every transition is. -/
theorem exists_after_of_follows {step' : τ → τ × Outcome} {R : σ → τ → Prop}
    (hstep : ∀ s t s', R s t → step s = (s', .fired) → ∃ t', step' t = (t', .fired) ∧ R s' t')
    {t : τ} (h : R s t) (hs : after step k s = some s') :
    ∃ t', after step' k t = some t' ∧ R s' t' := by
  induction k generalizing s t with
  | zero =>
    cases hs
    exact ⟨t, rfl, h⟩
  | succ k ih =>
    obtain ⟨u, hu, hs⟩ := after_succ_eq_some.mp hs
    obtain ⟨v, hv, huv⟩ := hstep s t u h hu
    obtain ⟨t', ht', hst'⟩ := ih huv hs
    exact ⟨t', after_succ_eq_some.mpr ⟨v, hv, ht'⟩, hst'⟩

end TapeMachine.Course
