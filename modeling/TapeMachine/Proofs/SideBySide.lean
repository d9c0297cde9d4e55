/-
Runs side by side.

Two machines, each with a table of its own, are compared step by step.  What they have in
common need not survive every step: it may be enough that it does where the first machine's
step goes in one of some ways, and where it goes in another nothing is said.  Transitions
are always among these ways, so what is known of a step carries over to courses, to what
runs show, and to the end of every run whose last step is among them.

* **`Ending.lastOutcome`** — how the last step of a run went;
* **`Machine.StepsAlike`** — a relation between machines, and the ways of a step that preserve it;
* **`Machine.StepsAlike.after`**, **`Machine.StepsAlike.getElem?_visited`** — what the first
  machine goes through and shows, the second one does in the same place;
* **`Machine.StepsAlike.run`** — a run that ends in one of the ways ends so on both sides;
* **`Machine.StepsAlike.run_eq`** — on one machine, such a run is the same with both tables.
-/
import Mathlib.Data.List.Forall2
import TapeMachine.Proofs.Loop

namespace TapeMachine

open Course

/-- How the last step of a run went.  A run that is cut or abandoned stops behind a transition. -/
def Ending.lastOutcome : Ending → Outcome
  | .halted => .idle
  | .fault f => .fault f
  | .limitExceeded => .fired
  | .abandoned => .fired

@[simp] theorem Ending.lastOutcome_eq_idle_iff {e : Ending} :
    e.lastOutcome = .idle ↔ e = .halted := by
  cases e <;> simp [lastOutcome]

@[simp] theorem Ending.lastOutcome_eq_fault_iff {e : Ending} {f : Fault} :
    e.lastOutcome = .fault f ↔ e = .fault f := by
  cases e <;> simp [lastOutcome]

namespace Machine

/-- Machines related by `R`, the first with `rules` and the second with `rules'`, make steps that go
alike and lead to related machines, if the first one's step goes in one of the ways `Kept`. -/
structure StepsAlike (rules rules' : List Rule) (Kept : Outcome → Prop)
    (R : Machine → Machine → Prop) : Prop where
  kept_fired : Kept .fired
  halted_eq : ∀ {c d}, R c d → d.halted = c.halted
  steps_eq : ∀ {c d}, R c d → d.steps = c.steps
  /-- The mark of a halted machine does not matter. -/
  marked : ∀ {c d}, R c d → R { c with halted := true } { d with halted := true }
  step : ∀ {c d}, R c d → Kept (c.step rules).2 →
    (d.step rules').2 = (c.step rules).2 ∧ R (c.step rules).1 (d.step rules').1

namespace StepsAlike

variable {rules rules' : List Rule} {Kept : Outcome → Prop} {R : Machine → Machine → Prop}
  {c d m m' : Machine} {limit : Int} {i k rounds : Nat}

/-- On one machine, it is enough that both tables give the same step. -/
theorem of_step_eq (hfired : Kept .fired)
    (hstep : ∀ m : Machine, Kept (m.step rules).2 → m.step rules' = m.step rules) :
    StepsAlike rules rules' Kept Eq where
  kept_fired := hfired
  halted_eq := by
    rintro c _ rfl
    rfl
  steps_eq := by
    rintro c _ rfl
    rfl
  marked := by
    rintro c _ rfl
    rfl
  step := by
    rintro c _ rfl hkept
    rw [hstep c hkept]
    exact ⟨rfl, rfl⟩

theorem exists_step (h : StepsAlike rules rules' Kept R) (hcd : R c d) {c' : Machine} {o : Outcome}
    (hc : c.step rules = (c', o)) (ho : Kept o) : ∃ d', d.step rules' = (d', o) ∧ R c' d' := by
  have hstep := h.step hcd
  rw [hc] at hstep
  obtain ⟨houtcome, hnext⟩ := hstep ho
  exact ⟨_, Prod.ext rfl houtcome, hnext⟩

/-! ### On the way -/

/-- As far as the course of the first machine goes, the other one's goes alike. -/
theorem after (h : StepsAlike rules rules' Kept R) (hm : R m m')
    (hc : after (Machine.step · rules) k m = some c) :
    ∃ d, Course.after (Machine.step · rules') k m' = some d ∧ R c d := by
  refine exists_after_of_follows (fun c d c' hcd hstep => ?_) hm hc
  exact h.exists_step hcd hstep h.kept_fired

/-- What the first run shows, the other one shows in the same place, however they end. -/
theorem getElem?_visited (h : StepsAlike rules rules' Kept R) (hm : R m m')
    (hready : m.halted = false) (hi : (m.run rounds rules limit).visited[i]? = some c) :
    ∃ d, (m'.run rounds rules' limit).visited[i]? = some d ∧ R c d := by
  obtain ⟨hc, hrounds, hl⟩ := (getElem?_visited_eq_some hready).mp hi
  obtain ⟨d, hd, hcd⟩ := h.after hm hc
  -- Both have made as many steps, so the limit leaves them as many rounds.
  have hturns : m'.turnsWithin limit = m.turnsWithin limit := by
    rw [turnsWithin, turnsWithin, h.steps_eq hm]
  rw [← hturns] at hl
  exact ⟨d, (getElem?_visited_eq_some ((h.halted_eq hm).trans hready)).mpr ⟨hd, hrounds, hl⟩, hcd⟩

/-- On one machine, the configurations on the way are the same with both tables. -/
theorem visits_eq (h : StepsAlike rules rules' Kept Eq)
    (hc : Course.after (Machine.step · rules) k m = some c) :
    visits (Machine.step · rules') (k + 1) m = visits (Machine.step · rules) (k + 1) m := by
  refine List.filterMap_congr fun j hj => ?_
  obtain ⟨u, hu⟩ := exists_after_of_le hc (Nat.lt_succ_iff.mp (List.mem_range.mp hj))
  obtain ⟨_, hu', rfl⟩ := h.after rfl hu
  rw [hu, hu']

/-- On one machine, all that the first run shows comes first in what the other one shows. -/
theorem prefix_visited (h : StepsAlike rules rules' Kept Eq) (hready : m.halted = false)
    (limit : Int) (rounds : Nat) :
    (m.run rounds rules limit).visited <+: (m.run rounds rules' limit).visited := by
  refine List.prefix_iff_getElem?.mpr fun i hi => ?_
  obtain ⟨_, hshown, rfl⟩ := h.getElem?_visited rfl hready (List.getElem?_eq_getElem hi)
  exact hshown

/-! ### To the end -/

/-- The rounds of both runs go alike, if the last of them is of a kind that does. -/
theorem runFrom (h : StepsAlike rules rules' Kept R) (hcd : R c d) {shown shown' : List Machine}
    (hshown : List.Forall₂ R shown shown')
    (hend : Kept (runFrom rules limit rounds c shown).ending.lastOutcome) :
    (Machine.runFrom rules' limit rounds d shown').ending =
        (Machine.runFrom rules limit rounds c shown).ending ∧
      R (Machine.runFrom rules limit rounds c shown).machine
        (Machine.runFrom rules' limit rounds d shown').machine ∧
      List.Forall₂ R (Machine.runFrom rules limit rounds c shown).visited
        (Machine.runFrom rules' limit rounds d shown').visited := by
  induction rounds generalizing c d shown shown' with
  | zero => exact ⟨rfl, hcd, List.rel_reverse hshown⟩
  | succ rounds ih =>
    have hall : List.Forall₂ R (c :: shown) (d :: shown') := .cons hcd hshown
    rw [Machine.runFrom] at hend ⊢
    rw [Machine.runFrom]
    rcases hc : c.step rules with ⟨c', _ | _ | f⟩
    · rw [turn_of_idle hc] at hend ⊢
      obtain ⟨d', hd, hnext⟩ := h.exists_step hcd hc hend
      rw [turn_of_idle hd]
      exact ⟨rfl, h.marked hnext, List.rel_reverse hall⟩
    · obtain ⟨d', hd, hnext⟩ := h.exists_step hcd hc h.kept_fired
      rw [turn_of_fired hc] at hend ⊢
      rw [turn_of_fired hd, h.steps_eq hnext]
      by_cases hlimit : exceeds limit c'.steps = true
      · rw [if_pos hlimit, if_pos hlimit]
        exact ⟨rfl, hnext, List.rel_reverse hall⟩
      · rw [if_neg hlimit] at hend ⊢
        rw [if_neg hlimit]
        exact ih hnext hall hend
    · rw [turn_of_fault hc] at hend ⊢
      obtain ⟨d', hd, hnext⟩ := h.exists_step hcd hc hend
      rw [turn_of_fault hd]
      exact ⟨rfl, h.marked hnext, List.rel_reverse hall⟩

/-- **Runs of related machines go alike, if the first one's last step is of a kind that does.** -/
theorem run (h : StepsAlike rules rules' Kept R) (hm : R m m') (hready : m.halted = false)
    (hend : Kept (m.run rounds rules limit).ending.lastOutcome) :
    (m'.run rounds rules' limit).ending = (m.run rounds rules limit).ending ∧
      R (m.run rounds rules limit).machine (m'.run rounds rules' limit).machine ∧
      List.Forall₂ R (m.run rounds rules limit).visited (m'.run rounds rules' limit).visited := by
  have hready' : m'.halted = false := (h.halted_eq hm).trans hready
  have hrun : m.run rounds rules limit = Machine.runFrom rules limit rounds m [] :=
    if_neg (by simp [hready])
  have hrun' : m'.run rounds rules' limit = Machine.runFrom rules' limit rounds m' [] :=
    if_neg (by simp [hready'])
  rw [hrun] at hend ⊢
  rw [hrun']
  exact h.runFrom hm .nil hend

/-- On one machine, such a run is the same with both tables. -/
theorem run_eq (h : StepsAlike rules rules' Kept Eq) (hready : m.halted = false)
    (hend : Kept (m.run rounds rules limit).ending.lastOutcome) :
    m.run rounds rules' limit = m.run rounds rules limit := by
  obtain ⟨hending, hmachine, hvisited⟩ := h.run rfl hready hend
  rw [List.forall₂_eq_eq_eq] at hvisited
  generalize m.run rounds rules limit = r at hending hmachine hvisited ⊢
  generalize m.run rounds rules' limit = r' at hending hmachine hvisited ⊢
  cases r
  cases r'
  simp only at hending hmachine hvisited
  rw [hending, hmachine, hvisited]

end StepsAlike

end Machine

end TapeMachine
