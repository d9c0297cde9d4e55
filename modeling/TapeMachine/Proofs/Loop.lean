/-
The loop: a run passes through the course of its machine.

A run shows the machine, marks it as halted and makes a step, which takes the mark
off again if a rule is applied.  It compares the count of steps with the limit only
after a transition.  All this is told here in terms of the course alone: where the
course ends if no limit is in the way, and otherwise the first configuration whose
count is above the limit.

* **`Machine.runFrom_after`** — while no limit is exceeded, the rounds of a run are the
  configurations of the course;
* **`Machine.run_of_idle`**, **`Machine.run_of_fault`**, **`Machine.run_of_limit`**,
  **`Machine.run_of_after`** — the four ways in which a run can end;
* **`Machine.Passage`**, **`Machine.passage_run`** — there is no other way;
* **`Machine.exists_after_run`** — the count of steps after a run tells how far it has come;
* **`Machine.run_eq_course`** — every run, under every limit.
-/
import TapeMachine.Failure
import TapeMachine.Proofs.Course
import TapeMachine.Proofs.Transition

namespace TapeMachine

open Course

/-- What a run hands back: the count of steps, or why it failed. -/
def Run.result (limit : Int) (r : Run) : Except Problem Nat :=
  match r.ending.problem? limit with
  | some p => .error p
  | none => .ok r.machine.steps

/-- What a run leaves behind: the text it shows, the machine, and what it hands back. -/
def Run.observed (limit : Int) (r : Run) : String × Machine × Except Problem Nat :=
  (r.text, r.machine, r.result limit)

namespace Machine

variable {m m' c c' : Machine} {rules : List Rule} {limit : Int} {f : Fault} {i k rounds : Nat}

/-! ### One round -/

theorem turn_of_idle (h : m.step rules = (m', .idle)) :
    m.turn rules limit = .stop { m' with halted := true } .halted := by
  rw [turn, step_halted, h]

theorem turn_of_fault (h : m.step rules = (m', .fault f)) :
    m.turn rules limit = .stop { m' with halted := true } (.fault f) := by
  rw [turn, step_halted, h]

theorem turn_of_fired (h : m.step rules = (m', .fired)) :
    m.turn rules limit =
      if exceeds limit m'.steps then .stop m' .limitExceeded else .goOn m' := by
  rw [turn, step_halted, h]

/-- The limit is exceeded from the last round that it grants on. -/
theorem exceeds_add_iff (hi : 1 ≤ i) :
    exceeds limit (m.steps + i) = true ↔ limit ≠ 0 ∧ m.turnsWithin limit ≤ i := by
  rw [exceeds, decide_eq_true_iff, turnsWithin]
  refine and_congr_right fun _ => ?_
  omega

/-! ### Along a course -/

/-- The count of steps counts the transitions. -/
theorem steps_after (h : after (Machine.step · rules) k m = some c) : c.steps = m.steps + k := by
  induction k generalizing c with
  | zero =>
    cases h
    rfl
  | succ k ih =>
    obtain ⟨u, hu, hstep⟩ := after_succ_eq_some_last.mp h
    rw [(halted_and_steps_of_fired hstep).2, ih hu]
    rfl

/-- No machine on the course of one that has not halted has halted. -/
theorem halted_after (hm : m.halted = false) (h : after (Machine.step · rules) k m = some c) :
    c.halted = false :=
  after_invariant (P := fun m => m.halted = false)
    (fun _ _ _ hstep => (halted_and_steps_of_fired hstep).1) hm h

/-- The first `k` rounds of a run, if none of them exceeds the limit. -/
theorem runFrom_after (h : after (Machine.step · rules) k m = some c)
    (hl : limit = 0 ∨ k < m.turnsWithin limit) (rounds : Nat) (shown : List Machine) :
    runFrom rules limit (rounds + k) m shown =
      runFrom rules limit rounds c ((visits (Machine.step · rules) k m).reverse ++ shown) := by
  induction k generalizing c rounds with
  | zero =>
    cases h
    rfl
  | succ k ih =>
    -- The last of the rounds leads to `c`, and its count is not above the limit.
    obtain ⟨u, hu, hstep⟩ := after_succ_eq_some_last.mp h
    have hcount : c.steps = m.steps + (k + 1) := steps_after h
    have hlow : exceeds limit c.steps ≠ true := by
      rw [hcount, Ne, exceeds_add_iff (by omega)]
      omega
    have hturn : u.turn rules limit = .goOn c := by
      rw [turn_of_fired hstep, if_neg hlow]
    rw [← Nat.add_assoc, Nat.add_right_comm, ih hu (by omega), runFrom, hturn, visits_succ hu,
      List.reverse_append]
    rfl

/-! ### The ways in which a run ends -/

/-- A run of a machine that has not halted, from the `k`-th configuration of its course on. -/
theorem run_eq_runFrom (hm : m.halted = false) (h : after (Machine.step · rules) k m = some c)
    (hl : limit = 0 ∨ k < m.turnsWithin limit) (rounds : Nat) :
    m.run (rounds + k) rules limit =
      runFrom rules limit rounds c (visits (Machine.step · rules) k m).reverse := by
  rw [run, if_neg (by simp [hm]), runFrom_after h hl, List.append_nil]

/-- A run ends where no rule matches. -/
theorem run_of_idle (hm : m.halted = false) (h : after (Machine.step · rules) k m = some c)
    (hidle : c.step rules = (c', .idle)) (hl : limit = 0 ∨ k < m.turnsWithin limit)
    (hk : k < rounds) :
    m.run rounds rules limit =
      ⟨visits (Machine.step · rules) (k + 1) m, { c' with halted := true }, .halted⟩ := by
  obtain ⟨n, rfl⟩ : ∃ n, rounds = n + 1 + k := ⟨rounds - k - 1, by omega⟩
  rw [run_eq_runFrom hm h hl, runFrom, turn_of_idle hidle, visits_succ h, List.reverse_cons,
    List.reverse_reverse]

/-- A run ends where a step fails. -/
theorem run_of_fault (hm : m.halted = false) (h : after (Machine.step · rules) k m = some c)
    (hfault : c.step rules = (c', .fault f)) (hl : limit = 0 ∨ k < m.turnsWithin limit)
    (hk : k < rounds) :
    m.run rounds rules limit =
      ⟨visits (Machine.step · rules) (k + 1) m, { c' with halted := true }, .fault f⟩ := by
  obtain ⟨n, rfl⟩ : ∃ n, rounds = n + 1 + k := ⟨rounds - k - 1, by omega⟩
  rw [run_eq_runFrom hm h hl, runFrom, turn_of_fault hfault, visits_succ h, List.reverse_cons,
    List.reverse_reverse]

/-- A run ends with the transition that takes it above the limit. -/
theorem run_of_limit (hm : m.halted = false) (hlimit : limit ≠ 0)
    (h : after (Machine.step · rules) (m.turnsWithin limit) m = some c)
    (hk : m.turnsWithin limit ≤ rounds) :
    m.run rounds rules limit =
      ⟨visits (Machine.step · rules) (m.turnsWithin limit) m, c, .limitExceeded⟩ := by
  obtain ⟨k, hk'⟩ : ∃ k, m.turnsWithin limit = k + 1 :=
    ⟨m.turnsWithin limit - 1, by rw [turnsWithin]; omega⟩
  obtain ⟨n, rfl⟩ : ∃ n, rounds = n + 1 + k := ⟨rounds - k - 1, by omega⟩
  rw [hk'] at h
  -- The transition that reaches `c` is the first whose count is above the limit.
  obtain ⟨u, hu, hstep⟩ := after_succ_eq_some_last.mp h
  have hhigh : exceeds limit c.steps = true := by
    rw [steps_after h, exceeds_add_iff (by omega)]
    exact ⟨hlimit, by omega⟩
  rw [run_eq_runFrom hm hu (.inr (by omega)), runFrom, turn_of_fired hstep, if_pos hhigh, hk',
    visits_succ hu, List.reverse_cons, List.reverse_reverse]

/-- A run that is granted no more rounds than its course has is abandoned. -/
theorem run_of_after (hm : m.halted = false) (h : after (Machine.step · rules) k m = some c)
    (hl : limit = 0 ∨ k < m.turnsWithin limit) :
    m.run k rules limit = ⟨visits (Machine.step · rules) k m, c, .abandoned⟩ := by
  have hrun := run_eq_runFrom hm h hl 0
  rw [Nat.zero_add] at hrun
  rw [hrun, runFrom, List.reverse_reverse]

/-! ### All runs -/

/-- The ways in which a run of a machine that has not halted can go, each with all that it
requires. -/
inductive Passage (m : Machine) (rules : List Rule) (limit : Int) (rounds : Nat) : Run → Prop
  /-- The course ends where no rule matches. -/
  | idle {k : Nat} {c : Machine} (hc : after (Machine.step · rules) k m = some c)
      (hidle : c.step rules = (c, .idle)) (hl : limit = 0 ∨ k < m.turnsWithin limit)
      (hk : k < rounds) :
      Passage m rules limit rounds
        ⟨visits (Machine.step · rules) (k + 1) m, { c with halted := true }, .halted⟩
  /-- The course ends where a step fails. -/
  | fault {k : Nat} {c c' : Machine} {f : Fault} (hc : after (Machine.step · rules) k m = some c)
      (hfault : c.step rules = (c', .fault f)) (hl : limit = 0 ∨ k < m.turnsWithin limit)
      (hk : k < rounds) :
      Passage m rules limit rounds
        ⟨visits (Machine.step · rules) (k + 1) m, { c' with halted := true }, .fault f⟩
  /-- The course goes on beyond the limit. -/
  | cut {c : Machine} (hlimit : limit ≠ 0)
      (hc : after (Machine.step · rules) (m.turnsWithin limit) m = some c)
      (hk : m.turnsWithin limit ≤ rounds) :
      Passage m rules limit rounds
        ⟨visits (Machine.step · rules) (m.turnsWithin limit) m, c, .limitExceeded⟩
  /-- The course goes on, and so would the run. -/
  | abandoned {c : Machine} (hc : after (Machine.step · rules) rounds m = some c)
      (hl : limit = 0 ∨ rounds < m.turnsWithin limit) :
      Passage m rules limit rounds ⟨visits (Machine.step · rules) rounds m, c, .abandoned⟩

/-- Every run goes in one of these ways. -/
theorem passage_run (hm : m.halted = false) (rules : List Rule) (limit : Int) (rounds : Nat) :
    Passage m rules limit rounds (m.run rounds rules limit) := by
  -- A course that reaches the limit within the rounds granted is cut there.
  have hcut : ∀ k c, after (Machine.step · rules) k m = some c → k ≤ rounds →
      ¬(limit = 0 ∨ k < m.turnsWithin limit) →
      Passage m rules limit rounds (m.run rounds rules limit) := by
    intro k c hc hk hl
    obtain ⟨u, hu⟩ := exists_after_of_le hc (by omega : m.turnsWithin limit ≤ k)
    rw [run_of_limit hm (fun h => hl (.inl h)) hu (by omega)]
    exact .cut (fun h => hl (.inl h)) hu (by omega)
  rcases hc : after (Machine.step · rules) rounds m with _ | c
  · obtain ⟨k, hk, t, ht, hlast⟩ := exists_last_of_after_eq_none hc
    by_cases hl : limit = 0 ∨ k < m.turnsWithin limit
    · rcases hstep : t.step rules with ⟨t', _ | _ | f⟩
      · obtain rfl := eq_of_idle hstep
        rw [run_of_idle hm ht hstep hl hk]
        exact .idle ht hstep hl hk
      · exact absurd (congrArg Prod.snd hstep) hlast
      · rw [run_of_fault hm ht hstep hl hk]
        exact .fault ht hstep hl hk
    · exact hcut k t ht (by omega) hl
  · by_cases hl : limit = 0 ∨ rounds < m.turnsWithin limit
    · rw [run_of_after hm hc hl]
      exact .abandoned hc hl
    · exact hcut rounds c hc (Nat.le_refl _) hl

/-- What a run shows is a part of the course. -/
theorem exists_visits_of_run (hm : m.halted = false) (rules : List Rule) (limit : Int)
    (rounds : Nat) :
    ∃ k, (m.run rounds rules limit).visited = visits (Machine.step · rules) k m := by
  have hrun := passage_run hm rules limit rounds
  generalize m.run rounds rules limit = r at hrun ⊢
  cases hrun with
  | idle => exact ⟨_, rfl⟩
  | fault => exact ⟨_, rfl⟩
  | cut => exact ⟨_, rfl⟩
  | abandoned => exact ⟨_, rfl⟩

/-- A run shows a configuration of the course if the rounds granted and the limit reach that far. -/
theorem getElem?_visited_eq_some (hm : m.halted = false) :
    (m.run rounds rules limit).visited[i]? = some c ↔
      after (Machine.step · rules) i m = some c ∧ i < rounds ∧
        (limit = 0 ∨ i < m.turnsWithin limit) := by
  have hrun := passage_run hm rules limit rounds
  -- A course that has stopped after `k` transitions has no configuration after more.
  have hlast : ∀ {k : Nat} {u : Machine}, after (Machine.step · rules) k m = some u →
      (u.step rules).2 ≠ .fired → after (Machine.step · rules) i m = some c → i ≤ k := by
    intro k u hu hstop hi
    by_contra hlt
    obtain ⟨v, hv⟩ := exists_after_of_le hi (by omega : k + 1 ≤ i)
    obtain ⟨u', hu', hfired⟩ := after_succ_eq_some_last.mp hv
    cases hu.symm.trans hu'
    exact hstop (congrArg Prod.snd hfired)
  generalize m.run rounds rules limit = r at hrun ⊢
  cases hrun with
  | idle hc hidle hl hk =>
    rw [getElem?_visits_eq_some]
    refine and_congr_right fun hi => ?_
    have hle := hlast hc (by rw [hidle]; exact Outcome.noConfusion) hi
    omega
  | fault hc hfault hl hk =>
    rw [getElem?_visits_eq_some]
    refine and_congr_right fun hi => ?_
    have hle := hlast hc (by rw [hfault]; exact Outcome.noConfusion) hi
    omega
  | cut hlimit hc hk =>
    rw [getElem?_visits_eq_some]
    refine and_congr_right fun _ => ?_
    omega
  | abandoned hc hl =>
    rw [getElem?_visits_eq_some]
    refine and_congr_right fun _ => ?_
    omega

/-- No run shows more than one configuration for every transition, and the first one. -/
theorem length_visited_le (hm : m.halted = false) (rules : List Rule) (limit : Int)
    (rounds : Nat) :
    m.steps + (m.run rounds rules limit).visited.length ≤
      (m.run rounds rules limit).machine.steps + 1 := by
  have hcount : ∀ {k n : Nat} {c : Machine}, after (Machine.step · rules) k m = some c →
      n ≤ k + 1 → m.steps + (visits (Machine.step · rules) n m).length ≤ c.steps + 1 := by
    intro k n c hc hn
    have hlength : (visits (Machine.step · rules) n m).length ≤ n := length_visits_le
    rw [steps_after hc]
    omega
  have hrun := passage_run hm rules limit rounds
  generalize m.run rounds rules limit = r at hrun ⊢
  cases hrun with
  | @idle k c hc =>
    show _ ≤ c.steps + 1
    exact hcount hc (Nat.le_refl _)
  | @fault k c c' f hc hfault =>
    show _ ≤ c'.steps + 1
    rw [(same_of_fault hfault).1]
    exact hcount hc (Nat.le_refl _)
  | cut _ hc => exact hcount hc (Nat.le_succ _)
  | abandoned hc => exact hcount hc (Nat.le_succ _)

/-- The count of steps after a run is the number of transitions that were made, which lead to its
state and head.  A failed step is none of them. -/
theorem exists_after_run (hm : m.halted = false) (hsteps : m.steps = 0)
    (rules : List Rule) (limit : Int) (rounds : Nat) :
    ∃ c, after (Machine.step · rules) (m.run rounds rules limit).machine.steps m = some c ∧
      c.state = (m.run rounds rules limit).machine.state ∧
      c.head = (m.run rounds rules limit).machine.head := by
  have hcount : ∀ {k : Nat} {c : Machine}, after (Machine.step · rules) k m = some c →
      c.steps = k := by
    intro k c hc
    rw [steps_after hc, hsteps, Nat.zero_add]
  have hrun := passage_run hm rules limit rounds
  generalize m.run rounds rules limit = run at hrun ⊢
  cases hrun with
  | @idle k c hc =>
    refine ⟨c, ?_, rfl, rfl⟩
    show after (Machine.step · rules) c.steps m = some c
    rw [hcount hc, hc]
  | @fault k c c' f hc hfault =>
    obtain ⟨hsteps', hstate, hhead⟩ := same_of_fault hfault
    refine ⟨c, ?_, hstate.symm, hhead.symm⟩
    show after (Machine.step · rules) c'.steps m = some c
    rw [hsteps', hcount hc, hc]
  | @cut c hlimit hc =>
    refine ⟨c, ?_, rfl, rfl⟩
    show after (Machine.step · rules) c.steps m = some c
    rw [hcount hc, hc]
  | @abandoned c hc =>
    refine ⟨c, ?_, rfl, rfl⟩
    show after (Machine.step · rules) c.steps m = some c
    rw [hcount hc, hc]

/-- With a limit, no run is abandoned that is granted as many rounds as the limit allows. -/
theorem ending_ne_abandoned (hm : m.halted = false) (hlimit : limit ≠ 0)
    (hrounds : m.turnsWithin limit ≤ rounds) :
    (m.run rounds rules limit).ending ≠ .abandoned ∧
      (m.run rounds rules limit).visited.length ≤ m.turnsWithin limit := by
  have hrun := passage_run hm rules limit rounds
  generalize m.run rounds rules limit = r at hrun ⊢
  cases hrun with
  | idle hc hidle hl =>
    exact ⟨Ending.noConfusion, Nat.le_trans length_visits_le (hl.resolve_left hlimit)⟩
  | fault hc hfault hl =>
    exact ⟨Ending.noConfusion, Nat.le_trans length_visits_le (hl.resolve_left hlimit)⟩
  | cut => exact ⟨Ending.noConfusion, length_visits_le⟩
  | abandoned hc hl =>
    rcases hl with h | h
    · exact absurd h hlimit
    · exact absurd hrounds (by omega)

/-- **A run passes through the course of its machine, under every limit.**  Let `j` be the number
of rounds that the limit grants.

If the course ends after `k` transitions, and there is no limit or `k` is less than `j`, then the
run shows all its configurations and hands back the count of steps or the failure of the last step.
If there is a limit and the course has `j` transitions, then the run shows the configurations before
the last of these and fails.  So a run under a limit has at most `j` rounds, and a run without one
never ends if its course does not. -/
theorem run_eq_course (rules : List Rule) (limit : Int) (m : Machine) (hm : m.halted = false) :
    (∀ k c, after (Machine.step · rules) k m = some c → limit = 0 ∨ k < m.turnsWithin limit →
      ∀ rounds, k < rounds →
        ((c.step rules).2 = .idle →
          (m.run rounds rules limit).observed limit =
            (trace (visits (Machine.step · rules) (k + 1) m), { c with halted := true },
              .ok (m.steps + k))) ∧
        ∀ f, (c.step rules).2 = .fault f →
          (m.run rounds rules limit).observed limit =
            (trace (visits (Machine.step · rules) (k + 1) m),
              { (c.step rules).1 with halted := true }, .error f.problem)) ∧
    (limit ≠ 0 → ∀ c, after (Machine.step · rules) (m.turnsWithin limit) m = some c →
      ∀ rounds, m.turnsWithin limit ≤ rounds →
        (m.run rounds rules limit).observed limit =
          (trace (visits (Machine.step · rules) (m.turnsWithin limit) m), c,
            .error (.failure (.stepLimit limit))) ∧
        c.steps = m.steps + m.turnsWithin limit ∧ c.halted = false) ∧
    (limit ≠ 0 → ∀ rounds, m.turnsWithin limit ≤ rounds →
      (m.run rounds rules limit).ending ≠ .abandoned ∧
        (m.run rounds rules limit).visited.length ≤ m.turnsWithin limit) ∧
    (limit = 0 → (∀ k, ∃ c, after (Machine.step · rules) k m = some c) →
      ∀ rounds, (m.run rounds rules limit).ending = .abandoned) := by
  refine ⟨fun k c hc hl rounds hk => ⟨fun hidle => ?_, fun f hfault => ?_⟩,
    fun hlimit c hc rounds hj => ⟨?_, steps_after hc, halted_after hm hc⟩,
    fun hlimit rounds hj => ending_ne_abandoned hm hlimit hj, fun hlimit hall rounds => ?_⟩
  · have hstep : c.step rules = (c, .idle) :=
      Prod.ext (eq_of_idle (Prod.ext rfl hidle)) hidle
    rw [run_of_idle hm hc hstep hl hk, ← steps_after hc]
    rfl
  · rw [run_of_fault hm hc (Prod.ext rfl hfault) hl hk]
    rfl
  · rw [run_of_limit hm hlimit hc hj]
    rfl
  · obtain ⟨c, hc⟩ := hall rounds
    rw [run_of_after hm hc (.inl hlimit)]

/-- A machine that halts after one transition keeps within the limit 1, and exceeds every negative
limit. -/
theorem run_eq_course_of_one_transition :
    (onTape ["a"] .extend).halted = false ∧
      ((onTape ["a"] .extend).run 2 [⟨"Inc", "a", "b", .right, "Out"⟩] 1).observed 1 =
        (trace [onTape ["a"] .extend, ⟨"Out", ["b", "a"], some "a", 1, false, 1, .extend⟩],
          ⟨"Out", ["b", "a"], some "a", 1, true, 1, .extend⟩, .ok 1) ∧
      ((onTape ["a"] .extend).run 1 [⟨"Inc", "a", "b", .right, "Out"⟩] (-1)).observed (-1) =
        (trace [onTape ["a"] .extend], ⟨"Out", ["b", "a"], some "a", 1, false, 1, .extend⟩,
          .error (.failure (.stepLimit (-1)))) := by
  refine ⟨rfl, ?_, ?_⟩
  · exact ((run_eq_course [⟨"Inc", "a", "b", .right, "Out"⟩] 1 (onTape ["a"] .extend) rfl).1
      1 _ rfl (.inr (by decide)) 2 (by decide)).1 rfl
  · exact ((run_eq_course [⟨"Inc", "a", "b", .right, "Out"⟩] (-1) (onTape ["a"] .extend) rfl).2.1
      (by decide) _ rfl 1 (by decide)).1

end Machine

end TapeMachine
