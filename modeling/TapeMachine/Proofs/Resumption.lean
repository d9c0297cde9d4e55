/-
Runs that are taken up again.

A run that is cut by its limit has shown every machine that it has gone through but
the last, and leaves that one behind without the mark of a halted machine.  So the
next run begins by showing it, and goes on as if there had been no cut.  Every other
ending leaves the mark, and nothing runs after that.

* **`Machine.runInTurn`** — runs that are called for in turn, as long as each is cut;
* **`Machine.run_resume`** — a run under a higher limit is the run that was cut and what follows;
* **`Machine.runInTurn_eq`** — so are any number of runs in turn;
* **`Machine.run_taken_up_again`** — nothing is lost and nothing is shown twice.

Design notes:

* Every call grants rounds of its own.  The run that it is all compared with is granted those
  that the earlier runs have gone through and those of the last call.
-/
import Mathlib.Data.List.Chain
import TapeMachine.Proofs.Loop

namespace TapeMachine

open Course

/-- A call for a run: its limit, and the rounds granted. -/
structure Call where
  limit : Int
  rounds : Nat

/-- A run and then what follows it. -/
def Run.followedBy (r s : Run) : Run :=
  ⟨r.visited ++ s.visited, s.machine, s.ending⟩

/-- The rounds that runs have gone through, in each of which a machine was shown. -/
def roundsOf (done : List (Call × Run)) : Nat :=
  (done.flatMap (·.2.visited)).length

/-- The text that runs have shown, one after the other. -/
def textOf (done : List (Call × Run)) : String :=
  String.join (done.map (·.2.text))

/-- A positive limit is raised to a higher one, or to none. -/
def Raised (l l' : Int) : Prop :=
  0 < l ∧ (l < l' ∨ l' = 0)

instance (l l' : Int) : Decidable (Raised l l') :=
  inferInstanceAs (Decidable (_ ∧ _))

theorem Raised.trans {l l' l'' : Int} (h : Raised l l') (h' : Raised l' l'') : Raised l l'' := by
  rw [Raised] at h h' ⊢
  omega

instance : Trans Raised Raised Raised :=
  ⟨Raised.trans⟩

/-- Positive limits that rise, the last of which may also be none. -/
def Rising (limits : List Int) : Prop :=
  limits.IsChain Raised

instance (limits : List Int) : Decidable (Rising limits) :=
  inferInstanceAs (Decidable (limits.IsChain Raised))

namespace Machine

variable {m c : Machine} {rules : List Rule} {limit limit' : Int} {rounds : Nat}

/-- Runs called for in turn on the same machine, as long as each is cut by its limit. -/
def runInTurn (rules : List Rule) (m : Machine) : List Call → List (Call × Run)
  | [] => []
  | call :: calls =>
    let r := m.run call.rounds rules call.limit
    match r.ending with
    | .limitExceeded => (call, r) :: runInTurn rules r.machine calls
    | _ => [(call, r)]

/-! ### One cut -/

/-- What has been shown before does not matter to the rounds of a run. -/
theorem runFrom_shown (rules : List Rule) (limit : Int) (rounds : Nat) (m : Machine)
    (shown : List Machine) :
    runFrom rules limit rounds m shown =
      Run.followedBy ⟨shown.reverse, m, .abandoned⟩ (runFrom rules limit rounds m []) := by
  induction rounds generalizing m shown with
  | zero => simp [runFrom, Run.followedBy]
  | succ rounds ih =>
    rw [runFrom, runFrom]
    rcases m.turn rules limit with m' | ⟨m', e⟩
    · show runFrom rules limit rounds m' (m :: shown) =
        Run.followedBy ⟨shown.reverse, m, .abandoned⟩ (runFrom rules limit rounds m' [m])
      rw [ih m' (m :: shown), ih m' [m]]
      simp [Run.followedBy]
    · simp [Run.followedBy]

/-- A run that was cut has made the transitions that its limit grants and left its machine ready to
go on. -/
theorem after_of_cut (hm : m.halted = false)
    (hcut : (m.run rounds rules limit).ending = .limitExceeded) :
    limit ≠ 0 ∧ after (Machine.step · rules) (m.turnsWithin limit) m =
        some (m.run rounds rules limit).machine ∧
      (m.run rounds rules limit).visited =
        visits (Machine.step · rules) (m.turnsWithin limit) m := by
  have hrun := passage_run hm rules limit rounds
  generalize m.run rounds rules limit = r at hrun hcut ⊢
  cases hrun with
  | idle => cases hcut
  | fault => cases hcut
  | cut hlimit hc => exact ⟨hlimit, hc, rfl⟩
  | abandoned => cases hcut

/-- **A run under a higher limit, or none, is the run that was cut and the run that takes it up
again.** -/
theorem run_resume (hm : m.halted = false) (hsteps : (m.steps : Int) ≤ limit)
    (hlimit : limit < limit' ∨ limit' = 0)
    (hcut : (m.run rounds rules limit).ending = .limitExceeded) (rounds' : Nat) :
    m.run ((m.run rounds rules limit).visited.length + rounds') rules limit' =
      (m.run rounds rules limit).followedBy
        ((m.run rounds rules limit).machine.run rounds' rules limit') := by
  obtain ⟨-, hc, hvisited⟩ := after_of_cut hm hcut
  generalize m.run rounds rules limit = r at hc hvisited ⊢
  have hl : limit' = 0 ∨ m.turnsWithin limit < m.turnsWithin limit' := by
    rw [turnsWithin, turnsWithin]
    omega
  have hready : r.machine.halted = false := halted_after hm hc
  rw [hvisited, length_visits hc, Nat.add_comm, run_eq_runFrom hm hc hl, runFrom_shown,
    List.reverse_reverse, run, if_neg (by simp [hready]), Run.followedBy, Run.followedBy, hvisited]

/-! ### Any number of cuts -/

theorem runInTurn_of_cut {call : Call} (calls : List Call)
    (hcut : (m.run call.rounds rules call.limit).ending = .limitExceeded) :
    m.runInTurn rules (call :: calls) =
      (call, m.run call.rounds rules call.limit) ::
        (m.run call.rounds rules call.limit).machine.runInTurn rules calls := by
  simp only [runInTurn, hcut]

theorem runInTurn_of_not_cut {call : Call} (calls : List Call)
    (hcut : (m.run call.rounds rules call.limit).ending ≠ .limitExceeded) :
    m.runInTurn rules (call :: calls) = [(call, m.run call.rounds rules call.limit)] := by
  rw [runInTurn]
  split
  · rename_i h
    exact absurd h hcut
  · rfl

theorem roundsOf_cons (d : Call × Run) (done : List (Call × Run)) :
    roundsOf (d :: done) = d.2.visited.length + roundsOf done := by
  rw [roundsOf, List.flatMap_cons, List.length_append, roundsOf]

/-- The runs in turn are together the one run under the limit that was used last. -/
theorem runInTurn_eq (rules : List Rule) (hm : m.halted = false) (first : Call) (calls : List Call)
    (hfirst : first.limit = 0 ∨ (m.steps : Int) ≤ first.limit)
    (hrising : ((first :: calls).map Call.limit).Pairwise Raised) :
    ∃ earlier call last, m.runInTurn rules (first :: calls) = earlier ++ [(call, last)] ∧
      call ∈ first :: calls ∧
      m.run (roundsOf earlier + call.rounds) rules call.limit =
        ⟨(earlier ++ [(call, last)]).flatMap (·.2.visited), last.machine, last.ending⟩ := by
  induction calls generalizing m first with
  | nil =>
    refine ⟨[], first, m.run first.rounds rules first.limit, ?_, List.mem_singleton_self first, ?_⟩
    · rw [runInTurn]
      split <;> rfl
    · simp [roundsOf]
  | cons next calls ih =>
    by_cases hcut : (m.run first.rounds rules first.limit).ending = .limitExceeded
    · obtain ⟨hlow, hrising⟩ := List.pairwise_cons.mp hrising
      obtain ⟨hpositive, hnext⟩ := hlow next.limit (List.mem_map_of_mem List.mem_cons_self)
      -- The machine that was cut is one step above its limit, and so not above the next one.
      obtain ⟨-, hc, -⟩ := after_of_cut hm hcut
      have hready := halted_after hm hc
      have hsteps := steps_after hc
      rw [turnsWithin] at hsteps
      obtain ⟨earlier, call, last, hruns, hcall, hwhole⟩ :=
        ih hready next (by omega) hrising
      have hhigher := (hlow call.limit (List.mem_map_of_mem hcall)).2
      refine ⟨(first, m.run first.rounds rules first.limit) :: earlier, call, last, ?_,
        List.mem_cons_of_mem first hcall, ?_⟩
      · rw [runInTurn_of_cut _ hcut, hruns, List.cons_append]
      · rw [roundsOf_cons, Nat.add_assoc, run_resume hm (by omega) hhigher hcut, hwhole]
        rfl
    · refine ⟨[], first, m.run first.rounds rules first.limit, runInTurn_of_not_cut _ hcut,
        List.mem_cons_self, ?_⟩
      simp [roundsOf]

/-! ### The text shown -/

/-- The text that runs show one after the other is the trace of all machines that they show. -/
theorem textOf_eq (done : List (Call × Run)) : textOf done = trace (done.flatMap (·.2.visited)) := by
  refine String.toList_inj.mp ?_
  rw [textOf, String.toList_join, List.flatMap_map, toList_trace, List.flatMap_assoc]
  exact List.flatMap_congr fun d _ => toList_trace d.2.visited

/-! ### After the end -/

/-- Every run but one that is cut, or has not come to its end, leaves a machine that has halted. -/
theorem halted_of_ended (h : (m.run rounds rules limit).ending = .halted ∨
      ∃ f, (m.run rounds rules limit).ending = .fault f) :
    (m.run rounds rules limit).machine.halted = true := by
  by_cases hm : m.halted = true
  · rw [run, if_pos hm]
    exact hm
  · have hrun := passage_run (Bool.eq_false_iff.mpr hm) rules limit rounds
    generalize m.run rounds rules limit = r at hrun h ⊢
    cases hrun with
    | idle => rfl
    | fault => rfl
    | cut => rcases h with h | ⟨f, h⟩ <;> cases h
    | abandoned => rcases h with h | ⟨f, h⟩ <;> cases h

/-- A machine that has halted shows nothing and stays as it is. -/
theorem observed_of_halted (hm : m.halted = true) (rules : List Rule) (limit : Int) (rounds : Nat) :
    (m.run rounds rules limit).observed limit = ("", m, .ok m.steps) := by
  rw [run, if_pos hm]
  rfl

/-- **A run that is cut by its limit can be taken up again, and nothing is lost or shown twice.**
Limits that rise, up to none at all, are gone through on one machine as long as they are exceeded.
Together the runs show the text that the one run under the last limit used would have shown, and
they end with the same machine and the same result.  A run that has ended in another way has marked
its machine, and whatever run follows shows nothing and changes nothing. -/
theorem run_taken_up_again (rules : List Rule) (m : Machine) (hm : m.halted = false) (first : Call)
    (calls : List Call) (hfirst : (m.steps : Int) ≤ first.limit)
    (hrising : Rising ((first :: calls).map Call.limit)) :
    (∃ earlier call last, m.runInTurn rules (first :: calls) = earlier ++ [(call, last)] ∧
      (textOf (earlier ++ [(call, last)]), last.machine, last.result call.limit) =
        (m.run (roundsOf earlier + call.rounds) rules call.limit).observed call.limit) ∧
    ∀ (m : Machine) (rules : List Rule) (limit : Int) (rounds : Nat),
      ((m.run rounds rules limit).ending = .halted ∨
        ∃ f, (m.run rounds rules limit).ending = .fault f) →
      (m.run rounds rules limit).machine.halted = true ∧
        ∀ rules' limit' rounds',
          ((m.run rounds rules limit).machine.run rounds' rules' limit').observed limit' =
            ("", (m.run rounds rules limit).machine,
              .ok (m.run rounds rules limit).machine.steps) := by
  refine ⟨?_, fun m rules limit rounds hended => ?_⟩
  · obtain ⟨earlier, call, last, hruns, -, hwhole⟩ :=
      runInTurn_eq rules hm first calls (.inr hfirst) (List.IsChain.pairwise hrising)
    refine ⟨earlier, call, last, hruns, ?_⟩
    rw [hwhole, textOf_eq]
    rfl
  · have hhalted := halted_of_ended hended
    exact ⟨hhalted, fun rules' limit' rounds' => observed_of_halted hhalted rules' limit' rounds'⟩

/-- A run that is cut after two transitions and taken up again without a limit, until it leaves the
tape. -/
theorem run_taken_up_again_of_two_calls :
    (onTape ["a", "a"] .error).halted = false ∧ ((onTape ["a", "a"] .error).steps : Int) ≤ 1 ∧
      Rising [1, 0] ∧
      ∃ earlier last, (onTape ["a", "a"] .error).runInTurn
          [⟨"Inc", "a", "b", .right, "Inc"⟩] [⟨1, 5⟩, ⟨0, 5⟩] = earlier ++ [(⟨0, 5⟩, last)] ∧
        last.ending = .fault (.overflow 2) ∧
        (textOf (earlier ++ [(⟨0, 5⟩, last)]), last.machine, last.result 0) =
          ((onTape ["a", "a"] .error).run 7 [⟨"Inc", "a", "b", .right, "Inc"⟩] 0).observed 0 := by
  have hrising : Rising [1, 0] := by decide
  obtain ⟨⟨earlier, call, last, hruns, hobserved⟩, -⟩ :=
    run_taken_up_again [⟨"Inc", "a", "b", .right, "Inc"⟩] (onTape ["a", "a"] .error) rfl ⟨1, 5⟩
      [⟨0, 5⟩] (by decide) hrising
  -- The first call is cut, the second one fails.
  have hboth : (onTape ["a", "a"] .error).runInTurn [⟨"Inc", "a", "b", .right, "Inc"⟩]
      [⟨1, 5⟩, ⟨0, 5⟩] =
        [(⟨1, 5⟩, ⟨[⟨"Inc", ["a", "a"], some "a", 0, false, 0, .error⟩,
            ⟨"Inc", ["b", "a"], some "a", 1, false, 1, .error⟩],
            ⟨"Inc", ["b", "b"], some "a", 2, false, 2, .error⟩, .limitExceeded⟩)] ++
          [(⟨0, 5⟩, ⟨[⟨"Inc", ["b", "b"], some "a", 2, false, 2, .error⟩],
            ⟨"Inc", ["b", "b"], some "a", 2, true, 2, .error⟩, .fault (.overflow 2)⟩)] :=
    rfl
  rw [hboth] at hruns
  obtain ⟨rfl, hlast⟩ := List.append_inj' hruns rfl
  cases hlast
  exact ⟨rfl, by decide, hrising, _, _, hboth, rfl, hobserved⟩

end Machine

end TapeMachine
