/-
Shadowed rules are the rules that are never applied.

The shadowed rules of a table are found in one pass, which keeps the place of the
first rule for every trigger.  A machine searches the table anew in every step.
What both come down to is the first place of a trigger in the table.

* **`firstPlace`** — the place of the first rule for a trigger;
* **`Machine.Selects`** — a step applies the rule in a given place;
* **`Machine.selects_iff`** — that is the first place for the state and the symbol under the head;
* **`shadowed_eq`** — the shadowed rules are those that do not stand in the first place of their
  trigger;
* **`length_shadowed_add_card`** — the others are as many as there are triggers;
* **`shadowed_iff_never_selected`** — so a rule is shadowed if and only if no machine applies it.
-/
import Mathlib.Data.Finset.Card
import Mathlib.Data.Finset.Dedup
import TapeMachine.Proofs.Transition

namespace TapeMachine

/-- The place of the first rule for a trigger. -/
def firstPlace (rules : List Rule) (trigger : String × String) : Option Nat :=
  rules.findIdx? fun r => r.trigger = trigger

variable {rules done rest : List Rule} {trigger : String × String} {r : Rule} {i j : Nat}
  {winners : List ((String × String) × Nat)}

theorem firstPlace_eq_some_iff :
    firstPlace rules trigger = some i ↔
      ∃ hi : i < rules.length, rules[i].trigger = trigger ∧
        ∀ (j : Nat) (hj : j < i), rules[j].trigger ≠ trigger := by
  simp [firstPlace, List.findIdx?_eq_some_iff_getElem]

theorem firstPlace_eq_none_iff :
    firstPlace rules trigger = none ↔ trigger ∉ rules.map Rule.trigger := by
  simp [firstPlace, List.findIdx?_eq_none_iff]

theorem lt_length_of_firstPlace (h : firstPlace rules trigger = some i) : i < rules.length :=
  (firstPlace_eq_some_iff.mp h).1

theorem firstPlace_cons (r : Rule) (rest : List Rule) (trigger : String × String) :
    firstPlace (r :: rest) trigger =
      if r.trigger = trigger then some 0 else (firstPlace rest trigger).map (· + 1) := by
  simp [firstPlace, List.findIdx?_cons]

/-- A table that goes on keeps its first places. -/
theorem firstPlace_append_of_some (h : firstPlace done trigger = some i) (rest : List Rule) :
    firstPlace (done ++ rest) trigger = some i := by
  rw [firstPlace] at h
  rw [firstPlace, List.findIdx?_append, h]
  rfl

/-- A trigger that is new has its first place where it stands. -/
theorem firstPlace_append_of_none (h : firstPlace done r.trigger = none) (rest : List Rule) :
    firstPlace (done ++ r :: rest) r.trigger = some done.length := by
  rw [firstPlace] at h
  simp [firstPlace, List.findIdx?_append, List.findIdx?_cons, h]

/-- One more rule has the first place of its trigger if that is new. -/
theorem firstPlace_concat (done : List Rule) (r : Rule) (trigger : String × String) :
    firstPlace (done ++ [r]) trigger =
      (firstPlace done trigger).or (if r.trigger = trigger then some done.length else none) := by
  by_cases h : r.trigger = trigger
  · simp [firstPlace, List.findIdx?_append, List.findIdx?_cons, h]
  · simp [firstPlace, List.findIdx?_append, List.findIdx?_cons, h]

/-- A rule stands in the first place of its trigger or behind it. -/
theorem exists_firstPlace_le (h : rules[i]? = some r) :
    ∃ j ≤ i, firstPlace rules r.trigger = some j := by
  obtain ⟨hi, rfl⟩ := List.getElem?_eq_some_iff.mp h
  rcases hj : firstPlace rules rules[i].trigger with _ | j
  · exact absurd (List.mem_map_of_mem (List.getElem_mem hi)) (firstPlace_eq_none_iff.mp hj)
  · refine ⟨j, ?_, rfl⟩
    by_contra hlt
    exact (firstPlace_eq_some_iff.mp hj).2.2 i (by omega) rfl

/-! ### The rule that a step applies -/

namespace Machine

variable {m : Machine} {symbol : String} {f : Fault}

/-- A step applies the rule in place `i`. -/
def Selects (m : Machine) (rules : List Rule) (i : Nat) : Prop :=
  ∃ r, m.choose 0 rules = .ok (some (i, r))

/-- On a cell, the choice falls on a rule with the right trigger or passes it by. -/
theorem choose_cons_of_cell (h : m.cell = .ok symbol) (place : Nat) (r : Rule) (rest : List Rule) :
    m.choose place (r :: rest) =
      if r.trigger = (m.state, symbol) then .ok (some (place, r)) else m.choose (place + 1) rest := by
  rw [choose, h, Rule.trigger]
  by_cases hstate : r.state = m.state
  · by_cases hread : r.read = symbol
    · simp [hstate, hread]
    · simp [hstate, hread]
  · simp [hstate]

/-- On a cell, the choice falls on the first place for the state and the symbol. -/
theorem choose_eq_firstPlace (h : m.cell = .ok symbol) (place : Nat) (rules : List Rule) :
    m.choose place rules =
      .ok ((firstPlace rules (m.state, symbol)).bind fun i => rules[i]?.map (place + i, ·)) := by
  induction rules generalizing place with
  | nil => rfl
  | cons r rest ih =>
    rw [choose_cons_of_cell h, firstPlace_cons]
    by_cases htrigger : r.trigger = (m.state, symbol)
    · rw [if_pos htrigger, if_pos htrigger]
      rfl
    · rw [if_neg htrigger, if_neg htrigger, ih]
      rcases firstPlace rest (m.state, symbol) with _ | i
      · rfl
      · simp [Nat.add_right_comm, Nat.add_assoc]

/-- A step applies the rule in the first place for the state and the symbol under the head. -/
theorem selects_iff :
    m.Selects rules i ↔
      ∃ symbol, m.cell = .ok symbol ∧ firstPlace rules (m.state, symbol) = some i := by
  rw [Selects]
  rcases hcell : m.cell with f | symbol
  · -- Off the tape nothing is chosen.
    constructor
    · rintro ⟨r, hr⟩
      rw [choose_of_no_cell hcell] at hr
      split at hr <;> cases hr
    · rintro ⟨symbol, hsymbol, -⟩
      cases hsymbol
  · rw [choose_eq_firstPlace hcell]
    constructor
    · rintro ⟨r, hr⟩
      refine ⟨symbol, rfl, ?_⟩
      rcases hplace : firstPlace rules (m.state, symbol) with _ | j <;> rw [hplace] at hr
      · cases hr
      · obtain ⟨_, -, heq⟩ := Option.map_eq_some_iff.mp (Except.ok.inj hr)
        cases heq
        rw [Nat.zero_add]
    · rintro ⟨symbol', hsymbol, hplace⟩
      cases hsymbol
      have hi := lt_length_of_firstPlace hplace
      refine ⟨rules[i], ?_⟩
      rw [hplace]
      simp [hi]

end Machine

/-! ### The shadowed rules -/

/-- What the pass over a table keeps are the first places in the part that it has gone through. -/
def Winners (done : List Rule) (winners : List ((String × String) × Nat)) : Prop :=
  ∀ trigger, winners.lookup trigger = firstPlace done trigger

theorem Winners.nil : Winners [] [] :=
  fun _ => rfl

theorem Winners.of_old (hw : Winners done winners) (h : firstPlace done r.trigger = some j) :
    Winners (done ++ [r]) winners := by
  intro trigger
  rw [hw trigger, firstPlace_concat]
  by_cases ht : r.trigger = trigger
  · rw [← ht, h]
    rfl
  · rw [if_neg ht, Option.or_none]

theorem Winners.of_new (hw : Winners done winners) (h : firstPlace done r.trigger = none) :
    Winners (done ++ [r]) ((r.trigger, done.length) :: winners) := by
  intro trigger
  rw [List.lookup_cons, hw trigger, firstPlace_concat]
  by_cases ht : r.trigger = trigger
  · subst ht
    simp [h]
  · rw [beq_eq_false_iff_ne.mpr (Ne.symm ht), if_neg ht, Option.or_none]

/-- The place of the rule that wins over the one in place `i`, if that is not the first. -/
def winner? (rules : List Rule) (r : Rule) (i : Nat) : Option Nat :=
  (firstPlace rules r.trigger).filter (· < i)

theorem winner?_eq_some_iff :
    winner? rules r i = some j ↔ firstPlace rules r.trigger = some j ∧ j < i := by
  simp [winner?, Option.filter_eq_some_iff]

/-- A rule with a new trigger wins from then on. -/
theorem shadowedFrom_of_new (hw : Winners done winners) (h : firstPlace done r.trigger = none)
    (rest : List Rule) :
    shadowedFrom winners done.length (r :: rest) =
      shadowedFrom ((r.trigger, done.length) :: winners) (done ++ [r]).length rest := by
  rw [shadowedFrom, hw r.trigger, h, List.length_append, List.length_singleton]

/-- A rule with a trigger that is not new is shadowed by the first rule for it. -/
theorem shadowedFrom_of_old (hw : Winners done winners) (h : firstPlace done r.trigger = some j)
    (rest : List Rule) :
    shadowedFrom winners done.length (r :: rest) =
      (done.length, j) :: shadowedFrom winners (done ++ [r]).length rest := by
  rw [shadowedFrom, hw r.trigger, h, List.length_append, List.length_singleton]

/-- The pass marks the rest of a table by the first places in the whole. -/
theorem shadowedFrom_eq (hw : Winners done winners) :
    shadowedFrom winners done.length rest =
      (rest.zipIdx done.length).filterMap fun p =>
        (winner? (done ++ rest) p.1 p.2).map (p.2, ·) := by
  induction rest generalizing done winners with
  | nil => rfl
  | cons r rest ih =>
    have hlength : done.length + 1 = (done ++ [r]).length := by
      rw [List.length_append, List.length_singleton]
    rw [List.zipIdx_cons, List.filterMap_cons, hlength]
    rcases hplace : firstPlace done r.trigger with _ | j
    · have hnone : winner? (done ++ r :: rest) r done.length = none := by
        simp [winner?, firstPlace_append_of_none hplace, Option.filter]
      rw [shadowedFrom_of_new hw hplace, hnone, ih (hw.of_new hplace), ← List.append_cons]
      rfl
    · have hsome : winner? (done ++ r :: rest) r done.length = some j :=
        winner?_eq_some_iff.mpr
          ⟨firstPlace_append_of_some hplace _, lt_length_of_firstPlace hplace⟩
      rw [shadowedFrom_of_old hw hplace, hsome, ih (hw.of_old hplace), ← List.append_cons]
      rfl

/-- A rule is shadowed if it does not stand in the first place of its trigger, and by that one. -/
theorem shadowed_eq (rules : List Rule) :
    shadowed rules =
      rules.zipIdx.filterMap fun p => (winner? rules p.1 p.2).map (p.2, ·) :=
  shadowedFrom_eq Winners.nil

theorem mem_shadowed_iff :
    (i, j) ∈ shadowed rules ↔
      ∃ r, rules[i]? = some r ∧ firstPlace rules r.trigger = some j ∧ j < i := by
  rw [shadowed_eq, List.mem_filterMap]
  constructor
  · rintro ⟨⟨r, i'⟩, hmem, hwinner⟩
    obtain ⟨j', hj', heq⟩ := Option.map_eq_some_iff.mp hwinner
    cases heq
    exact ⟨r, List.mk_mem_zipIdx_iff_getElem?.mp hmem, winner?_eq_some_iff.mp hj'⟩
  · rintro ⟨r, hr, hj⟩
    refine ⟨(r, i), List.mk_mem_zipIdx_iff_getElem?.mpr hr, ?_⟩
    rw [winner?_eq_some_iff.mpr hj]
    rfl

/-- No rule is listed twice, and the list is in the order of the table. -/
theorem pairwise_lt_shadowed (rules : List Rule) :
    ((shadowed rules).map Prod.fst).Pairwise (· < ·) := by
  have hplaces : rules.zipIdx.Pairwise fun p q => p.2 < q.2 := by
    rw [← List.pairwise_map (f := Prod.snd) (R := (· < ·)), List.zipIdx_map_snd]
    exact List.pairwise_lt_range'
  rw [List.pairwise_map, shadowed_eq, List.pairwise_filterMap]
  refine hplaces.imp fun {p q} hlt a ha b hb => ?_
  obtain ⟨_, -, rfl⟩ := Option.map_eq_some_iff.mp ha
  obtain ⟨_, -, rfl⟩ := Option.map_eq_some_iff.mp hb
  exact hlt

/-- Each rule that the pass goes through is shadowed or brings a new trigger. -/
theorem length_shadowedFrom_add_card (hw : Winners done winners) :
    (shadowedFrom winners done.length rest).length +
        ((done ++ rest).map Rule.trigger).toFinset.card =
      rest.length + (done.map Rule.trigger).toFinset.card := by
  induction rest generalizing done winners with
  | nil => simp [shadowedFrom]
  | cons r rest ih =>
    have htriggers : ((done ++ [r]).map Rule.trigger).toFinset =
        insert r.trigger (done.map Rule.trigger).toFinset := by
      ext t
      simp
    rw [List.append_cons, List.length_cons]
    rcases hplace : firstPlace done r.trigger with _ | j
    · have hnew : r.trigger ∉ (done.map Rule.trigger).toFinset :=
        mt List.mem_toFinset.mp (firstPlace_eq_none_iff.mp hplace)
      have hrest := ih (hw.of_new hplace)
      rw [htriggers, Finset.card_insert_of_notMem hnew] at hrest
      rw [shadowedFrom_of_new hw hplace]
      omega
    · have hold : r.trigger ∈ (done.map Rule.trigger).toFinset := by
        by_contra hnew
        rw [firstPlace_eq_none_iff.mpr (mt List.mem_toFinset.mpr hnew)] at hplace
        cases hplace
      have hrest := ih (hw.of_old hplace)
      rw [htriggers, Finset.insert_eq_of_mem hold] at hrest
      rw [shadowedFrom_of_old hw hplace, List.length_cons]
      omega

/-- The rules that are not shadowed are as many as there are triggers. -/
theorem length_shadowed_add_card (rules : List Rule) :
    (shadowed rules).length + (rules.map Rule.trigger).toFinset.card = rules.length :=
  length_shadowedFrom_add_card Winners.nil

/-! ### Shadowed rules and steps -/

namespace Machine

variable {m : Machine}

/-- A selected rule is the one that the step applies. -/
theorem step_of_selects (h : m.Selects rules i) :
    ∃ hi : i < rules.length, m.step rules = m.fire rules[i] := by
  obtain ⟨symbol, hcell, hplace⟩ := selects_iff.mp h
  refine ⟨lt_length_of_firstPlace hplace, ?_⟩
  rw [step, choose_eq_firstPlace hcell, hplace]
  simp [lt_length_of_firstPlace hplace]

/-- A machine on a cell with the symbol that a rule waits for, in the state that it waits for. -/
theorem selects_onTape (h : firstPlace rules r.trigger = some i) :
    (onTape [r.read] .error r.state).Selects rules i :=
  selects_iff.mpr ⟨r.read, rfl, h⟩

end Machine

/-- **A rule is shadowed if and only if no machine ever applies it.**  The rule that shadows it is
the first one for the same state and symbol.  It stands before the shadowed rule, is not shadowed
itself, and is applied by every machine in that state on that symbol.  Every shadowed rule is listed
once, and the rules that are not listed are as many as there are pairs of a state and a symbol. -/
theorem shadowed_iff_never_selected (rules : List Rule) :
    (∀ i < rules.length,
      (∃ j, (i, j) ∈ shadowed rules) ↔ ∀ m : Machine, ¬ m.Selects rules i) ∧
    (∀ i j, (i, j) ∈ shadowed rules →
      ∃ (hi : i < rules.length) (hj : j < i),
        rules[j].trigger = rules[i].trigger ∧
        (∀ (k : Nat) (hk : k < j), rules[k].trigger ≠ rules[i].trigger) ∧
        (∀ k, (j, k) ∉ shadowed rules) ∧
        ∀ m : Machine, m.state = rules[i].state → m.cell = .ok rules[i].read →
          m.Selects rules j ∧ m.step rules = m.fire rules[j]) ∧
    ((shadowed rules).map Prod.fst).Pairwise (· < ·) ∧
    (shadowed rules).length + (rules.map Rule.trigger).toFinset.card = rules.length := by
  refine ⟨fun i hi => ⟨?_, fun hnever => ?_⟩, fun i j hij => ?_, pairwise_lt_shadowed rules,
    length_shadowed_add_card rules⟩
  · rintro ⟨j, hij⟩ m hm
    obtain ⟨r, hr, hj, hlt⟩ := mem_shadowed_iff.mp hij
    obtain ⟨symbol, -, hplace⟩ := Machine.selects_iff.mp hm
    -- The trigger of a rule that is applied has its first place there.
    obtain ⟨_, htrigger, -⟩ := firstPlace_eq_some_iff.mp hplace
    rw [(List.getElem?_eq_some_iff.mp hr).2] at htrigger
    rw [← htrigger, hj] at hplace
    cases hplace
    omega
  · have hr : rules[i]? = some rules[i] := List.getElem?_eq_getElem hi
    obtain ⟨j, hle, hj⟩ := exists_firstPlace_le hr
    refine ⟨j, mem_shadowed_iff.mpr ⟨rules[i], hr, hj, ?_⟩⟩
    by_contra hge
    obtain rfl : j = i := by omega
    exact hnever _ (Machine.selects_onTape hj)
  · obtain ⟨r, hr, hj, hlt⟩ := mem_shadowed_iff.mp hij
    obtain ⟨hi, rfl⟩ := List.getElem?_eq_some_iff.mp hr
    obtain ⟨_, htrigger, hfirst⟩ := firstPlace_eq_some_iff.mp hj
    refine ⟨hi, hlt, htrigger, hfirst, fun k hjk => ?_, fun m hstate hcell => ?_⟩
    · obtain ⟨r', hr', hk, hkj⟩ := mem_shadowed_iff.mp hjk
      rw [← (List.getElem?_eq_some_iff.mp hr').2, htrigger, hj] at hk
      cases hk
      omega
    · have hselects : m.Selects rules j :=
        Machine.selects_iff.mpr ⟨rules[i].read, hcell, by rw [hstate]; exact hj⟩
      exact ⟨hselects, (Machine.step_of_selects hselects).2⟩

/-- A second rule for the same state and symbol is never applied, and the first one is applied in
its place. -/
theorem shadowed_iff_never_selected_of_repeated_trigger :
    (∃ j, (1, j) ∈ shadowed [⟨"A", "0", "1", .right, "B"⟩, ⟨"A", "0", "0", .left, "C"⟩]) ∧
      (1, 0) ∈ shadowed [⟨"A", "0", "1", .right, "B"⟩, ⟨"A", "0", "0", .left, "C"⟩] ∧
      (∀ m : Machine,
        ¬ m.Selects [⟨"A", "0", "1", .right, "B"⟩, ⟨"A", "0", "0", .left, "C"⟩] 1) ∧
      (Machine.onTape ["1", "0"] .extend "A" (-1)).Selects
        [⟨"A", "0", "1", .right, "B"⟩, ⟨"A", "0", "0", .left, "C"⟩] 0 := by
  obtain ⟨hnever, hwinner, -, -⟩ :=
    shadowed_iff_never_selected [⟨"A", "0", "1", .right, "B"⟩, ⟨"A", "0", "0", .left, "C"⟩]
  have hmem : (1, 0) ∈ shadowed [⟨"A", "0", "1", .right, "B"⟩, ⟨"A", "0", "0", .left, "C"⟩] := by
    decide
  obtain ⟨_, _, -, -, -, hfires⟩ := hwinner 1 0 hmem
  exact ⟨⟨0, hmem⟩, hmem, (hnever 1 (by decide)).mp ⟨0, hmem⟩,
    (hfires (Machine.onTape ["1", "0"] .extend "A" (-1)) rfl rfl).1⟩

end TapeMachine
