/-
A tape that grows stands for one without an end.

Under the policy `extend` a machine adds a cell with the last symbol of its first
tape whenever its head moves past the last cell.  So the tape is at every moment
the part that has been needed so far of an endless tape, on which that symbol
stands in all cells from the first tape's last one on.

* **`EndlessMachine`** — a machine on an endless tape, with the same first-match rules;
* **`EndlessMachine.Represents`** — a machine that holds the first cells of an endless tape,
  its head among them, while the default stands in all the others;
* **`EndlessMachine.represents_step`** — a step on one and on the other go alike;
* **`EndlessMachine.represents_after`** — so do their courses, of any length.

Design notes:

* The length of the tape depends on the course and not on its last configuration
  alone: it is that of the first tape, or takes in the farthest cell that the head
  has been on.
-/
import Mathlib.Logic.Function.Basic
import TapeMachine.Machine.Setup
import TapeMachine.Proofs.Course
import TapeMachine.Proofs.Transition

namespace TapeMachine

open Course

/-- A machine on a tape without an end. -/
structure EndlessMachine where
  state : String
  cells : Nat → String
  head : Nat

namespace EndlessMachine

/-- The machine at the left end of a tape whose last symbol is repeated for ever. -/
def onTape (tape : List String) (h : tape ≠ []) : EndlessMachine :=
  { state := Machine.startState, cells := fun i => tape.getD i (tape.getLast h), head := 0 }

/-- The effect of one rule.  There is no cell to the left of the first one, and the symbol is
written before that is found out. -/
def fire (d : EndlessMachine) (r : Rule) : EndlessMachine × Outcome :=
  let written := Function.update d.cells d.head r.write
  match r.move with
  | .left =>
    if d.head = 0 then ({ d with cells := written }, .fault .underflow)
    else ({ state := r.next, cells := written, head := d.head - 1 }, .fired)
  | .right => ({ state := r.next, cells := written, head := d.head + 1 }, .fired)

/-- One step with a table of rules. -/
def step (d : EndlessMachine) (rules : List Rule) : EndlessMachine × Outcome :=
  match firstRule rules d.state (d.cells d.head) with
  | none => (d, .idle)
  | some r => d.fire r

/-- The farthest cell that the head stands on in a row of configurations. -/
def farthest (visited : List EndlessMachine) : Nat :=
  visited.foldl (fun far d => max far d.head) 0

theorem farthest_append (visited : List EndlessMachine) (d : EndlessMachine) :
    farthest (visited ++ [d]) = max (farthest visited) d.head := by
  rw [farthest, List.foldl_append]
  rfl

/-- A machine whose tape grows on demand holds the beginning of an endless tape, on which `last`
stands in every other cell. -/
structure Represents (last : String) (m : Machine) (d : EndlessMachine) : Prop where
  state_eq : m.state = d.state
  head_eq : m.head = d.head
  head_lt : d.head < m.tape.length
  cells_eq : ∀ i, m.tape.getD i last = d.cells i
  policy_eq : m.policy = .extend
  blank_eq : m.blank = some last

variable {m c : Machine} {d : EndlessMachine} {rules : List Rule} {last : String} {k : Nat}

theorem Represents.address (h : Represents last m d) : m.address = .ok d.head := by
  have hhead := h.head_eq
  have hlt := h.head_lt
  rw [Machine.address_of_inside ⟨by omega, by omega⟩, hhead]
  rfl

theorem Represents.cell (h : Represents last m d) : m.cell = .ok (d.cells d.head) := by
  have hhead := h.head_eq
  have hlt := h.head_lt
  refine Machine.cell_of_inside ⟨by omega, by omega⟩ ?_
  rw [hhead, Int.toNat_natCast, ← h.cells_eq, List.getD_eq_getElem?_getD,
    List.getElem?_eq_getElem hlt, Option.getD_some]

/-! ### One step -/

/-- A symbol is written in the same place of both tapes. -/
theorem Represents.written (h : Represents last m d) (symbol : String) :
    Represents last (m.written d.head symbol)
      { d with cells := Function.update d.cells d.head symbol } := by
  have hlt := h.head_lt
  refine ⟨h.state_eq, h.head_eq, ?_, fun i => ?_, h.policy_eq, h.blank_eq⟩
  · rw [Machine.length_tape_written]
    exact hlt
  · show (m.tape.set d.head symbol).getD i last = Function.update d.cells d.head symbol i
    rw [List.getD_eq_getElem?_getD, List.getElem?_set]
    by_cases hi : d.head = i
    · subst hi
      rw [if_pos rfl, if_pos hlt, Function.update_self, Option.getD_some]
    · rw [if_neg hi, Function.update_of_ne (Ne.symm hi), ← h.cells_eq, List.getD_eq_getElem?_getD]

theorem Represents.wentLeft (h : Represents last m d) (hne : d.head ≠ 0) (next : String) :
    Represents last (m.wentLeft next) { d with state := next, head := d.head - 1 } := by
  have hhead := h.head_eq
  have hlt := h.head_lt
  refine ⟨rfl, ?_, ?_, h.cells_eq, h.policy_eq, h.blank_eq⟩
  · show m.head - 1 = ((d.head - 1 : Nat) : Int)
    omega
  · show d.head - 1 < m.tape.length
    omega

/-- A cell added to the end holds what stands there on the endless tape. -/
theorem getD_append_last (tape : List String) (last : String) (i : Nat) :
    (tape ++ [last]).getD i last = tape.getD i last := by
  rw [List.getD_eq_getElem?_getD, List.getD_eq_getElem?_getD]
  rcases Nat.lt_trichotomy i tape.length with hi | hi | hi
  · rw [List.getElem?_append_left hi]
  · rw [hi, List.getElem?_concat_length, List.getElem?_eq_none (Nat.le_refl _)]
    rfl
  · rw [List.getElem?_eq_none (by simp; omega), List.getElem?_eq_none (by omega)]

/-- After a move to the right the head is on a cell again, and the tape is as long as that takes. -/
theorem Represents.wentRight (h : Represents last m d) (next : String) :
    Represents last (m.wentRight next) { d with state := next, head := d.head + 1 } ∧
      (m.wentRight next).tape.length = max m.tape.length (1 + (d.head + 1)) := by
  have hhead := h.head_eq
  have hlt := h.head_lt
  -- The tape grows exactly if the head has left it.
  have hgrown : (m.wentRight next).tape =
      if d.head + 1 = m.tape.length then m.tape ++ [last] else m.tape := by
    rw [Machine.wentRight, Machine.grownTape, h.policy_eq, h.blank_eq, Option.toList_some]
    by_cases hend : d.head + 1 = m.tape.length
    · rw [if_pos ⟨rfl, by omega⟩, if_pos hend]
    · rw [if_neg fun hn => hend (by omega), if_neg hend]
  have hlength : (m.wentRight next).tape.length = max m.tape.length (1 + (d.head + 1)) := by
    rw [hgrown]
    split
    · rw [List.length_append, List.length_singleton]
      omega
    · omega
  refine ⟨⟨rfl, ?_, ?_, fun i => ?_, h.policy_eq, h.blank_eq⟩, hlength⟩
  · show m.head + 1 = ((d.head + 1 : Nat) : Int)
    omega
  · rw [hlength]
    show d.head + 1 < max m.tape.length (1 + (d.head + 1))
    omega
  · rw [hgrown, ← h.cells_eq]
    split
    · exact getD_append_last m.tape last i
    · rfl

/-- A step on the list and on the endless tape go alike, and the list grows as far as the head has
come. -/
theorem represents_step (h : Represents last m d) (rules : List Rule) :
    (m.step rules).2 = (d.step rules).2 ∧ Represents last (m.step rules).1 (d.step rules).1 ∧
      (m.step rules).1.tape.length = max m.tape.length (1 + (d.step rules).1.head) := by
  have hhead := h.head_eq
  have hlt := h.head_lt
  have hselected : m.selected rules = firstRule rules d.state (d.cells d.head) := by
    rw [Machine.selected_of_cell h.cell, h.state_eq]
  rw [step, ← hselected]
  rcases hstep : m.step rules with ⟨m', o⟩
  cases Machine.step_cases hstep with
  | idle hnone =>
    rw [hnone]
    exact ⟨rfl, h, by simp only; omega⟩
  | offTape hcell =>
    rw [h.cell] at hcell
    cases hcell
  | @underflow i r hi hr hmove hzero =>
    -- The write survives the failure, and the head stays on the first cell.
    cases h.address.symm.trans hi
    have hd : d.head = 0 := by omega
    simp only [hr, fire, hmove, if_pos hd, Machine.length_tape_written]
    exact ⟨trivial, h.written r.write, by omega⟩
  | @left i r hi hr hmove hne =>
    cases h.address.symm.trans hi
    have hd : d.head ≠ 0 := by omega
    simp only [hr, fire, hmove, if_neg hd]
    refine ⟨trivial, (h.written r.write).wentLeft hd r.next, ?_⟩
    show (m.written d.head r.write).tape.length = max m.tape.length (1 + (d.head - 1))
    rw [Machine.length_tape_written]
    omega
  | @right i r hi hr hmove =>
    cases h.address.symm.trans hi
    simp only [hr, fire, hmove]
    obtain ⟨hright, hlength⟩ := (h.written r.write).wentRight r.next
    rw [Machine.length_tape_written] at hlength
    exact ⟨trivial, hright, hlength⟩

/-! ### Courses -/

/-- After any number of transitions the list still stands for the endless tape. -/
theorem represents_after (h : Represents last m d) (rules : List Rule) (k : Nat) :
    Option.Rel (Represents last) (after (Machine.step · rules) k m)
      (after (EndlessMachine.step · rules) k d) :=
  after_lockstep (R := Represents last)
    (fun _ _ hmd => ⟨(represents_step hmd rules).1, fun _ => (represents_step hmd rules).2.1⟩) k h

/-- The list is as long as it was at first, or reaches to the farthest cell visited. -/
theorem length_after (h : Represents last m d) (hc : after (Machine.step · rules) k m = some c) :
    c.tape.length =
      max m.tape.length (1 + farthest (visits (EndlessMachine.step · rules) (k + 1) d)) := by
  induction k generalizing c with
  | zero =>
    cases hc
    have hlt := h.head_lt
    have hstart : farthest (visits (EndlessMachine.step · rules) (0 + 1) d) = d.head :=
      Nat.zero_max _
    omega
  | succ k ih =>
    -- The endless machine makes the same last transition, from `e`.
    obtain ⟨u, hu, hstep⟩ := after_succ_eq_some_last.mp hc
    have hrel := represents_after h rules k
    rw [hu] at hrel
    rcases he : after (EndlessMachine.step · rules) k d with _ | e <;> rw [he] at hrel
    · cases hrel
    · obtain ⟨houtcome, -, hlength⟩ := represents_step (Option.rel_some_some.mp hrel) rules
      rw [hstep] at houtcome hlength
      have hnext : after (EndlessMachine.step · rules) (k + 1) d = some (e.step rules).1 :=
        after_succ_eq_some_last.mpr ⟨e, he, Prod.ext rfl houtcome.symm⟩
      rw [visits_succ hnext, farthest_append, hlength, ih hu]
      omega

theorem represents_onTape (tape : List String) (h : tape ≠ []) :
    Represents (tape.getLast h) (Machine.onTape tape .extend) (onTape tape h) where
  state_eq := rfl
  head_eq := rfl
  head_lt := List.length_pos_iff.mpr h
  cells_eq _ := rfl
  policy_eq := rfl
  blank_eq := List.getLast?_eq_some_getLast h

/-- **A tape that grows on demand stands for an endless one.**  After any number of transitions the
list machine and the endless one are in the same state, on the same cell of the same tape, and the
list has exactly the cells of the first tape and those up to the farthest one visited.  Their next
steps go alike, in what they leave behind too.  So both halt, or fail to the left of the first cell,
after the same number of transitions, and the list machine does not fail in any other way. -/
theorem growing_tape_represents_endless (tape : List String) (h : tape ≠ []) (rules : List Rule) :
    ∃ m, Machine.ofTape tape .extend = .ok m ∧ ∀ k,
      Option.Rel
        (fun c d => Represents (tape.getLast h) c d ∧
          c.tape.length = max tape.length
            (1 + farthest (visits (EndlessMachine.step · rules) (k + 1) (onTape tape h))) ∧
          (c.step rules).2 = (d.step rules).2 ∧
          Represents (tape.getLast h) (c.step rules).1 (d.step rules).1)
        (after (Machine.step · rules) k m)
        (after (EndlessMachine.step · rules) k (onTape tape h)) ∧
      (∀ o, (∃ c, after (Machine.step · rules) k m = some c ∧ (c.step rules).2 = o) ↔
        ∃ d, after (EndlessMachine.step · rules) k (onTape tape h) = some d ∧
          (d.step rules).2 = o) ∧
      ∀ c f, after (Machine.step · rules) k m = some c → (c.step rules).2 = .fault f →
        f = .underflow := by
  have hstart := represents_onTape tape h
  refine ⟨Machine.onTape tape .extend, if_neg h, fun k => ?_⟩
  have hrel := represents_after hstart rules k
  rcases hc : after (Machine.step · rules) k (Machine.onTape tape .extend) with _ | c <;>
    rcases hd : after (EndlessMachine.step · rules) k (onTape tape h) with _ | d <;>
    rw [hc, hd] at hrel
  · exact ⟨.none, fun o => by simp, fun c f hn => by cases hn⟩
  · cases hrel
  · cases hrel
  · have hcd := Option.rel_some_some.mp hrel
    obtain ⟨houtcome, hnext, -⟩ := represents_step hcd rules
    refine ⟨.some ⟨hcd, length_after hstart hc, houtcome, hnext⟩, fun o => ?_, fun c' f hc' hf => ?_⟩
    · simp [houtcome]
    · cases hc'
      exact Machine.eq_underflow_of_cell hcd.cell (Prod.ext rfl hf)

/-- Three moves to the right from the first of two cells take the list to four cells. -/
theorem growing_tape_represents_endless_of_moves_right :
    ["a", "b"] ≠ [] ∧ ∃ m, Machine.ofTape ["a", "b"] .extend = .ok m ∧ ∃ c d,
      after (Machine.step · [⟨"Inc", "a", "x", .right, "Inc"⟩, ⟨"Inc", "b", "y", .right, "Inc"⟩])
        3 m = some c ∧ Represents "b" c d ∧ c.tape.length = 4 := by
  refine ⟨by decide, ?_⟩
  obtain ⟨m, hm, h⟩ := growing_tape_represents_endless ["a", "b"] (by decide)
    [⟨"Inc", "a", "x", .right, "Inc"⟩, ⟨"Inc", "b", "y", .right, "Inc"⟩]
  cases hm
  obtain ⟨hrepresents, hlength, -⟩ := Option.rel_some_some.mp (h 3).1
  exact ⟨_, rfl, _, _, rfl, hrepresents, hlength⟩

end EndlessMachine

end TapeMachine
