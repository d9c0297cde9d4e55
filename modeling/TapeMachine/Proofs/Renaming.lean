/-
Symbols are labels: a run does not look inside them.

States and tape symbols can be given new names, independently of each other, as long
as different names stay different.  A machine with new names goes through the same run
as before: it applies the rules in the same places of its table, ends in the same way
with its head in the same place, and shows the same machines with new names.

* **`Run.firedPlaces`**, **`Machine.length_firedPlaces`** — the places of the rules that a run
  applied, one for each transition;
* **`Renaming`** — new names for states and for symbols;
* **`Renaming.choose_machine`** — the choice falls on the rule in the same place;
* **`Renaming.step_machine`**, **`Renaming.run_machine`** — so steps and runs go alike;
* **`Renaming.shadowed_map`** — the same rules are shadowed;
* **`Renaming.renamed_run_alike`** — all of this, for every table and every machine.
-/
import Mathlib.Logic.Equiv.Basic
import TapeMachine.Proofs.Resumption
import TapeMachine.Proofs.Shadowing

namespace TapeMachine

/-! ### The rules that a run applies -/

/-- The place of the rule that a step chooses, if it chooses one. -/
def Machine.chosenPlace (rules : List Rule) (m : Machine) : Option Nat :=
  match m.choose 0 rules with
  | .ok (some (place, _)) => some place
  | _ => none

/-- The place of the rule that a step chooses, if it makes a transition. -/
def Machine.firedPlace (rules : List Rule) (m : Machine) : Option Nat :=
  if (m.step rules).2 = .fired then m.chosenPlace rules else none

/-- The places of the rules that a run applied, in order. -/
def Run.firedPlaces (rules : List Rule) (r : Run) : List Nat :=
  r.visited.filterMap (Machine.firedPlace rules)

namespace Machine

variable {m m' : Machine} {rules : List Rule} {limit : Int} {rounds : Nat} {f : Fault}

theorem firedPlace_eq_none (h : (m.step rules).2 ≠ .fired) : m.firedPlace rules = none :=
  if_neg h

/-- A transition applies a rule, and that has a place. -/
theorem exists_firedPlace (h : (m.step rules).2 = .fired) :
    ∃ place, m.firedPlace rules = some place := by
  rw [firedPlace, if_pos h, chosenPlace]
  rw [step] at h
  rcases hchoose : m.choose 0 rules with f | _ | ⟨place, r⟩ <;> rw [hchoose] at h
  · cases h
  · cases h
  · exact ⟨place, rfl⟩

/-- A step that fails is not counted. -/
theorem steps_of_fault (h : m.step rules = (m', .fault f)) : m'.steps = m.steps := by
  cases step_cases h with
  | offTape => rfl
  | underflow => rfl

theorem length_firedPlaces_runFrom (rules : List Rule) (limit : Int) (rounds : Nat) (m : Machine) :
    m.steps + ((runFrom rules limit rounds m []).firedPlaces rules).length =
      (runFrom rules limit rounds m []).machine.steps := by
  induction rounds generalizing m with
  | zero => rfl
  | succ rounds ih =>
    rw [runFrom]
    rcases hstep : m.step rules with ⟨m', _ | _ | f⟩
    · have hnone : m.firedPlace rules = none := firedPlace_eq_none (by simp [hstep])
      obtain rfl := eq_of_idle hstep
      rw [turn_of_idle hstep]
      simp [Run.firedPlaces, hnone]
    · obtain ⟨-, hsteps⟩ := halted_and_steps_of_fired hstep
      obtain ⟨place, hplace⟩ := exists_firedPlace (congrArg Prod.snd hstep)
      rw [turn_of_fired hstep]
      by_cases hlimit : exceeds limit m'.steps = true
      · rw [if_pos hlimit]
        simp [Run.firedPlaces, hplace, hsteps]
      · -- The run goes on from `m'`, with one transition made.
        rw [if_neg hlimit]
        show m.steps + ((runFrom rules limit rounds m' [m]).firedPlaces rules).length =
          (runFrom rules limit rounds m' [m]).machine.steps
        have hrest := ih m'
        rw [runFrom_shown, Run.followedBy]
        simp only [Run.firedPlaces] at hrest ⊢
        rw [← hrest, hsteps, List.reverse_singleton, List.singleton_append,
          List.filterMap_cons_some hplace, List.length_cons]
        omega
    · have hnone : m.firedPlace rules = none := firedPlace_eq_none (by simp [hstep])
      rw [turn_of_fault hstep]
      simp [Run.firedPlaces, hnone, steps_of_fault hstep]

/-- The places are as many as the transitions of the run. -/
theorem length_firedPlaces (rules : List Rule) (limit : Int) (rounds : Nat) (m : Machine) :
    m.steps + ((m.run rounds rules limit).firedPlaces rules).length =
      (m.run rounds rules limit).machine.steps := by
  rw [run]
  split
  · rfl
  · exact length_firedPlaces_runFrom rules limit rounds m

end Machine

/-! ### New names -/

/-- New names for states and, independently, for tape symbols.  Different names stay different. -/
structure Renaming where
  state : String → String
  symbol : String → String
  state_injective : Function.Injective state
  symbol_injective : Function.Injective symbol

namespace Renaming

open Machine

variable (σ : Renaming) {m : Machine} {rules : List Rule}

/-- A rule with new names. -/
def rule (r : Rule) : Rule where
  state := σ.state r.state
  read := σ.symbol r.read
  write := σ.symbol r.write
  move := r.move
  next := σ.state r.next

/-- A machine with new names. -/
def machine (m : Machine) : Machine :=
  { m with
    state := σ.state m.state
    tape := m.tape.map σ.symbol
    blank := m.blank.map σ.symbol }

/-- A run with new names. -/
def run (r : Run) : Run where
  visited := r.visited.map σ.machine
  machine := σ.machine r.machine
  ending := r.ending

/-! ### One step -/

theorem machine_onTape (tape : List String) (policy : Overflow) (state : String) (head : Int) :
    σ.machine (onTape tape policy state head) =
      onTape (tape.map σ.symbol) policy (σ.state state) head := by
  simp [machine, onTape, List.getLast?_map]

/-- The head addresses the same cell. -/
theorem address_machine (m : Machine) : (σ.machine m).address = m.address := by
  simp [address, machine]

/-- The symbol read is the new name of the symbol that was there. -/
theorem cell_machine (m : Machine) : (σ.machine m).cell = m.cell.map σ.symbol := by
  rw [cell, cell, address_machine]
  rcases m.address with f | i
  · rfl
  · simp only [machine, List.getElem?_map]
    rcases m.tape[i]? with _ | symbol <;> rfl

/-- The choice falls on the rule in the same place. -/
theorem choose_machine (m : Machine) (place : Nat) (rules : List Rule) :
    (σ.machine m).choose place (rules.map σ.rule) =
      (m.choose place rules).map (Option.map (Prod.map id σ.rule)) := by
  induction rules generalizing place with
  | nil => rfl
  | cons r rest ih =>
    have hstate : (σ.rule r).state = (σ.machine m).state ↔ r.state = m.state :=
      σ.state_injective.eq_iff
    rw [List.map_cons, choose, choose, cell_machine]
    simp only [hstate]
    by_cases h : r.state = m.state
    · rw [if_pos h, if_pos h]
      rcases m.cell with f | symbol
      · rfl
      · have hread : (σ.rule r).read = σ.symbol symbol ↔ r.read = symbol :=
          σ.symbol_injective.eq_iff
        simp only [Except.map, hread]
        by_cases hsymbol : r.read = symbol
        · rw [if_pos hsymbol, if_pos hsymbol]
          rfl
        · rw [if_neg hsymbol, if_neg hsymbol]
          exact ih (place + 1)
    · rw [if_neg h, if_neg h]
      exact ih (place + 1)

theorem writeCell_machine (m : Machine) (symbol : String) :
    (σ.machine m).writeCell (σ.symbol symbol) = σ.machine (m.writeCell symbol) := by
  rw [writeCell, writeCell, address_machine]
  rcases m.address with f | i
  · rfl
  · simp [machine, List.map_set]

/-- The tape grows where it grew, by the new name of the blank. -/
theorem grownTape_machine (m : Machine) (head : Int) :
    (σ.machine m).grownTape head = (m.grownTape head).map σ.symbol := by
  rw [grownTape, grownTape]
  simp only [machine, List.length_map]
  split
  · rw [List.map_append]
    rcases m.blank with _ | symbol <;> rfl
  · rfl

theorem moveHead_machine (m : Machine) (move : Move) :
    (σ.machine m).moveHead move = (m.moveHead move).map σ.machine := by
  cases move with
  | left =>
    show (if m.head = 0 then none else _) = (if m.head = 0 then none else _ : Option Machine).map _
    by_cases h : m.head = 0
    · rw [if_pos h, if_pos h]
      rfl
    · rw [if_neg h, if_neg h]
      rfl
  | right =>
    simp only [moveHead, Option.map_some, grownTape_machine]
    rfl

/-- A rule does to the machine with new names what it did to the machine. -/
theorem fire_machine (m : Machine) (r : Rule) :
    (σ.machine m).fire (σ.rule r) = Prod.map σ.machine id (m.fire r) := by
  have hwrite : (σ.machine m).writeCell (σ.rule r).write = σ.machine (m.writeCell r.write) :=
    σ.writeCell_machine m r.write
  have hmove : (σ.machine (m.writeCell r.write)).moveHead (σ.rule r).move =
      ((m.writeCell r.write).moveHead r.move).map σ.machine :=
    σ.moveHead_machine (m.writeCell r.write) r.move
  rw [fire, fire, hwrite]
  simp only [hmove]
  rcases (m.writeCell r.write).moveHead r.move with _ | moved
  · rfl
  · rfl

/-- **A step goes alike under new names.** -/
theorem step_machine (m : Machine) (rules : List Rule) :
    (σ.machine m).step (rules.map σ.rule) = Prod.map σ.machine id (m.step rules) := by
  rw [step, step, choose_machine]
  rcases m.choose 0 rules with f | _ | ⟨place, r⟩
  · rfl
  · rfl
  · exact σ.fire_machine m r

/-! ### Runs -/

/-- The result of a round with new names. -/
def turn : Turn → Turn
  | .goOn m => .goOn (σ.machine m)
  | .stop m e => .stop (σ.machine m) e

theorem turn_machine (m : Machine) (rules : List Rule) (limit : Int) :
    (σ.machine m).turn (rules.map σ.rule) limit = σ.turn (m.turn rules limit) := by
  have hrenamed := σ.step_machine m rules
  rcases hstep : m.step rules with ⟨m', _ | _ | f⟩ <;> rw [hstep] at hrenamed
  · rw [turn_of_idle hstep, turn_of_idle hrenamed]
    rfl
  · rw [turn_of_fired hstep, turn_of_fired hrenamed]
    -- The count of steps, and so the comparison with the limit, is the same.
    show (if exceeds limit m'.steps then _ else _) =
      σ.turn (if exceeds limit m'.steps then _ else _)
    split <;> rfl
  · rw [turn_of_fault hstep, turn_of_fault hrenamed]
    rfl

theorem runFrom_machine (rules : List Rule) (limit : Int) (rounds : Nat) (m : Machine)
    (shown : List Machine) :
    runFrom (rules.map σ.rule) limit rounds (σ.machine m) (shown.map σ.machine) =
      σ.run (runFrom rules limit rounds m shown) := by
  induction rounds generalizing m shown with
  | zero => simp [runFrom, run]
  | succ rounds ih =>
    rw [runFrom, runFrom, turn_machine]
    rcases m.turn rules limit with m' | ⟨m', e⟩
    · exact ih m' (m :: shown)
    · simp [turn, run]

/-- **A run goes alike under new names.** -/
theorem run_machine (m : Machine) (rounds : Nat) (rules : List Rule) (limit : Int) :
    (σ.machine m).run rounds (rules.map σ.rule) limit = σ.run (m.run rounds rules limit) := by
  rw [Machine.run, Machine.run]
  show (if m.halted then _ else _) = _
  split
  · rfl
  · exact σ.runFrom_machine rules limit rounds m []

theorem chosenPlace_machine (m : Machine) (rules : List Rule) :
    (σ.machine m).chosenPlace (rules.map σ.rule) = m.chosenPlace rules := by
  rw [chosenPlace, chosenPlace, choose_machine]
  rcases m.choose 0 rules with f | _ | ⟨place, r⟩ <;> rfl

theorem firedPlace_machine (m : Machine) (rules : List Rule) :
    (σ.machine m).firedPlace (rules.map σ.rule) = m.firedPlace rules := by
  rw [firedPlace, firedPlace, chosenPlace_machine, step_machine]
  rfl

theorem firedPlaces_run (rules : List Rule) (r : Run) :
    (σ.run r).firedPlaces (rules.map σ.rule) = r.firedPlaces rules := by
  show (r.visited.map σ.machine).filterMap (firedPlace (rules.map σ.rule)) = _
  rw [List.filterMap_map]
  exact List.filterMap_congr fun m _ => σ.firedPlace_machine m rules

/-! ### Shadowed rules -/

theorem trigger_rule_eq_iff (r s : Rule) :
    (σ.rule r).trigger = (σ.rule s).trigger ↔ r.trigger = s.trigger := by
  simp only [Rule.trigger, rule, Prod.mk.injEq, σ.state_injective.eq_iff,
    σ.symbol_injective.eq_iff]

theorem firstPlace_map (rules : List Rule) (r : Rule) :
    firstPlace (rules.map σ.rule) (σ.rule r).trigger = firstPlace rules r.trigger := by
  rw [firstPlace, firstPlace, List.findIdx?_map]
  simp only [Function.comp_def, trigger_rule_eq_iff]

/-- **The same rules are shadowed, by the same ones.** -/
theorem shadowed_map (rules : List Rule) : shadowed (rules.map σ.rule) = shadowed rules := by
  rw [shadowed_eq, shadowed_eq, List.zipIdx_map, List.filterMap_map]
  refine List.filterMap_congr fun p _ => ?_
  simp only [Function.comp_apply, Prod.map, winner?, firstPlace_map, id]

/-- **Symbols are labels.**  A machine that is set up with new names goes through the same steps and
runs as before, with new names.  A step ends in the same way, and so does a run, with the same
failure if it fails.  The machines at the end and on the way have their heads in the same places,
the same counts of steps, the same marks and tapes of the same length, as new names leave these
alone.  The rules chosen and the rules applied, one for each transition, are those in the same
places of the table, in the same order, and the same rules are shadowed. -/
theorem renamed_run_alike (rules : List Rule) :
    (∀ tape policy state head, onTape (tape.map σ.symbol) policy (σ.state state) head =
      σ.machine (onTape tape policy state head)) ∧
    (∀ m : Machine,
      (σ.machine m).step (rules.map σ.rule) = (σ.machine (m.step rules).1, (m.step rules).2)) ∧
    (∀ (m : Machine) (limit : Int) (rounds : Nat),
      let r := m.run rounds rules limit
      let r' := (σ.machine m).run rounds (rules.map σ.rule) limit
      r'.ending = r.ending ∧ r'.result limit = r.result limit ∧
        r'.machine = σ.machine r.machine ∧ r'.visited = r.visited.map σ.machine ∧
        r'.visited.map (chosenPlace (rules.map σ.rule)) = r.visited.map (chosenPlace rules) ∧
        r'.firedPlaces (rules.map σ.rule) = r.firedPlaces rules ∧
        m.steps + (r.firedPlaces rules).length = r.machine.steps) ∧
    shadowed (rules.map σ.rule) = shadowed rules := by
  refine ⟨fun tape policy state head => (σ.machine_onTape tape policy state head).symm,
    fun m => σ.step_machine m rules, fun m limit rounds => ?_, σ.shadowed_map rules⟩
  have hchosen : ∀ m : Machine, (σ.machine m).chosenPlace (rules.map σ.rule) =
      m.chosenPlace rules := fun m => σ.chosenPlace_machine m rules
  rw [run_machine]
  refine ⟨rfl, rfl, rfl, rfl, ?_, σ.firedPlaces_run rules _,
    length_firedPlaces rules limit rounds m⟩
  simp [run, hchosen]

/-- The start gets the name of a symbol, and two symbols change their names.  The second rule is
shadowed before and after. -/
theorem renamed_run_alike_of_swapped_symbols :
    ∃ σ : Renaming, σ.state "Inc" = "0" ∧ σ.symbol "0" = "1" ∧
      (((onTape ["1", "1"] .error "0").run 2
          [⟨"0", "1", "0", .right, "B"⟩, ⟨"0", "1", "1", .left, "B"⟩] 0).firedPlaces
        [⟨"0", "1", "0", .right, "B"⟩, ⟨"0", "1", "1", .left, "B"⟩] = [0]) ∧
      shadowed [⟨"0", "1", "0", .right, "B"⟩, ⟨"0", "1", "1", .left, "B"⟩] = [(1, 0)] := by
  let σ : Renaming :=
    ⟨Equiv.swap "Inc" "0", Equiv.swap "0" "1", Equiv.injective _, Equiv.injective _⟩
  let rules : List Rule := [⟨"Inc", "0", "1", .right, "B"⟩, ⟨"Inc", "0", "0", .left, "B"⟩]
  obtain ⟨honTape, -, hrun, hshadowed⟩ := renamed_run_alike σ rules
  obtain ⟨-, -, -, -, -, hfired, -⟩ := hrun (onTape ["0", "0"] .error) 0 2
  rw [← honTape] at hfired
  exact ⟨σ, by decide, by decide, hfired, hshadowed⟩

end Renaming

end TapeMachine
