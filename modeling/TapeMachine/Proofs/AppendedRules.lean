/-
More rules at the end of a table.

Of the rules for a state and a symbol the first one counts, so rules that are put behind a
table come into play only where none of the table matches.  A run with the longer table
therefore goes the same way until the shorter one would halt, and if that never happens it is
the same run.  Of a text that spells the longer table it is enough to know that a line feed
keeps the two parts apart.

* **`firstRule_append`**, **`Machine.selected_append`** — the rule that counts, in two tables one
  behind the other;
* **`Machine.Transition.append`**, **`Machine.Transition.prepend`** — the second table takes over
  where the first one leaves a machine idle, and nowhere else;
* **`Machine.Sequel`** — what can become of a machine that has halted, if more rules are there;
* **`run_of_appended_rules`** — the texts, the tables and the runs.
-/
import TapeMachine.Proofs.ProgramText
import TapeMachine.Proofs.Reachable
import TapeMachine.Proofs.SideBySide
import TapeMachine.Proofs.TokenRuns

namespace TapeMachine

open Course

variable {m c : Machine} {rules more : List Rule} {limit : Int} {k rounds : Nat}

/-! ### The text -/

/-- Two rule tables in one text, with a line feed in between. -/
theorem readProgram_append {p q : String} (hp : readProgram p = .ok rules)
    (hq : readProgram q = .ok more) : readProgram (p ++ "\n" ++ q) = .ok (rules ++ more) := by
  rw [readProgram_eq_ok_iff_tokenize] at hp hq ⊢
  have hseparator := tokenize_separator_between p q (c := '\n') rfl
  rw [hp, hq, ← List.flatMap_append] at hseparator
  exact hseparator

/-! ### One step -/

theorem firstRule_append (rules more : List Rule) (state symbol : String) :
    firstRule (rules ++ more) state symbol =
      (firstRule rules state symbol).or (firstRule more state symbol) :=
  List.find?_append

namespace Machine

theorem selected_append (m : Machine) (rules more : List Rule) :
    m.selected (rules ++ more) = (m.selected rules).or (m.selected more) := by
  rcases hcell : m.cell with f | symbol
  · rw [selected_of_no_cell hcell, selected_of_no_cell hcell, selected_of_no_cell hcell]
    rfl
  · rw [selected_of_cell hcell, selected_of_cell hcell, selected_of_cell hcell, firstRule_append]

/-- What a step does that is not idle, it does with more rules. -/
theorem Transition.append {x : Machine × Outcome} (h : Transition m rules x) (hx : x.2 ≠ .idle)
    (more : List Rule) : Transition m (rules ++ more) x := by
  have hselected : ∀ {r}, m.selected rules = some r → m.selected (rules ++ more) = some r := by
    intro r hr
    rw [selected_append, hr]
    rfl
  cases h with
  | idle => exact absurd rfl hx
  | offTape hcell hr hstate => exact .offTape hcell (List.mem_append_left more hr) hstate
  | underflow hi hr hmove hhead => exact .underflow hi (hselected hr) hmove hhead
  | left hi hr hmove hhead => exact .left hi (hselected hr) hmove hhead
  | right hi hr hmove => exact .right hi (hselected hr) hmove

theorem selected_append_of_idle (h : (m.step rules).2 = .idle) (more : List Rule) :
    m.selected (rules ++ more) = m.selected more := by
  rw [selected_append, (none_of_idle h).1]
  rfl

/-- Where no rule matches, what a step does with the rules behind, it does with all of them. -/
theorem Transition.prepend {x : Machine × Outcome} (h : Transition m more x)
    (hidle : (m.step rules).2 = .idle) : Transition m (rules ++ more) x := by
  have hselected := selected_append_of_idle hidle more
  cases h with
  | idle hnone' hoff' =>
    refine .idle (hselected.trans hnone') fun f hf r hr => ?_
    rcases List.mem_append.mp hr with hold | hnew
    · exact (none_of_idle hidle).2 f hf r hold
    · exact hoff' f hf r hnew
  | offTape hcell hr hstate => exact .offTape hcell (List.mem_append_right rules hr) hstate
  | underflow hi hr hmove hhead => exact .underflow hi (hselected.trans hr) hmove hhead
  | left hi hr hmove hhead => exact .left hi (hselected.trans hr) hmove hhead
  | right hi hr hmove => exact .right hi (hselected.trans hr) hmove

/-- As long as some rule is applied or a step fails, more rules make no difference. -/
theorem stepsAlike_append (rules more : List Rule) :
    StepsAlike rules (rules ++ more) (· ≠ .idle) Eq :=
  .of_step_eq Outcome.noConfusion fun m hm => ((transition_step m rules).append hm more).step_eq

/-! ### Runs -/

/-- What can become of a machine that has halted in `c` with `rules`, if there are `more` rules. -/
inductive Sequel (rules more : List Rule) (c : Machine) (r : Run) : Run → Prop
  /-- Nothing else. -/
  | same : Sequel rules more c r r
  /-- One of the new rules is applied, if only to fail at the left end of the tape. -/
  | fires {r' : Run} {rule : Rule} (hrule : rule ∈ more)
      (hselected : c.selected (rules ++ more) = some rule)
      (hstep : c.step (rules ++ more) = c.fire rule) : Sequel rules more c r r'
  /-- One of the new rules is for the state and needs the cell, and there is none. -/
  | overflows {rule : Rule} (hrule : rule ∈ more) (hstate : rule.state = c.state)
      (hhead : c.tape.length ≤ c.head) :
      Sequel rules more c r { r with ending := .fault (.overflow c.head) }

/-- Where no rule matches, a run with more rules is a sequel. -/
theorem sequel_of_idle (hm : m.halted = false) (hc : after (Machine.step · rules) k m = some c)
    (hidle : c.step rules = (c, .idle)) (hl : limit = 0 ∨ k < m.turnsWithin limit)
    (hk : k < rounds) (hhead : 0 ≤ c.head) (more : List Rule) :
    Sequel rules more c
      ⟨visits (Machine.step · rules) (k + 1) m, { c with halted := true }, .halted⟩
      (m.run rounds (rules ++ more) limit) := by
  have halike := stepsAlike_append rules more
  obtain ⟨_, hc', rfl⟩ := halike.after rfl hc
  have hvisits := halike.visits_eq hc
  have hidle' : (c.step rules).2 = .idle := by rw [hidle]
  rcases hstep : c.step more with ⟨c', o⟩
  have hall := ((step_cases hstep).prepend hidle').step_eq
  have hselected := selected_append_of_idle hidle' more
  cases step_cases hstep with
  | idle =>
    rw [run_of_idle hm hc' hall hl hk, hvisits]
    exact .same
  | offTape hcell hr hstate =>
    obtain rfl := eq_overflow_of_no_cell hcell hhead
    rw [run_of_fault hm hc' hall hl hk, hvisits]
    refine .overflows hr hstate ?_
    by_contra hlt
    obtain ⟨symbol, -, hsymbol⟩ := exists_cell_of_inside ⟨hhead, by omega⟩
    cases hcell.symm.trans hsymbol
  | underflow _ hr | left _ hr | right _ hr =>
    exact .fires (mem_of_selected hr) (hselected.trans hr) (step_of_selected (hselected.trans hr))

/-- A run that does not halt is the same with more rules. -/
theorem run_append (hm : m.halted = false) (rules more : List Rule) (limit : Int) (rounds : Nat)
    (hend : (m.run rounds rules limit).ending ≠ .halted) :
    m.run rounds (rules ++ more) limit = m.run rounds rules limit :=
  (stepsAlike_append rules more).run_eq hm (mt Ending.lastOutcome_eq_idle_iff.mp hend)

/-- With more rules, a run makes no fewer transitions. -/
theorem steps_le_append (hm : m.halted = false) (rules more : List Rule) (limit : Int)
    (rounds : Nat) : (m.run rounds rules limit).machine.steps ≤
      (m.run rounds (rules ++ more) limit).machine.steps := by
  have hrun := passage_run hm rules limit rounds
  have hsame := run_append hm rules more limit rounds
  have hshown := ((stepsAlike_append rules more).prefix_visited hm limit rounds).length_le
  have hmost := length_visited_le hm (rules ++ more) limit rounds
  generalize m.run rounds rules limit = r at hrun hsame hshown ⊢
  cases hrun with
  | @idle k c hc =>
    -- All configurations up to `c` are shown.
    have hlength : (visits (Machine.step · rules) (k + 1) m).length = k + 1 := by
      rw [visits_succ hc, List.length_append, length_visits hc, List.length_singleton]
    show c.steps ≤ _
    rw [steps_after hc]
    change (visits (Machine.step · rules) (k + 1) m).length ≤ _ at hshown
    omega
  | fault | cut | abandoned =>
    exact Nat.le_of_eq (congrArg (·.machine.steps) (hsame Ending.noConfusion).symm)

/-- A run that halts does so in a configuration where its sequels start. -/
theorem exists_sequel (hm : m.halted = false) (hsteps : m.steps = 0)
    (hhead : ∀ {k c}, after (Machine.step · rules) k m = some c → 0 ≤ c.head) (more : List Rule)
    (hend : (m.run rounds rules limit).ending = .halted) :
    ∃ c, after (Machine.step · rules) (m.run rounds rules limit).machine.steps m = some c ∧
      c.step rules = (c, .idle) ∧
      (m.run rounds rules limit).machine = { c with halted := true } ∧
      Sequel rules more c (m.run rounds rules limit) (m.run rounds (rules ++ more) limit) := by
  have hrun := passage_run hm rules limit rounds
  generalize m.run rounds rules limit = r at hrun hend ⊢
  cases hrun with
  | @idle k c hc hidle hl hk =>
    have hcount : c.steps = k := by rw [steps_after hc, hsteps, Nat.zero_add]
    refine ⟨c, ?_, hidle, rfl, sequel_of_idle hm hc hidle hl hk (hhead hc) more⟩
    show after (Machine.step · rules) c.steps m = some c
    rw [hcount, hc]
  | fault | cut | abandoned => cases hend

end Machine

/-- **Rules appended to a program are of no account until the program halts.**  The text of two
programs with a line feed in between has the rules of both.  Of a run with the rules of the first
one, the configurations come again in the run with all of them, and are shown again.  If the first
run fails or is cut short by the limit, the other one is the same, and if it halts, it is the same
or goes on from there as a sequel. -/
theorem run_of_appended_rules {p q : String} (hp : readProgram p = .ok rules)
    (hq : readProgram q = .ok more) :
    readProgram (p ++ "\n" ++ q) = .ok (rules ++ more) ∧
      ∀ (tape : List String) (policy : Overflow) (limit : Int), tape ≠ [] →
        ∃ m, Machine.ofTape tape policy = .ok m ∧ ∀ rounds r r',
          m.run rounds rules limit = r → m.run rounds (rules ++ more) limit = r' →
            (∀ j ≤ r.machine.steps, ∃ c, after (Machine.step · rules) j m = some c ∧
              after (Machine.step · (rules ++ more)) j m = some c) ∧
            r.machine.steps ≤ r'.machine.steps ∧ r.visited <+: r'.visited ∧
            (r.ending ≠ .halted → r' = r) ∧
            (r.ending = .halted → ∃ c, after (Machine.step · rules) r.machine.steps m = some c ∧
              c.step rules = (c, .idle) ∧ r.machine = { c with halted := true } ∧
              Machine.Sequel rules more c r r') := by
  refine ⟨readProgram_append hp hq, fun tape policy limit htape => ?_⟩
  refine ⟨Machine.onTape tape policy, if_neg htape, ?_⟩
  rintro rounds r r' rfl rfl
  have hready : (Machine.onTape tape policy).halted = false := rfl
  obtain ⟨c, hc, -, -⟩ := Machine.exists_after_run hready rfl rules limit rounds
  refine ⟨fun j hj => ?_, Machine.steps_le_append hready rules more limit rounds,
    (Machine.stepsAlike_append rules more).prefix_visited hready limit rounds,
    Machine.run_append hready rules more limit rounds,
    Machine.exists_sequel hready rfl (fun hu => ?_) more⟩
  · obtain ⟨u, hu⟩ := exists_after_of_le hc hj
    obtain ⟨_, hu', rfl⟩ := (Machine.stepsAlike_append rules more).after rfl hu
    exact ⟨u, hu, hu'⟩
  · have hstart := (Machine.wellFormed_onTape htape policy).mono (List.nil_subset rules)
    exact (hstart.after htape hu).head_nonneg

/-- A program that halts past the end of the tape fails there once a rule for its state is
appended. -/
theorem run_of_appended_rules_of_halt_past_end :
    readProgram ("Inc a b -> Out" ++ "\n" ++ "Out a c <- Inc") =
        .ok [⟨"Inc", "a", "b", .right, "Out"⟩, ⟨"Out", "a", "c", .left, "Inc"⟩] ∧
      ∃ m r r', Machine.ofTape ["a"] .error = .ok m ∧
        m.run 5 [⟨"Inc", "a", "b", .right, "Out"⟩] 0 = r ∧
        m.run 5 [⟨"Inc", "a", "b", .right, "Out"⟩, ⟨"Out", "a", "c", .left, "Inc"⟩] 0 = r' ∧
        r.ending = .halted ∧ r'.ending = .fault (.overflow 1) ∧ r.visited <+: r'.visited := by
  have hp : readProgram "Inc a b -> Out" = .ok [⟨"Inc", "a", "b", .right, "Out"⟩] :=
    readProgram_eq_ok_iff_tokenize.mpr (by decide +kernel)
  have hq : readProgram "Out a c <- Inc" = .ok [⟨"Out", "a", "c", .left, "Inc"⟩] :=
    readProgram_eq_ok_iff_tokenize.mpr (by decide +kernel)
  obtain ⟨htext, hruns⟩ := run_of_appended_rules hp hq
  obtain ⟨m, hm, hrun⟩ := hruns ["a"] .error 0 (by decide)
  obtain ⟨-, -, hshown, -, -⟩ := hrun 5 _ _ rfl rfl
  cases hm
  exact ⟨htext, _, _, _, rfl, rfl, rfl, by decide, by decide, hshown⟩

end TapeMachine
