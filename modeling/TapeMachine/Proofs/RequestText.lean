/-
The texts of a request are parts of the arguments.

Whatever a request names, its text was an argument, or the part of one that follows an
option.  So a property of all characters in the arguments holds of all characters in the
request.

* **`Word.throughout_ofString`** — an argument by itself;
* **`throughout_joined`** — options joined to their values;
* **`Simulator.throughout_ofArguments`** — both readings.

Design notes:

* A divider is left to be read again, and may then become an operand.  So the property has
  to hold of the dash.
-/
import TapeMachine.Proofs.ArgumentReading
import TapeMachine.Proofs.PathText

namespace TapeMachine

variable {d : Dialect} {P : Char → Prop} {text : String}

/-! ### Words -/

namespace Word

/-- Whether a property holds of all characters of the text in a word. -/
def Throughout (P : Char → Prop) : Word → Prop
  | .operand text => TapeMachine.Throughout P text
  | .unknown text => TapeMachine.Throughout P text
  | .divider => True
  | .flag _ value => ∀ text, value = some text → TapeMachine.Throughout P text

/-- The value behind `=` is an end of the text. -/
theorem suffix_of_cut {chars name value : List Char} (h : cut chars = (name, some value)) :
    value <:+ chars := by
  rw [cut] at h
  split at h
  · cases h
  · next hdrop =>
    cases h
    exact (List.suffix_cons _ _).trans (hdrop ▸ chars.dropWhile_suffix _)

/-- What an option of one letter leaves over is an end of the text. -/
theorem suffix_of_leftOver {value rest : List Char} (h : leftOver value = some rest) :
    rest <:+ value := by
  rw [leftOver] at h
  split at h
  · cases h
    exact List.nil_suffix
  · split at h
    · cases h
    · cases h
      exact value.dropWhile_suffix _

/-- So is what follows several letters. -/
theorem suffix_of_afterLetters {value rest : List Char} (h : afterLetters value = some rest) :
    rest <:+ value := by
  fun_induction afterLetters value with
  | case1 value =>
    cases h
    exact ⟨['h', '='], rfl⟩
  | case2 value _ ih => exact (ih h).trans (List.suffix_cons _ _)
  | case3 value =>
    cases h
    exact List.suffix_rfl
  | case4 => cases h

theorem suffix_of_refused {value rest : List Char} (h : refused d value = some rest) :
    rest <:+ value := by
  cases d with
  | early => exact suffix_of_leftOver h
  | late => exact suffix_of_afterLetters h

theorem suffix_of_refusedValue {value rest : List Char} (h : refusedValue d value = some rest) :
    rest <:+ value := by
  cases d with
  | early => exact suffix_of_leftOver h
  | late =>
    cases h
    exact List.suffix_rfl

theorem throughout_ofUnnamed (h : TapeMachine.Throughout P text) :
    (ofUnnamed text).Throughout P := by
  rw [ofUnnamed]
  split
  · exact h
  · exact h

/-- An option whose value is an end of the text. -/
theorem throughout_flag {f : Flag} {value : Option (List Char)}
    (h : TapeMachine.Throughout P text)
    (hvalue : ∀ chars, value = some chars → chars <:+ text.toList) :
    (Word.flag f (value.map String.ofList)).Throughout P := by
  intro t ht
  obtain ⟨chars, hchars, rfl⟩ := Option.map_eq_some_iff.mp ht
  exact throughout_ofList.mpr fun c hc => h c ((hvalue chars hchars).subset hc)

theorem throughout_ofShortened {known : List Flag} {w : Word} (h : TapeMachine.Throughout P text)
    (hw : ofShortened d known text = .ok w) : w.Throughout P := by
  rw [ofShortened] at hw
  dsimp only at hw
  split at hw
  · split at hw
    · cases hw
      exact throughout_ofUnnamed h
    · cases hw
      exact throughout_flag h fun chars hchars => suffix_of_cut (Prod.ext rfl hchars)
    · cases hw
  · next rest hrest =>
    cases hw
    refine throughout_flag h fun chars hchars => (suffix_of_refused hchars).trans ?_
    rw [hrest]
    exact ⟨['-', 'h'], rfl⟩
  · cases hw
    exact throughout_ofUnnamed h

theorem throughout_ofString {known : List Flag} {w : Word} (h : TapeMachine.Throughout P text)
    (hw : ofString d known text = .ok w) : w.Throughout P := by
  rw [ofString] at hw
  split at hw
  · cases hw
    exact h
  · split at hw
    · cases hw
      exact fun _ hnone => absurd hnone.symm (Option.some_ne_none _)
    · exact throughout_ofShortened h hw
    · next name value _ hcut =>
      have hsuffix := suffix_of_cut hcut
      split at hw
      · cases hw
        rw [ofValue]
        split
        · exact throughout_flag h fun chars hchars =>
            (suffix_of_refusedValue hchars).trans hsuffix
        · show (Word.flag _ ((some value).map String.ofList)).Throughout P
          refine throughout_flag h fun chars hchars => ?_
          cases hchars
          exact hsuffix
      · exact throughout_ofShortened h hw

end Word

theorem throughout_words {known : List Flag} {arguments : List String} {ws : List Word}
    (h : ∀ text ∈ arguments, Throughout P text) (hws : words d known arguments = .ok ws) :
    ∀ w ∈ ws, w.Throughout P := by
  intro w hw
  rcases source_of_mem_words hws hw with ⟨text, htext, -, hword⟩ | rfl | ⟨text, htext, rfl⟩
  · exact Word.throughout_ofString (h text htext) hword
  · trivial
  · exact h text htext

/-! ### Items -/

/-- Whether a property holds of all characters of the text in an item. -/
def Item.Throughout (P : Char → Prop) : Item → Prop
  | .operand text => TapeMachine.Throughout P text
  | .unknown text => TapeMachine.Throughout P text
  | .divider => True
  | .setting _ value => ∀ text, value = some text → TapeMachine.Throughout P text

variable {items : List Item}

theorem throughout_undivided {value : String} (h : Throughout P value)
    (hvalue : undivided value = some text) : Throughout P text := by
  rw [undivided] at hvalue
  split at hvalue
  · cases hvalue
  · cases hvalue
    exact h

theorem throughout_attached {value : String} (h : Throughout P value)
    (hvalue : attached d value = some text) : Throughout P text := by
  cases d with
  | early => exact throughout_undivided h hvalue
  | late =>
    cases hvalue
    exact h

theorem throughout_joined {ws : List Word} (hws : ∀ w ∈ ws, w.Throughout P)
    (h : joined d ws = .ok items) : ∀ item ∈ items, item.Throughout P := by
  refine forall_mem_joined h trivial (fun text => hws _) (fun text => hws _)
    (fun s value hflag => ?_) fun s value _ hoperand text htext => ?_
  · exact fun text => throughout_attached (hws _ hflag value rfl)
  · cases htext
    exact hws _ hoperand

theorem throughout_resolve {known : List Flag} {arguments : List String}
    (hargs : ∀ text ∈ arguments, Throughout P text) (h : resolve d known arguments = .ok items) :
    ∀ item ∈ items, item.Throughout P := by
  rw [resolve] at h
  split at h
  · cases h
  · next hws => exact throughout_joined (throughout_words hargs hws) h

theorem throughout_slot (h : ∀ item ∈ items, item.Throughout P) :
    (∀ text, (slot items).1 = some text → Throughout P text) ∧
      ∀ item ∈ (slot items).2, item.Throughout P := by
  unfold slot
  split
  · next text rest =>
    obtain ⟨-, htext, hrest⟩ := List.forall_mem_cons.mp h |>.imp_right List.forall_mem_cons.mp
    exact ⟨fun t ht => Option.some.inj ht ▸ htext, hrest⟩
  · next text rest =>
    obtain ⟨htext, -, hrest⟩ := List.forall_mem_cons.mp h |>.imp_right List.forall_mem_cons.mp
    exact ⟨fun t ht => Option.some.inj ht ▸ htext, hrest⟩
  · next text rest _ =>
    obtain ⟨htext, hrest⟩ := List.forall_mem_cons.mp h
    exact ⟨fun t => throughout_undivided htext, hrest⟩
  · exact ⟨fun t ht => (nomatch ht), h⟩

namespace Simulator

/-- Whether a property holds of all characters of the texts in a request. -/
structure Request.Throughout (P : Char → Prop) (r : Request) : Prop where
  program : ∀ text, r.program = some text → TapeMachine.Throughout P text
  tape : ∀ text, r.tape = some text → TapeMachine.Throughout P text
  config : ∀ text, r.config = some (some text) → TapeMachine.Throughout P text
  logDirectory : ∀ text, r.logDirectory = some (some text) → TapeMachine.Throughout P text

/-- What the first reading leaves to the second. -/
theorem throughout_left (hdash : P '-') (h : ∀ item ∈ items, item.Throughout P) :
    ∀ text ∈ (Request.dropDivider items).filterMap Item.text?, Throughout P text := by
  intro text htext
  obtain ⟨item, hitem, htext⟩ := List.mem_filterMap.mp htext
  have hitem := h item (dropDivider_subset items hitem)
  cases item with
  | operand _ =>
    cases htext
    exact hitem
  | unknown _ =>
    cases htext
    exact hitem
  | divider =>
    cases htext
    have hdashes : ("--" : String).toList = ['-', '-'] := rfl
    rw [Throughout, hdashes]
    exact List.forall_mem_cons.mpr ⟨hdash, List.forall_mem_singleton.mpr hdash⟩
  | setting _ _ => cases htext

/-- **A property of all characters in the arguments is one of all characters in the request.** -/
theorem throughout_ofArguments (hdash : P '-') {arguments : List String} {r : Request}
    (h : ∀ text ∈ arguments, Throughout P text) (hr : Request.ofArguments d arguments = .ok r) :
    r.Throughout P := by
  obtain ⟨first, second, hfirst, hsecond, rfl⟩ := exists_readings hr
  have hitems := throughout_resolve h hfirst
  have hagain := throughout_resolve (throughout_left hdash hitems) hsecond
  have hall : ∀ item ∈ first ++ second, item.Throughout P :=
    List.forall_mem_append.mpr ⟨hitems, hagain⟩
  have hrun : ∀ item ∈ second.dropWhile (!·.inRun), item.Throughout P :=
    fun item hitem => hagain item ((second.dropWhile_suffix _).subset hitem)
  obtain ⟨hprogram, hafter⟩ := throughout_slot hrun
  obtain ⟨htape, -⟩ := throughout_slot hafter
  -- A value of a setting is that of an item.
  have hvalue : ∀ s text, lastValue? s (first ++ second) = some (some text) →
      TapeMachine.Throughout P text :=
    fun s text hlast => hall _ (setting_mem_of_lastValue? hlast) text rfl
  exact ⟨hprogram, htape, hvalue .config, hvalue .logDirectory⟩

end Simulator

end TapeMachine
