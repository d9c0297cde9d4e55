/-
The option for the log among the arguments of the simulator.

Where no argument names the log, the request asks for no directory for it.  Put in
front of such arguments, the option and its value are read as one item, and leave the
rest of the reading as it was.

* **`NamesLog`** — the arguments that name the log, in full or cut short;
* **`Simulator.logDirectory_eq_none`** — without such an argument there is no directory;
* **`Simulator.ofArguments_logDirectory`** — the request with the option in front.

Design notes:

* Arguments are read twice, and what the first reading leaves is read again.  Nothing is left
  that was not an argument, but for dividers.
-/
import TapeMachine.Command.Simulator

namespace TapeMachine

variable {d : Dialect}

/-! ### Arguments without the option -/

/-- The text that a word leaves to be read again. -/
def Word.text? : Word → Option String
  | .operand text => some text
  | .unknown text => some text
  | _ => none

theorem Word.text?_ofUnnamed (text : String) : (Word.ofUnnamed text).text? = some text := by
  rw [ofUnnamed]
  split <;> rfl

/-- A word that leaves a text leaves its own. -/
theorem Word.eq_of_text? {known : List Flag} {text t : String} {w : Word}
    (h : Word.ofString d known text = .ok w) (ht : w.text? = some t) : t = text := by
  -- A word that is neither an operand nor unknown leaves no text at all.
  have hunnamed : w = ofUnnamed text → t = text := by
    rintro rfl
    rw [text?_ofUnnamed] at ht
    exact (Option.some.inj ht).symm
  have hshortened : ofShortened d known text = .ok w → t = text := by
    intro h
    rw [ofShortened] at h
    dsimp only at h
    split at h
    · split at h
      · exact hunnamed (Except.ok.inj h).symm
      · cases h
        cases ht
      · cases h
    · cases h
      cases ht
    · exact hunnamed (Except.ok.inj h).symm
  rw [ofString] at h
  split at h
  · cases h
    exact (Option.some.inj ht).symm
  · split at h
    · cases h
      cases ht
    · exact hshortened h
    · split at h
      · rw [ofValue] at h
        split at h <;> cases h <;> cases ht
      · exact hshortened h

/-- Every word was read from an argument, stands for the divider, or is an argument behind it. -/
theorem source_of_mem_words {known : List Flag} {arguments : List String} {ws : List Word}
    {w : Word} (h : words d known arguments = .ok ws) (hmem : w ∈ ws) :
    (∃ text ∈ arguments, text ≠ "--" ∧ Word.ofString d known text = .ok w) ∨ w = .divider ∨
      ∃ text ∈ arguments, w = .operand text := by
  induction arguments generalizing ws with
  | nil =>
    cases h
    cases hmem
  | cons text rest ih =>
    rw [words] at h
    split at h
    -- Behind the divider nothing is an option.
    · cases h
      rcases List.mem_cons.mp hmem with rfl | hmem
      · exact .inr (.inl rfl)
      · obtain ⟨t, ht, rfl⟩ := List.mem_map.mp hmem
        exact .inr (.inr ⟨t, List.mem_cons_of_mem text ht, rfl⟩)
    · next hdivider =>
      split at h
      · cases h
      · next w' hw =>
        split at h
        · cases h
        · next ws' hws =>
          cases h
          rcases List.mem_cons.mp hmem with rfl | hmem
          · exact .inl ⟨text, List.mem_cons_self, hdivider, hw⟩
          · rcases ih hws hmem with ⟨t, ht, hword⟩ | hdiv | ⟨t, ht, hword⟩
            · exact .inl ⟨t, List.mem_cons_of_mem text ht, hword⟩
            · exact .inr (.inl hdiv)
            · exact .inr (.inr ⟨t, List.mem_cons_of_mem text ht, hword⟩)

/-- Every option among words was read from an argument. -/
theorem exists_of_flag_mem_words {known : List Flag} {arguments : List String} {ws : List Word}
    {f : Flag} {value : Option String} (h : words d known arguments = .ok ws)
    (hmem : .flag f value ∈ ws) :
    ∃ text ∈ arguments, text ≠ "--" ∧ Word.ofString d known text = .ok (.flag f value) := by
  rcases source_of_mem_words h hmem with hread | hdivider | ⟨text, -, hoperand⟩
  · exact hread
  · cases hdivider
  · cases hoperand

/-- Every text that is left was an argument. -/
theorem mem_of_text?_words {known : List Flag} {arguments : List String} {ws : List Word}
    {w : Word} {t : String} (h : words d known arguments = .ok ws) (hmem : w ∈ ws)
    (ht : w.text? = some t) : t ∈ arguments := by
  rcases source_of_mem_words h hmem with ⟨text, htext, -, hword⟩ | rfl | ⟨text, htext, rfl⟩
  · rw [Word.eq_of_text? hword ht]
    exact htext
  · cases ht
  · cases ht
    exact htext

section Joined

variable {Q : Item → Prop} {ws : List Word} {items : List Item}

/-- An item in front of others. -/
theorem forall_mem_cons_of_joined {rest : List Word} {first : Item} (hfirst : Q first)
    (ih : ∀ {items}, joined d rest = .ok items → ∀ item ∈ items, Q item)
    (h : (first :: ·) <$> joined d rest = .ok items) : ∀ item ∈ items, Q item := by
  rcases hjoined : joined d rest with e | more <;> rw [hjoined] at h
  · cases h
  · cases h
    exact List.forall_mem_cons.mpr ⟨hfirst, ih hjoined⟩

/-- A property of all items, by what they are joined from: an option has its value in its own word,
or in an operand. -/
theorem forall_mem_joined (h : joined d ws = .ok items) (hdivider : Q .divider)
    (hoperand : ∀ text, .operand text ∈ ws → Q (.operand text))
    (hunknown : ∀ text, .unknown text ∈ ws → Q (.unknown text))
    (hattached : ∀ s value, .flag (.setting s) (some value) ∈ ws →
      Q (.setting s (attached d value)))
    (hnext : ∀ s value, .flag (.setting s) none ∈ ws → .operand value ∈ ws →
      Q (.setting s (some value))) :
    ∀ item ∈ items, Q item := by
  suffices hall : ∀ vs ⊆ ws, ∀ {items}, joined d vs = .ok items → ∀ item ∈ items, Q item from
    hall ws (List.Subset.refl ws) h
  intro vs hsub
  fun_induction joined d vs with
  | case1 =>
    rintro items ⟨⟩ item hitem
    cases hitem
  | case2 => exact fun h => nomatch h
  | case3 => exact fun h => nomatch h
  | case4 s value rest ih =>
    obtain ⟨hfirst, hrest⟩ := List.cons_subset.mp hsub
    exact forall_mem_cons_of_joined (hattached s value hfirst) (ih hrest)
  | case5 s value rest ih =>
    obtain ⟨hfirst, hmore⟩ := List.cons_subset.mp hsub
    obtain ⟨hvalue, hrest⟩ := List.cons_subset.mp hmore
    exact forall_mem_cons_of_joined (hnext s value hfirst hvalue) (ih hrest)
  | case6 => exact fun h => nomatch h
  | case7 text rest ih =>
    obtain ⟨hfirst, hrest⟩ := List.cons_subset.mp hsub
    exact forall_mem_cons_of_joined (hoperand text hfirst) (ih hrest)
  | case8 rest ih => exact forall_mem_cons_of_joined hdivider (ih (List.cons_subset.mp hsub).2)
  | case9 text rest ih =>
    obtain ⟨hfirst, hrest⟩ := List.cons_subset.mp hsub
    exact forall_mem_cons_of_joined (hunknown text hfirst) (ih hrest)

/-- The word that an item comes from. -/
def Item.ComesFrom (ws : List Word) : Item → Prop
  | .operand text => .operand text ∈ ws
  | .unknown text => .unknown text ∈ ws
  | .divider => True
  | .setting s _ => ∃ value, .flag (.setting s) value ∈ ws

theorem comesFrom_joined (h : joined d ws = .ok items) : ∀ item ∈ items, item.ComesFrom ws :=
  forall_mem_joined h trivial (fun _ htext => htext) (fun _ htext => htext)
    (fun _ value hflag => ⟨some value, hflag⟩) fun _ _ hflag _ => ⟨none, hflag⟩

/-- In the late dialect no option loses its value. -/
theorem setting_none_not_mem_joined (h : joined .late ws = .ok items) (s : Setting) :
    .setting s none ∉ items := by
  have hall : ∀ item ∈ items, item ≠ .setting s none :=
    forall_mem_joined h (by simp) (by simp) (by simp) (by simp [attached]) (by simp)
  exact fun hmem => hall _ hmem rfl

end Joined

/-- Whether an argument names the directory for the log, in full or cut short. -/
def NamesLog (d : Dialect) (text : String) : Prop :=
  ∃ value,
    Word.ofString d Simulator.Request.known text = .ok (.flag (.setting .logDirectory) value)

namespace Simulator

/-- Where no argument names the log, no item does, and what is left to be read again was there. -/
theorem resolve_of_no_log {arguments : List String} {items : List Item}
    (h : resolve d Request.known arguments = .ok items)
    (hnone : ∀ text ∈ arguments, text ≠ "--" → ¬NamesLog d text) :
    (∀ value, .setting .logDirectory value ∉ items) ∧
      ∀ item ∈ items, ∀ text, item.text? = some text → text ∈ arguments ∨ text = "--" := by
  rw [resolve] at h
  rcases hws : words d Request.known arguments with e | ws <;> rw [hws] at h
  · cases h
  have hfrom := comesFrom_joined h
  refine ⟨fun value hmem => ?_, fun item hitem text htext => ?_⟩
  · obtain ⟨v, hv⟩ := hfrom _ hmem
    obtain ⟨text, htext, hdivider, hword⟩ := exists_of_flag_mem_words hws hv
    exact hnone text htext hdivider ⟨v, hword⟩
  · have hitem := hfrom item hitem
    cases item with
    | operand t =>
      cases htext
      exact .inl (mem_of_text?_words hws hitem rfl)
    | unknown t =>
      cases htext
      exact .inl (mem_of_text?_words hws hitem rfl)
    | divider =>
      cases htext
      exact .inr rfl
    | setting s value => cases htext

theorem dropDivider_subset (items : List Item) : Request.dropDivider items ⊆ items := by
  fun_induction Request.dropDivider items with
  | case1 => exact List.Subset.refl _
  | case2 rest => exact List.subset_cons_self _ _
  | case3 text rest => exact List.Subset.refl _
  | case4 item rest _ _ ih => exact List.cons_subset_cons item ih

/-- The two readings that a request comes from. -/
theorem exists_readings {arguments : List String} {r : Request}
    (hr : Request.ofArguments d arguments = .ok r) :
    ∃ first second, resolve d Request.known arguments = .ok first ∧
      resolve d Request.known ((Request.dropDivider first).filterMap Item.text?) = .ok second ∧
      r = Request.ofItems first second := by
  rw [Request.ofArguments] at hr
  split at hr
  · cases hr
  next first hfirst =>
  split at hr
  · cases hr
  next second hsecond =>
  cases hr
  exact ⟨first, second, hfirst, hsecond, rfl⟩

/-- A value that a setting has was read as one. -/
theorem setting_mem_of_lastValue? {s : Setting} {value : Option String} {items : List Item}
    (h : lastValue? s items = some value) : .setting s value ∈ items := by
  rw [lastValue?] at h
  obtain ⟨item, hitem, hvalue⟩ := List.mem_filterMap.mp (List.mem_of_getLast? h)
  cases item with
  | operand text => cases hvalue
  | divider => cases hvalue
  | unknown text => cases hvalue
  | setting s' value' =>
    dsimp only at hvalue
    split at hvalue
    · next hs =>
      cases hvalue
      rwa [hs] at hitem
    · cases hvalue

/-- Arguments of which none names the log ask for no directory for it. -/
theorem logDirectory_eq_none {arguments : List String} {r : Request}
    (hr : Request.ofArguments d arguments = .ok r)
    (hnone : ∀ text ∈ arguments, text ≠ "--" → ¬NamesLog d text) : r.logDirectory = none := by
  obtain ⟨first, second, hfirst, hsecond, rfl⟩ := exists_readings hr
  obtain ⟨hfirstNone, hleft⟩ := resolve_of_no_log hfirst hnone
  -- The second reading is of arguments and dividers.
  have hagain : ∀ text ∈ (Request.dropDivider first).filterMap Item.text?, text ≠ "--" →
      ¬NamesLog d text := by
    intro text htext hdivider
    obtain ⟨item, hitem, htext⟩ := List.mem_filterMap.mp htext
    rcases hleft item (dropDivider_subset first hitem) text htext with hmem | hmem
    · exact hnone text hmem hdivider
    · exact absurd hmem hdivider
  obtain ⟨hsecondNone, -⟩ := resolve_of_no_log hsecond hagain
  refine Option.eq_none_iff_forall_ne_some.mpr fun value hvalue => ?_
  rcases List.mem_append.mp (setting_mem_of_lastValue? hvalue) with hitem | hitem
  · exact hfirstNone value hitem
  · exact hsecondNone value hitem

/-- In the late dialect the configuration has a path, if one is asked for. -/
theorem config_ne_gone {arguments : List String} {r : Request}
    (hr : Request.ofArguments .late arguments = .ok r) : r.config ≠ some none := by
  obtain ⟨first, second, hfirst, hsecond, rfl⟩ := exists_readings hr
  have hnone : ∀ {texts items}, resolve .late Request.known texts = .ok items →
      .setting .config none ∉ items := by
    intro texts items h
    rw [resolve] at h
    split at h
    · cases h
    · exact setting_none_not_mem_joined h .config
  intro hgone
  rcases List.mem_append.mp (setting_mem_of_lastValue? hgone) with hitem | hitem
  · exact hnone hfirst hitem
  · exact hnone hsecond hitem

/-! ### The option in front -/

variable {known : List Flag} {text value directory : String} {arguments arguments' : List String}
  {w : Word} {item : Item} {items : List Item}

/-- A text that is understood is one word in front of the others. -/
theorem words_cons (hdivider : text ≠ "--") (hword : Word.ofString d known text = .ok w)
    (arguments : List String) :
    words d known (text :: arguments) = (words d known arguments).map (w :: ·) := by
  rw [words, if_neg hdivider, hword]
  rcases words d known arguments with e | ws <;> rfl

/-- A text that stands for itself wherever it is. -/
theorem words_operand (h : text.toList.head? ≠ some '-') (known : List Flag)
    (arguments : List String) :
    words d known (text :: arguments) = (words d known arguments).map (.operand text :: ·) := by
  have hdivider : text ≠ "--" := by
    rintro rfl
    exact h rfl
  exact words_cons hdivider (if_pos (.inl h)) arguments

/-- Words that are joined to one item are one item in front of the others. -/
theorem resolve_of_words {ahead : List Word → List Word}
    (hwords : words d known arguments' = (words d known arguments).map ahead)
    (hjoined : ∀ ws, joined d (ahead ws) = (joined d ws).map (item :: ·)) :
    resolve d known arguments' = (resolve d known arguments).map (item :: ·) := by
  rw [resolve, resolve, hwords]
  rcases words d known arguments with e | ws
  · rfl
  · exact hjoined ws

/-- An option that is spelled in full and its value are one item in front of the others. -/
theorem resolve_setting (s : Setting) (h : value.toList.head? ≠ some '-')
    (arguments : List String) :
    resolve d Request.known ((Flag.setting s).long :: value :: arguments) =
      (resolve d Request.known arguments).map (.setting s (some value) :: ·) := by
  have hdivider : (Flag.setting s).long ≠ "--" := by
    cases s <;> decide
  have hoption : Word.ofString d Request.known (Flag.setting s).long =
      .ok (.flag (.setting s) none) := by
    cases s <;> rfl
  have hwords : words d Request.known ((Flag.setting s).long :: value :: arguments) =
      (words d Request.known arguments).map
        fun ws => .flag (.setting s) none :: .operand value :: ws := by
    rw [words_cons hdivider hoption, words_operand h]
    rcases words d Request.known arguments with e | ws <;> rfl
  exact resolve_of_words hwords fun _ => rfl

/-- A setting in front is the last one if no other follows. -/
theorem lastValue?_cons {s s' : Setting} {value : Option String} :
    lastValue? s (.setting s' value :: items) =
      if s' = s then some ((lastValue? s items).getD value) else lastValue? s items := by
  rw [lastValue?, List.filterMap_cons]
  by_cases hs : s' = s
  · simp only [if_pos hs]
    rw [List.getLast?_cons, lastValue?]
  · simp only [if_neg hs]
    rfl

/-- What the arguments ask for with the log turned on: the same, and the directory for the log. -/
theorem ofArguments_logDirectory (h : directory.toList.head? ≠ some '-') (arguments : List String)
    (hnone : ∀ r, Request.ofArguments d arguments = .ok r → r.logDirectory = none) :
    Request.ofArguments d ("--log-dir" :: directory :: arguments) =
      (Request.ofArguments d arguments).map fun r =>
        { r with logDirectory := some (some directory) } := by
  have hresolve : resolve d Request.known ("--log-dir" :: directory :: arguments) =
      (resolve d Request.known arguments).map (.setting .logDirectory (some directory) :: ·) :=
    resolve_setting .logDirectory h arguments
  rcases hfirst : resolve d Request.known arguments with e | first
  · rw [Request.ofArguments, Request.ofArguments, hresolve, hfirst]
    rfl
  -- The second reading is of the same texts, since settings leave none.
  have hdrop : (Request.dropDivider (.setting .logDirectory (some directory) :: first)).filterMap
      Item.text? = (Request.dropDivider first).filterMap Item.text? := rfl
  rcases hsecond : resolve d Request.known ((Request.dropDivider first).filterMap Item.text?) with
    e | second
  · rw [Request.ofArguments, Request.ofArguments, hresolve, hfirst]
    dsimp only [Except.map]
    rw [hdrop, hsecond]
  have hrequest : Request.ofArguments d arguments = .ok (Request.ofItems first second) := by
    rw [Request.ofArguments, hfirst]
    dsimp only
    rw [hsecond]
  have hlog : lastValue? .logDirectory (first ++ second) = none := hnone _ hrequest
  have hconfig : lastValue? .config (.setting .logDirectory (some directory) :: first ++ second) =
      lastValue? .config (first ++ second) := by
    rw [List.cons_append, lastValue?_cons, if_neg (by decide)]
  have hdirectory : lastValue? .logDirectory
      (.setting .logDirectory (some directory) :: first ++ second) = some (some directory) := by
    rw [List.cons_append, lastValue?_cons, if_pos rfl, hlog]
    rfl
  rw [hrequest, Request.ofArguments, hresolve, hfirst]
  dsimp only [Except.map]
  rw [hdrop, hsecond]
  dsimp only
  rw [Request.ofItems, hconfig, hdirectory]
  rfl

end Simulator

end TapeMachine
