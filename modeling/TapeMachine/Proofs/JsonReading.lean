/-
What is written as JSON is read back, for every value without a number that is no integer.

An array is read item by item and an object member by member.  So besides the theorem on
values there is one on what stands between the brackets of an array and one on what
stands between those of an object, and the three are proved together.

* **`Json.Plain`** — the values that read back;
* **`Json.value_write`** — such a value, before whatever may follow a value;
* **`Json.read_write`** — such a value, on its own.
-/
import TapeMachine.Proofs.JsonScalars

namespace TapeMachine.Json

/-! ### Members -/

theorem setMember_of_not_mem {key : String} {ms : List (String × Value)}
    (h : key ∉ ms.map (·.1)) (v : Value) : setMember key v ms = ms ++ [(key, v)] := by
  induction ms with
  | nil => rfl
  | cons m ms ih =>
    rw [List.map_cons, List.mem_cons, not_or] at h
    rw [setMember, if_neg (Ne.symm h.1), ih h.2, List.cons_append]

/-- Members under different keys stay as they are written. -/
theorem mergeMembers_eq_self {ms : List (String × Value)} (h : (ms.map (·.1)).Nodup) :
    mergeMembers ms = ms := by
  have hfold : ∀ done : List (String × Value), ((done ++ ms).map (·.1)).Nodup →
      ms.foldl (fun members m => setMember m.1 m.2 members) done = done ++ ms := by
    clear h
    induction ms with
    | nil =>
      intro done _
      exact (List.append_nil done).symm
    | cons m ms ih =>
      intro done hdone
      have hnew : m.1 ∉ done.map (·.1) := by
        rw [List.map_append, List.map_cons, List.nodup_append] at hdone
        intro hmem
        exact hdone.2.2 _ hmem _ List.mem_cons_self rfl
      rw [List.foldl_cons, setMember_of_not_mem hnew, ih _ (by simpa using hdone)]
      simp
  exact hfold [] h

/-! ### Values -/

mutual

/-- The values that read back: those without a number that is no integer, without an integer of too
many digits, and without a key that occurs again. -/
def Plain : Value → Prop
  | .null => True
  | .bool _ => True
  | .int i => (Nat.toDigits 10 i.natAbs).length ≤ maxIntegerDigits
  | .float _ => False
  | .str _ => True
  | .array items => PlainItems items
  | .object members => (members.map (·.1)).Nodup ∧ PlainMembers members

def PlainItems : List Value → Prop
  | [] => True
  | v :: rest => Plain v ∧ PlainItems rest

def PlainMembers : List (String × Value) → Prop
  | [] => True
  | (_, v) :: rest => Plain v ∧ PlainMembers rest

end

/-- A character that a value may start with is no blank, closes nothing and is no mark of byte
order. -/
def IsOpening (c : Char) : Prop :=
  isSpace c = false ∧ c ≠ ']' ∧ c ≠ '\x7d' ∧ c ≠ '\uFEFF'

instance (c : Char) : Decidable (IsOpening c) :=
  inferInstanceAs (Decidable (_ ∧ _))

theorem isOpening_of_isDigit {c : Char} (h : c.isDigit = true) : IsOpening c := by
  have hne : ∀ d : Char, d.isDigit = false → c ≠ d := fun d => ne_of_isDigit h
  have hspace : isSpace c = false := by
    simp only [isSpace, Bool.or_eq_false_iff, beq_eq_false_iff_ne]
    exact ⟨⟨⟨hne _ rfl, hne _ rfl⟩, hne _ rfl⟩, hne _ rfl⟩
  exact ⟨hspace, hne _ rfl, hne _ rfl, hne _ rfl⟩

/-- An integer starts with a digit, or with a sign and a digit. -/
theorem intText_eq_cons (i : Int) :
    ∃ d digits, d.isDigit = true ∧
      (intText i = d :: digits ∨ intText i = '-' :: d :: digits) := by
  obtain ⟨d, digits, hdigits⟩ :=
    List.exists_cons_of_ne_nil (Nat.toDigits_ne_nil (n := i.natAbs) (b := 10))
  have hmem : d ∈ Nat.toDigits 10 i.natAbs := by
    rw [hdigits]
    exact List.mem_cons_self
  have hd : d.isDigit = true := Nat.isDigit_of_mem_toDigits (by decide) (by decide) hmem
  refine ⟨d, digits, hd, ?_⟩
  rw [intText, hdigits]
  by_cases hi : i < 0
  · rw [if_pos hi]
    exact .inr rfl
  · rw [if_neg hi]
    exact .inl rfl

theorem write_eq_cons {v : Value} (h : Plain v) :
    ∃ c rest, write v = c :: rest ∧ IsOpening c := by
  cases v with
  | null => exact ⟨'n', _, rfl, by decide⟩
  | bool b => cases b <;> exact ⟨_, _, rfl, by decide⟩
  | int i =>
    obtain ⟨d, digits, hd, hi | hi⟩ := intText_eq_cons i
    · exact ⟨d, digits, hi, isOpening_of_isDigit hd⟩
    · exact ⟨'-', _, hi, by decide⟩
  | float x => exact absurd h id
  | str s => exact ⟨'"', _, rfl, by decide⟩
  | array items => exact ⟨'[', _, rfl, by decide⟩
  | object members => exact ⟨'\x7b', _, rfl, by decide⟩

theorem skipSpace_of_opening {c : Char} (h : IsOpening c) (rest : List Char) :
    skipSpace (c :: rest) = c :: rest := by
  rw [skipSpace, List.dropWhile_cons_of_neg (by simp [h.1])]

/-- No blank stands before a value that was written. -/
theorem skipSpace_write {v : Value} (h : Plain v) (rest : List Char) :
    skipSpace (write v ++ rest) = write v ++ rest := by
  obtain ⟨c, more, hc, hopening⟩ := write_eq_cons h
  rw [hc, List.cons_append, skipSpace_of_opening hopening]

theorem writeItems_eq_cons {v : Value} (vs : List Value) (h : Plain v) :
    ∃ c rest, writeItems (v :: vs) = c :: rest ∧ IsOpening c := by
  obtain ⟨c, rest, hc, hopening⟩ := write_eq_cons h
  cases vs with
  | nil => exact ⟨c, rest, hc, hopening⟩
  | cons w vs => exact ⟨c, _, by rw [writeItems, hc, List.cons_append], hopening⟩

theorem writeMembers_eq_cons (m : String × Value) (ms : List (String × Value)) :
    ∃ rest, writeMembers (m :: ms) = '"' :: rest := by
  cases ms with
  | nil => exact ⟨_, rfl⟩
  | cons n ms => exact ⟨_, rfl⟩

/-- Whether a text opens a string, an array or an object. -/
def OpensPart (s : List Char) : Prop :=
  ∃ c ∈ s.head?, c = '"' ∨ c = '[' ∨ c = '\x7b'

theorem not_opensPart {c : Char} (h : c ≠ '"' ∧ c ≠ '[' ∧ c ≠ '\x7b') (s : List Char) :
    ¬OpensPart (c :: s) := by
  rintro ⟨d, hd, hopen⟩
  cases hd
  rcases hopen with hopen | hopen | hopen
  · exact h.1 hopen
  · exact h.2.1 hopen
  · exact h.2.2 hopen

/-- What opens no part is a word, if it starts with one. -/
theorem value_of_word {s rest : List Char} {v : Value} (hopen : ¬OpensPart s)
    (h : word? s = some (v, rest)) : Reads (value s) v rest := by
  refine ⟨length_of_word? h, ?_⟩
  rw [value.eq_def]
  split
  · exact absurd ⟨_, rfl, .inl rfl⟩ hopen
  · exact absurd ⟨_, rfl, .inr (.inl rfl)⟩ hopen
  · exact absurd ⟨_, rfl, .inr (.inr rfl)⟩ hopen
  · split
    · next hw =>
      cases h.symm.trans hw
      rfl
    · next hw => cases h.symm.trans hw

/-- Otherwise it is a number. -/
theorem value_of_no_word {s : List Char} (hopen : ¬OpensPart s) (h : word? s = none) :
    value s = number s := by
  rw [value.eq_def]
  split
  · exact absurd ⟨_, rfl, .inl rfl⟩ hopen
  · exact absurd ⟨_, rfl, .inr (.inl rfl)⟩ hopen
  · exact absurd ⟨_, rfl, .inr (.inr rfl)⟩ hopen
  · split
    · next hw => cases h.symm.trans hw
    · rfl

theorem word?_of_isDigit {d : Char} (hd : d.isDigit = true) (s : List Char) :
    word? (d :: s) = none ∧ word? ('-' :: d :: s) = none := by
  have hne : ∀ c : Char, c.isDigit = false → c ≠ d := fun c hc => (ne_of_isDigit hd hc).symm
  constructor
  · simp [word?, words, dropWord?, hne]
  · simp [word?, words, dropWord?, hne]

theorem value_of_string {body rest : List Char} {t : String}
    (h : stringFrom ('"' :: body) [] body = .ok (t, rest)) :
    Reads (value ('"' :: body)) (.str t) rest := by
  have hlt := length_of_stringFrom h
  refine ⟨by simp only [List.length_cons]; omega, ?_⟩
  rw [value]
  split
  · next he => cases h.symm.trans he
  · next he =>
    cases h.symm.trans he
    rfl

theorem value_of_empty_array {body rest : List Char} (h : skipSpace body = ']' :: rest) :
    Reads (value ('[' :: body)) (.array []) rest := by
  have hle := length_skipSpace_le body
  rw [h] at hle
  simp only [List.length_cons] at hle
  refine ⟨by simp only [List.length_cons]; omega, ?_⟩
  rw [value]
  split
  · next he =>
    cases h.symm.trans he
    rfl
  · next hne => exact absurd h (hne rest)

theorem value_of_array {body rest : List Char} {vs : List Value}
    (hne : ∀ more, skipSpace body ≠ ']' :: more) (h : Reads (items (skipSpace body)) vs rest) :
    Reads (value ('[' :: body)) (.array vs) rest := by
  obtain ⟨hlt, h⟩ := h
  have hle := length_skipSpace_le body
  refine ⟨by simp only [List.length_cons]; omega, ?_⟩
  rw [value]
  split
  · next he => exact absurd he (hne _)
  · rw [h]

theorem value_of_empty_object {body rest : List Char} (h : skipSpace body = '\x7d' :: rest) :
    Reads (value ('\x7b' :: body)) (.object []) rest := by
  have hle := length_skipSpace_le body
  rw [h] at hle
  simp only [List.length_cons] at hle
  refine ⟨by simp only [List.length_cons]; omega, ?_⟩
  rw [value]
  split
  · next he =>
    cases h.symm.trans he
    rfl
  · next hne => exact absurd h (hne rest)

theorem value_of_object {body rest : List Char} {ms : List (String × Value)}
    (hne : ∀ more, skipSpace body ≠ '\x7d' :: more) (h : Reads (members (skipSpace body)) ms rest) :
    Reads (value ('\x7b' :: body)) (.object (mergeMembers ms)) rest := by
  obtain ⟨hlt, h⟩ := h
  have hle := length_skipSpace_le body
  refine ⟨by simp only [List.length_cons]; omega, ?_⟩
  rw [value]
  split
  · next he => exact absurd he (hne _)
  · rw [h]

/-- The last item of an array. -/
theorem items_of_last {s rest after : List Char} {v : Value} (h : Reads (value s) v rest)
    (hrest : skipSpace rest = ']' :: after) : Reads (items s) [v] after := by
  obtain ⟨hlt, h⟩ := h
  have hle := length_skipSpace_le rest
  rw [hrest] at hle
  simp only [List.length_cons] at hle
  refine ⟨by omega, ?_⟩
  rw [items, h]
  dsimp only
  split
  · next he =>
    cases hrest.symm.trans he
    rfl
  · next he => cases hrest.symm.trans he
  · next hne _ => exact absurd hrest (hne after)

/-- An item before others. -/
theorem items_of_next {s rest more after : List Char} {v : Value} {vs : List Value}
    (h : Reads (value s) v rest) (hrest : skipSpace rest = ',' :: more)
    (hmore : Reads (items (skipSpace more)) vs after) : Reads (items s) (v :: vs) after := by
  obtain ⟨hlt, h⟩ := h
  obtain ⟨hlt', hmore⟩ := hmore
  have hle := length_skipSpace_le rest
  have hle' := length_skipSpace_le more
  rw [hrest] at hle
  simp only [List.length_cons] at hle
  refine ⟨by omega, ?_⟩
  rw [items, h]
  dsimp only
  split
  · next he => cases hrest.symm.trans he
  · next he =>
    cases hrest.symm.trans he
    rw [hmore]
  · next hne => exact absurd hrest (hne more)

/-- The last member of an object. -/
theorem members_of_last {body colon rest after : List Char} {key : String} {v : Value}
    (hkey : stringFrom ('"' :: body) [] body = .ok (key, ':' :: colon))
    (h : Reads (value (skipSpace colon)) v rest) (hrest : skipSpace rest = '\x7d' :: after) :
    Reads (members ('"' :: body)) [(key, v)] after := by
  obtain ⟨hlt, h⟩ := h
  have hkeyLe := length_of_stringFrom hkey
  have hcolon := length_skipSpace_le colon
  have hle := length_skipSpace_le rest
  rw [hrest] at hle
  simp only [List.length_cons] at hkeyLe hle
  refine ⟨by simp only [List.length_cons]; omega, ?_⟩
  have hblank : skipSpace (':' :: colon) = ':' :: colon := rfl
  rw [members]
  split
  · next he => cases hkey.symm.trans he
  · next he =>
    cases hkey.symm.trans he
    split
    · next he =>
      cases hblank.symm.trans he
      rw [h]
      dsimp only
      split
      · next he =>
        cases hrest.symm.trans he
        rfl
      · next he => cases hrest.symm.trans he
      · next hne _ => exact absurd hrest (hne after)
    · next hne => exact absurd hblank (hne colon)

/-- A member before others. -/
theorem members_of_next {body colon rest more after : List Char} {key : String} {v : Value}
    {ms : List (String × Value)}
    (hkey : stringFrom ('"' :: body) [] body = .ok (key, ':' :: colon))
    (h : Reads (value (skipSpace colon)) v rest) (hrest : skipSpace rest = ',' :: more)
    (hmore : Reads (members (skipSpace more)) ms after) :
    Reads (members ('"' :: body)) ((key, v) :: ms) after := by
  obtain ⟨hlt, h⟩ := h
  obtain ⟨hlt', hmore⟩ := hmore
  have hkeyLe := length_of_stringFrom hkey
  have hcolon := length_skipSpace_le colon
  have hle := length_skipSpace_le rest
  have hle' := length_skipSpace_le more
  rw [hrest] at hle
  simp only [List.length_cons] at hkeyLe hle
  refine ⟨by simp only [List.length_cons]; omega, ?_⟩
  have hblank : skipSpace (':' :: colon) = ':' :: colon := rfl
  rw [members]
  split
  · next he => cases hkey.symm.trans he
  · next he =>
    cases hkey.symm.trans he
    split
    · next he =>
      cases hblank.symm.trans he
      rw [h]
      dsimp only
      split
      · next he => cases hrest.symm.trans he
      · next he =>
        cases hrest.symm.trans he
        rw [hmore]
      · next hne => exact absurd hrest (hne more)
    · next hne => exact absurd hblank (hne colon)

mutual

/-- **A value is read back**, before whatever may follow a value. -/
theorem value_write (v : Value) (hv : Plain v) (rest : List Char) (h : Stops rest) :
    Reads (value (write v ++ rest)) v rest := by
  match v with
  | .null => exact value_of_word (not_opensPart (by decide) _) rfl
  | .bool true => exact value_of_word (not_opensPart (by decide) _) rfl
  | .bool false => exact value_of_word (not_opensPart (by decide) _) rfl
  | .int i =>
    -- It opens nothing and is no word, so it is taken for a number.
    obtain ⟨d, digits, hd, hcons⟩ := intText_eq_cons i
    have hne : ∀ c : Char, c.isDigit = false → d ≠ c := fun c => ne_of_isDigit hd
    have hnumber : value (intText i ++ rest) = number (intText i ++ rest) := by
      rcases hcons with hcons | hcons <;> rw [hcons]
      · exact value_of_no_word (not_opensPart ⟨hne _ rfl, hne _ rfl, hne _ rfl⟩ _)
          (word?_of_isDigit hd _).1
      · exact value_of_no_word (not_opensPart (by decide) _) (word?_of_isDigit hd _).2
    rw [write, hnumber]
    exact number_intText hv h
  | .str s =>
    have hwrite : write (.str s) ++ rest = '"' :: (s.toList.flatMap charText ++ '"' :: rest) := by
      simp [write, stringText]
    rw [hwrite]
    exact value_of_string (stringFrom_stringText s rest)
  | .array [] => exact value_of_empty_array rfl
  | .array (v :: vs) =>
    have hitems := items_writeItems (v :: vs) (List.cons_ne_nil v vs) hv rest
    have hwrite : write (.array (v :: vs)) ++ rest =
        '[' :: (writeItems (v :: vs) ++ ']' :: rest) := by
      simp [write]
    -- An item closes nothing, so the array is not taken for an empty one.
    obtain ⟨c, more, hc, hopening⟩ := writeItems_eq_cons vs hv.1
    have hskip := skipSpace_of_opening hopening (more ++ ']' :: rest)
    rw [hc, List.cons_append, ← hskip] at hitems
    rw [hwrite, hc, List.cons_append]
    refine value_of_array (fun after hafter => ?_) hitems
    rw [hskip, List.cons.injEq] at hafter
    exact hopening.2.1 hafter.1
  | .object [] => exact value_of_empty_object rfl
  | .object (m :: ms) =>
    have hmembers := members_writeMembers (m :: ms) (List.cons_ne_nil m ms) hv.2 rest
    have hwrite : write (.object (m :: ms)) ++ rest =
        '\x7b' :: (writeMembers (m :: ms) ++ '\x7d' :: rest) := by
      simp [write]
    obtain ⟨more, hmore⟩ := writeMembers_eq_cons m ms
    have hskip := skipSpace_of_opening (c := '"') (by decide) (more ++ '\x7d' :: rest)
    rw [hmore, List.cons_append, ← hskip] at hmembers
    rw [hwrite, hmore, List.cons_append, ← mergeMembers_eq_self hv.1]
    refine value_of_object (fun after hafter => ?_) hmembers
    rw [hskip] at hafter
    cases hafter

theorem items_writeItems (vs : List Value) (hne : vs ≠ []) (hvs : PlainItems vs)
    (rest : List Char) : Reads (items (writeItems vs ++ ']' :: rest)) vs rest := by
  match vs with
  | [v] =>
    have hvalue := value_write v hvs.1 (']' :: rest) (stops_cons (by simp) rest)
    exact items_of_last hvalue rfl
  | v :: w :: vs =>
    have hmore := items_writeItems (w :: vs) (List.cons_ne_nil w vs) hvs.2 rest
    have hvalue := value_write v hvs.1 (',' :: ' ' :: (writeItems (w :: vs) ++ ']' :: rest))
      (stops_cons (by simp) _)
    have hwrite : writeItems (v :: w :: vs) ++ ']' :: rest =
        write v ++ ',' :: ' ' :: (writeItems (w :: vs) ++ ']' :: rest) := by
      simp [writeItems]
    obtain ⟨c, more, hc, hopening⟩ := writeItems_eq_cons vs hvs.2.1
    have hskip : skipSpace (' ' :: (writeItems (w :: vs) ++ ']' :: rest)) =
        writeItems (w :: vs) ++ ']' :: rest := by
      rw [hc, List.cons_append]
      exact skipSpace_of_opening hopening (more ++ ']' :: rest)
    rw [← hskip] at hmore
    rw [hwrite]
    exact items_of_next hvalue rfl hmore

theorem members_writeMembers (ms : List (String × Value)) (hne : ms ≠ []) (hms : PlainMembers ms)
    (rest : List Char) : Reads (members (writeMembers ms ++ '\x7d' :: rest)) ms rest := by
  match ms with
  | [(key, v)] =>
    have hvalue := value_write v hms.1 ('\x7d' :: rest) (stops_cons (by simp) rest)
    have hwrite : writeMembers [(key, v)] ++ '\x7d' :: rest =
        '"' :: (key.toList.flatMap charText ++
          '"' :: ':' :: ' ' :: (write v ++ '\x7d' :: rest)) := by
      simp [writeMembers, stringText]
    rw [← skipSpace_write hms.1] at hvalue
    rw [hwrite]
    exact members_of_last (stringFrom_stringText key _) hvalue rfl
  | (key, v) :: m :: ms =>
    have hmore := members_writeMembers (m :: ms) (List.cons_ne_nil m ms) hms.2 rest
    have hvalue := value_write v hms.1 (',' :: ' ' :: (writeMembers (m :: ms) ++ '\x7d' :: rest))
      (stops_cons (by simp) _)
    have hwrite : writeMembers ((key, v) :: m :: ms) ++ '\x7d' :: rest =
        '"' :: (key.toList.flatMap charText ++ '"' :: ':' :: ' ' ::
          (write v ++ ',' :: ' ' :: (writeMembers (m :: ms) ++ '\x7d' :: rest))) := by
      simp [writeMembers, stringText]
    obtain ⟨more, hcons⟩ := writeMembers_eq_cons m ms
    have hskip : skipSpace (' ' :: (writeMembers (m :: ms) ++ '\x7d' :: rest)) =
        writeMembers (m :: ms) ++ '\x7d' :: rest := by
      rw [hcons]
      rfl
    rw [← hskip] at hmore
    rw [← skipSpace_write hms.1] at hvalue
    rw [hwrite]
    exact members_of_next (stringFrom_stringText key _) hvalue rfl hmore

end

/-- **Reading undoes writing.** -/
theorem read_write {v : Value} (hv : Plain v) : read (write v) = .ok v := by
  obtain ⟨c, more, hc, hopening⟩ := write_eq_cons hv
  have hmark : (write v).head? ≠ some '\uFEFF' := by
    rw [hc, List.head?_cons]
    exact fun h => hopening.2.2.2 (Option.some.inj h)
  have hvalue := value_write v hv [] stops_nil
  rw [← skipSpace_write hv, List.append_nil] at hvalue
  obtain ⟨hlt, hvalue⟩ := hvalue
  rw [read, if_neg hmark, hvalue]
  rfl

end TapeMachine.Json
