/-
What a refusal of JSON says of the text.

Whatever is read of a text, what is left is an end of the text, and the place of a
refusal is one too.  An integer that is refused for its length stands in the text as a
run of digits.

* **`Json.Within`** — a scan that stays within a text;
* **`Json.within_value`** — every value is read within its text;
* **`Json.within_of_read`** — every refusal is placed within the text.
-/
import Mathlib.Data.List.TakeWhile
import TapeMachine.Proofs.JsonRest

namespace TapeMachine.Json

variable {α β : Type} {s t body rest : List Char}

/-- Whether so many digits stand next to each other in a text. -/
def HasDigitRun (n : Nat) (s : List Char) : Prop :=
  ∃ digits : List Char, digits.length = n ∧ (∀ c ∈ digits, c.isDigit = true) ∧ digits <:+: s

/-- Whether a scan stays within a text: what it leaves and the place of its refusal are ends of the
text, and an integer that is too long for it is a run of digits there. -/
def Within (t : List Char) : Scan α → Prop
  | .ok (_, rest) => rest <:+ t
  | .error (.unexpected _ rest) => rest <:+ t
  | .error (.integerTooLong n) => maxIntegerDigits < n ∧ HasDigitRun n t

theorem Within.mono {r : Scan α} (h : Within s r) (hst : s <:+ t) : Within t r := by
  match r with
  | .ok (_, rest) => exact h.trans hst
  | .error (.unexpected _ rest) => exact h.trans hst
  | .error (.integerTooLong n) =>
    obtain ⟨hlong, digits, hlength, hdigits, hinfix⟩ := h
    exact ⟨hlong, digits, hlength, hdigits, hinfix.trans hst.isInfix⟩

theorem Within.into {r : Scan α} (h : Within t r) (f : α → β) : Within t (Scan.into f r) := by
  match r with
  | .ok (_, rest) => exact h
  | .error (.unexpected _ rest) => exact h
  | .error (.integerTooLong n) => exact h

theorem Within.next {r : Scan α} {f : α → List Char → Scan β} (h : Within t r)
    (hf : ∀ x rest, r = .ok (x, rest) → rest <:+ t → Within t (f x rest)) :
    Within t (Scan.next r f) := by
  match r with
  | .ok (x, rest) => exact hf x rest rfl h
  | .error (.unexpected _ rest) => exact h
  | .error (.integerTooLong n) => exact h

theorem skipSpace_suffix (s : List Char) : skipSpace s <:+ s :=
  s.dropWhile_suffix isSpace

/-! ### Strings -/

theorem suffix_of_codeUnit? {unit : Nat} (h : codeUnit? s = some (unit, rest)) : rest <:+ s := by
  unfold codeUnit? at h
  split at h
  · next a b c d e more =>
    split at h
    · cases h
      exact ⟨[a, b, c, d], rfl⟩
    · cases h
  · cases h

theorem suffix_of_lowSurrogate? {unit : Nat} (h : lowSurrogate? s = some (unit, rest)) :
    rest <:+ s := by
  unfold lowSurrogate? at h
  split at h
  · next more =>
    split at h
    · next hunit =>
      split at h
      · cases h
        exact (suffix_of_codeUnit? hunit).trans ⟨['\\', 'u'], rfl⟩
      · cases h
    · cases h
  · cases h

theorem unitChar_suffix (unit : Nat) (rest : List Char) : (unitChar unit rest).2 <:+ rest := by
  unfold unitChar
  split
  · split
    · next h => exact suffix_of_lowSurrogate? h
    · exact List.suffix_rfl
  · split <;> exact List.suffix_rfl

theorem within_escape {opening backslash : List Char} (hopening : opening <:+ t)
    (hbackslash : backslash <:+ t) (hs : s <:+ backslash) :
    Within t (escape opening backslash s) := by
  have hst := hs.trans hbackslash
  unfold escape
  split
  · next digits =>
    split
    · next unit after hunit =>
      have hafter := (suffix_of_codeUnit? hunit).trans (List.suffix_cons 'u' digits)
      exact ((unitChar_suffix unit after).trans hafter).trans hst
    · exact hst
  · next c rest _ =>
    split
    · exact (List.suffix_cons c rest).trans hst
    · exact hbackslash
  · exact hopening

/-- A string is read within the text from its opening quote on. -/
theorem within_stringFrom (opening done s : List Char) (hs : s <:+ opening) :
    Within opening (stringFrom opening done s) := by
  fun_induction stringFrom opening done s with
  | case1 => exact List.suffix_rfl
  | case2 done rest => exact (List.suffix_cons '"' rest).trans hs
  | case3 done rest r _ hesc =>
    have hescape := within_escape List.suffix_rfl hs (List.suffix_cons '\\' rest)
    rw [hesc] at hescape
    cases r <;> exact hescape
  | case4 done rest _ char after hesc ih =>
    have hescape := within_escape List.suffix_rfl hs (List.suffix_cons '\\' rest)
    rw [hesc] at hescape
    exact ih hescape
  | case5 => exact hs
  | case6 done c rest _ _ _ ih => exact ih ((List.suffix_cons c rest).trans hs)

/-! ### Numbers and words -/

theorem digitRun_snd_suffix (s : List Char) : (digitRun s).2 <:+ s :=
  s.dropWhile_suffix Char.isDigit

theorem numberSign_snd_suffix (s : List Char) : (numberSign s).2 <:+ s := by
  unfold numberSign
  split
  · exact List.suffix_cons _ _
  · exact List.suffix_rfl

theorem integerDigits_snd_suffix (s : List Char) : (integerDigits s).2 <:+ s := by
  unfold integerDigits
  split
  · exact List.suffix_cons _ _
  · exact digitRun_snd_suffix s

theorem fractionDigits_snd_suffix (s : List Char) : (fractionDigits s).2 <:+ s := by
  unfold fractionDigits
  split
  · next rest =>
    split
    · exact List.suffix_rfl
    · next h =>
      have hrun := digitRun_snd_suffix rest
      rw [h] at hrun
      exact hrun.trans (List.suffix_cons _ _)
  · exact List.suffix_rfl

theorem exponentSign_snd_suffix (s : List Char) : (exponentSign s).2 <:+ s := by
  unfold exponentSign
  split
  · exact List.suffix_cons _ _
  · exact List.suffix_cons _ _
  · exact List.suffix_rfl

theorem exponentPart_snd_suffix (s : List Char) : (exponentPart s).2 <:+ s := by
  unfold exponentPart
  split
  · next c rest =>
    split
    · dsimp only
      split
      · exact List.suffix_rfl
      · next h =>
        have hrun := digitRun_snd_suffix (exponentSign rest).2
        rw [h] at hrun
        exact (hrun.trans (exponentSign_snd_suffix rest)).trans (List.suffix_cons _ _)
    · exact List.suffix_rfl
  · exact List.suffix_rfl

/-- The digits of an integer are a run of digits. -/
theorem hasDigitRun_integerDigits (s : List Char) :
    HasDigitRun (integerDigits s).1.length s := by
  refine ⟨(integerDigits s).1, rfl, ?_, ?_⟩
  · unfold integerDigits
    split
    · exact List.forall_mem_singleton.2 rfl
    · exact fun c hc => List.mem_takeWhile_imp hc
  · unfold integerDigits
    split
    · next rest => exact (List.prefix_append ['0'] rest).isInfix
    · exact (s.takeWhile_prefix Char.isDigit).isInfix

theorem within_number (s : List Char) : Within s (bare (number s)) := by
  have hwhole := integerDigits_snd_suffix (numberSign s).2
  have hfraction := fractionDigits_snd_suffix (integerDigits (numberSign s).2).2
  have hexponent := exponentPart_snd_suffix (fractionDigits (integerDigits (numberSign s).2).2).2
  have hrest := ((hexponent.trans hfraction).trans hwhole).trans (numberSign_snd_suffix s)
  rw [bare_number]
  dsimp only
  split
  · exact List.suffix_rfl
  rw [numberValue]
  split
  · split
    · next hlong =>
      obtain ⟨digits, hlength, hdigits, hinfix⟩ := hasDigitRun_integerDigits (numberSign s).2
      exact ⟨hlong, digits, hlength, hdigits, hinfix.trans (numberSign_snd_suffix s).isInfix⟩
    · exact hrest
  · exact hrest

theorem suffix_of_dropWord? {word : List Char} (h : dropWord? word s = some rest) :
    rest <:+ s := by
  induction word generalizing s with
  | nil =>
    cases h
    exact List.suffix_rfl
  | cons w word ih =>
    cases s with
    | nil => cases h
    | cons c s =>
      rw [dropWord?] at h
      split at h
      · exact (ih h).trans (List.suffix_cons c s)
      · cases h

theorem suffix_of_word? {v : Value} (h : word? s = some (v, rest)) : rest <:+ s := by
  obtain ⟨⟨word, w⟩, -, hw⟩ := List.exists_of_findSome?_eq_some h
  obtain ⟨after, hdrop, hrest⟩ := Option.map_eq_some_iff.1 hw
  cases hrest
  exact suffix_of_dropWord? hdrop

theorem within_scalar (hopen : ¬OpensPart s) : Within s (bare (value s)) := by
  rw [bare_value_scalar hopen]
  split
  · next h => exact suffix_of_word? h
  · exact within_number s

/-! ### Values -/

theorem within_partFrom {close : Char} {make : List α → Value}
    {elements : List Char → Scan (List α)} (h : Within s (elements s)) :
    Within s (partFrom close make elements s) := by
  rw [partFrom]
  split
  · exact s.tail_suffix
  · exact h.into make

theorem within_elementsAfter {close : Char} {elements : List Char → Scan (List α)} {x : α}
    (h : ∀ after, s = ',' :: after → Within (skipSpace after) (elements (skipSpace after))) :
    Within s (elementsAfter close elements x s) := by
  rw [elementsAfter]
  split
  · exact s.tail_suffix
  split
  · next hcomma =>
    obtain ⟨after, rfl⟩ := List.head?_eq_some_iff.1 hcomma
    exact ((h after rfl).into _).mono ((skipSpace_suffix after).trans (List.suffix_cons ',' after))
  · exact List.suffix_rfl

theorem within_memberAfter {key : String}
    (h : ∀ after, s = ':' :: after → Within (skipSpace after) (bare (value (skipSpace after)))) :
    Within s (memberAfter key s) := by
  rw [memberAfter]
  split
  · next hcolon =>
    obtain ⟨after, rfl⟩ := List.head?_eq_some_iff.1 hcolon
    exact ((h after rfl).into _).mono ((skipSpace_suffix after).trans (List.suffix_cons ':' after))
  · exact List.suffix_rfl

-- The induction is on the length of the text, and a text weighs one more for its items or members
-- than for its first value.
mutual

/-- Every value is read within its text. -/
theorem within_value (s : List Char) : Within s (bare (value s)) := by
  rcases opensPart_cases s with ⟨body, rfl⟩ | ⟨body, rfl⟩ | ⟨body, rfl⟩ | hopen
  · rw [bare_value_string]
    exact (within_stringFrom _ [] body (List.suffix_cons '"' body)).into _
  · have hle := length_skipSpace_le body
    rw [bare_value_array]
    exact (within_partFrom (within_items (skipSpace body))).mono
      ((skipSpace_suffix body).trans (List.suffix_cons '[' body))
  · have hle := length_skipSpace_le body
    rw [bare_value_object]
    exact (within_partFrom (within_members (skipSpace body))).mono
      ((skipSpace_suffix body).trans (List.suffix_cons '\x7b' body))
  · exact within_scalar hopen
termination_by 2 * s.length
decreasing_by
  all_goals
    subst_vars
    simp only [List.length_cons]
    omega

theorem within_items (s : List Char) : Within s (bare (items s)) := by
  rw [bare_items]
  refine (within_value s).next fun v rest hv hrest => ?_
  refine (within_elementsAfter fun after hafter => ?_).mono ((skipSpace_suffix rest).trans hrest)
  have hlt := length_skipSpace_lt (length_of_bare hv) hafter
  exact within_items (skipSpace after)
termination_by 2 * s.length + 1

theorem within_members (s : List Char) : Within s (bare (members s)) := by
  rw [bare_members]
  refine (within_member s).next fun m rest hm hrest => ?_
  refine (within_elementsAfter fun after hafter => ?_).mono ((skipSpace_suffix rest).trans hrest)
  have hlt := length_skipSpace_lt (length_of_member hm) hafter
  exact within_members (skipSpace after)
termination_by 2 * s.length + 1

theorem within_member (s : List Char) : Within s (member s) := by
  rw [member]
  split
  · next hquote =>
    obtain ⟨body, rfl⟩ := List.head?_eq_some_iff.1 hquote
    refine (within_stringFrom _ [] body (List.suffix_cons '"' body)).next
      fun key rest hkey hrest => ?_
    refine (within_memberAfter fun after hafter => ?_).mono ((skipSpace_suffix rest).trans hrest)
    have hlt := length_skipSpace_lt (length_of_stringFrom hkey) hafter
    exact within_value (skipSpace after)
  · exact List.suffix_rfl
termination_by 2 * s.length
decreasing_by
  subst_vars
  simp only [List.length_cons] at hlt ⊢
  omega

end

/-! ### Whole texts -/

/-- What is refused stands in the text: its place is an end of the text, and the digits of an
integer that is too long stand next to each other. -/
theorem within_of_read {r : Refusal} (h : read s = .error r) :
    Within s (.error r : Scan Value) := by
  have hvalue := (within_value (skipSpace s)).mono (skipSpace_suffix s)
  rw [read_eq_bare] at h
  split at h
  · cases h
    exact List.suffix_rfl
  split at h
  · next he =>
    cases h
    rwa [he] at hvalue
  · next v left hok =>
    rw [hok] at hvalue
    split at h
    · cases h
    · cases h
      exact (skipSpace_suffix left).trans hvalue

end TapeMachine.Json
