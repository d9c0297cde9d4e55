/-
Strings and integers are read back from JSON.

A text reads back character by character, whatever escape each was written with, and an
integer digit by digit, up to the number of digits that are read at all.

* **`Json.stringFrom_charText`** — one character, inside quotes;
* **`Json.stringFrom_stringText`** — a text in quotes;
* **`Json.Reads`** — what it means to read a part of a text;
* **`Json.number_intText`** — an integer, before whatever does not carry it on.

Design notes:

* What follows a value decides whether the value ends there: a digit would be taken for a
  part of a number.  So each fact is stated with the rest of the text, which after a value
  is empty or starts with a comma or a closing bracket (`Json.Stops`).
-/
import Mathlib.Tactic.SplitIfs
import TapeMachine.Json.Reader
import TapeMachine.Json.Writer

namespace TapeMachine.Json

/-! ### Strings -/

section Strings

variable {opening done rest : List Char} {c : Char} {n : Nat}

/-- Four hexadecimal digits are read as the number that they write. -/
theorem codeUnit?_hex (h : n < 0x10000) (c : Char) (rest : List Char) :
    codeUnit? (Text.hex 4 n ++ c :: rest) = some (n, c :: rest) := by
  have hhex : Text.hex 4 n ++ c :: rest =
      Text.hexDigit (n / 16 / 16 / 16 % 16) :: Text.hexDigit (n / 16 / 16 % 16) ::
        Text.hexDigit (n / 16 % 16) :: Text.hexDigit (n % 16) :: c :: rest := rfl
  have hvalue : ∀ m, Text.hexValue? (Text.hexDigit (m % 16)) = some (m % 16) :=
    fun m => Text.hexValue?_hexDigit (m % 16) (Nat.mod_lt m (by decide))
  rw [hhex]
  simp only [codeUnit?, hvalue]
  congr 2
  omega

/-- An escape in a string stands for one character. -/
theorem stringFrom_escape {s : List Char}
    (h : escape opening ('\\' :: s) s = .ok (c, rest)) :
    stringFrom opening done ('\\' :: s) = stringFrom opening (c :: done) rest := by
  rw [stringFrom, if_neg (by decide), if_pos rfl]
  split
  · next hesc =>
    rw [h] at hesc
    cases hesc
  · next hesc =>
    rw [h] at hesc
    cases hesc
    rfl

/-- A character that needs no escape stands for itself. -/
theorem stringFrom_plain (hquote : c ≠ '"') (hslash : c ≠ '\\') (hlow : 0x20 ≤ c.toNat) :
    stringFrom opening done (c :: rest) = stringFrom opening (c :: done) rest := by
  rw [stringFrom, if_neg hquote, if_neg hslash, if_neg (by omega)]

theorem escape_unitEscape (h : n < 0x10000) (backslash : List Char) (c : Char) (rest : List Char) :
    escape opening backslash ('u' :: (Text.hex 4 n ++ c :: rest)) =
      .ok (unitChar n (c :: rest)) := by
  rw [escape, codeUnit?_hex h]

/-- No character has the number of a surrogate. -/
theorem not_surrogate (c : Char) : ¬(0xD800 ≤ c.toNat ∧ c.toNat ≤ 0xDFFF) := by
  have hvalid : c.toNat < 0xD800 ∨ 0xDFFF < c.toNat ∧ c.toNat < 0x110000 := c.valid
  omega

/-- A code unit that is no surrogate is a character of its own. -/
theorem unitChar_toNat (c : Char) (rest : List Char) : unitChar c.toNat rest = (c, rest) := by
  have hno := not_surrogate c
  rw [unitChar, if_neg (by omega), if_neg (by omega), Char.ofNat_toNat]

/-- The two halves of a character beyond U+FFFF are read together. -/
theorem unitChar_pair (hc : 0x10000 ≤ c.toNat) (d : Char) (rest : List Char) :
    unitChar (0xD800 + (c.toNat - 0x10000) / 0x400)
        (unitEscape (0xDC00 + (c.toNat - 0x10000) % 0x400) ++ d :: rest) =
      (c, d :: rest) := by
  have hvalid : c.toNat < 0xD800 ∨ 0xDFFF < c.toNat ∧ c.toNat < 0x110000 := c.valid
  have hlow : lowSurrogate? (unitEscape (0xDC00 + (c.toNat - 0x10000) % 0x400) ++ d :: rest) =
      some (0xDC00 + (c.toNat - 0x10000) % 0x400, d :: rest) := by
    show lowSurrogate? ('\\' :: 'u' :: (Text.hex 4 _ ++ d :: rest)) = _
    rw [lowSurrogate?, codeUnit?_hex (by omega)]
    exact if_pos (by omega)
  have hchar : 0x10000 + (0xD800 + (c.toNat - 0x10000) / 0x400 - 0xD800) * 0x400 +
      (0xDC00 + (c.toNat - 0x10000) % 0x400 - 0xDC00) = c.toNat := by
    omega
  rw [unitChar, if_pos (by omega), hlow]
  simp only [hchar, Char.ofNat_toNat]

/-- **A character inside quotes is read back**, however it was escaped. -/
theorem stringFrom_charText (c d : Char) (rest : List Char) :
    stringFrom opening done (charText c ++ d :: rest) =
      stringFrom opening (c :: done) (d :: rest) := by
  rw [charText]
  dsimp only
  split_ifs with hquote h h h h h hplain hsmall
  · rcases hquote with rfl | rfl <;> exact stringFrom_escape rfl
  -- The escapes of one letter.
  iterate 5
    · subst h
      exact stringFrom_escape rfl
  · exact stringFrom_plain (fun h => hquote (.inl h)) (fun h => hquote (.inr h)) hplain.1
  · refine stringFrom_escape ?_
    rw [← unitChar_toNat c (d :: rest)]
    exact escape_unitEscape hsmall _ d rest
  -- The first escape of a pair takes the second one with it.
  · have hvalid : c.toNat < 0xD800 ∨ 0xDFFF < c.toNat ∧ c.toNat < 0x110000 := c.valid
    rw [List.append_assoc]
    refine stringFrom_escape ?_
    rw [← unitChar_pair (by omega) d rest]
    exact escape_unitEscape (by omega) _ '\\' _

theorem stringFrom_flatMap (chars : List Char) (rest : List Char) :
    stringFrom opening done (chars.flatMap charText ++ '"' :: rest) =
      .ok (String.ofList (done.reverse ++ chars), rest) := by
  induction chars generalizing done with
  | nil =>
    rw [List.flatMap_nil, List.nil_append, stringFrom, if_pos rfl, List.append_nil]
  | cons c chars ih =>
    -- What follows the character is another one or the closing quote.
    obtain ⟨d, more, hmore⟩ : ∃ d more, chars.flatMap charText ++ '"' :: rest = d :: more :=
      List.exists_cons_of_ne_nil (by simp)
    rw [List.flatMap_cons, List.append_assoc, hmore, stringFrom_charText, ← hmore, ih]
    simp

/-- **A text in quotes is read back.** -/
theorem stringFrom_stringText (s : String) (rest : List Char) :
    stringFrom opening [] (s.toList.flatMap charText ++ '"' :: rest) = .ok (s, rest) := by
  rw [stringFrom_flatMap, List.reverse_nil, List.nil_append, String.ofList_toList]

end Strings

/-- A part of a text is read as `a`, and `rest` is left of the text. -/
def Reads {α : Type} {s : List Char} (result : Except Refusal (α × Rest s)) (a : α)
    (rest : List Char) : Prop :=
  ∃ hlt, result = .ok (a, ⟨rest, hlt⟩)

/-! ### Numbers -/

/-- What may follow a value: nothing, a comma, or the bracket that closes what the value is part
of. -/
def Stops (rest : List Char) : Prop :=
  ∀ c ∈ rest.head?, c = ',' ∨ c = ']' ∨ c = '\x7d'

theorem stops_nil : Stops [] := by
  intro c hc
  cases hc

theorem stops_cons {c : Char} (h : c = ',' ∨ c = ']' ∨ c = '\x7d') (rest : List Char) :
    Stops (c :: rest) := by
  intro d hd
  cases hd
  exact h

section Numbers

variable {rest : List Char}

theorem Stops.not_isDigit (h : Stops rest) {c : Char} (hc : c ∈ rest.head?) :
    c.isDigit = false := by
  rcases h c hc with rfl | rfl | rfl <;> rfl

/-- A run of digits ends where no digit follows. -/
theorem digitRun_append {digits : List Char} (hdigits : ∀ c ∈ digits, c.isDigit = true)
    (h : Stops rest) : digitRun (digits ++ rest) = (digits, rest) := by
  rw [digitRun, List.takeWhile_append_of_pos hdigits, List.dropWhile_append_of_pos hdigits]
  cases rest with
  | nil => rw [List.takeWhile_nil, List.append_nil, List.dropWhile_nil]
  | cons c rest =>
    have hc : ¬c.isDigit = true := by rw [h.not_isDigit rfl]; exact Bool.false_ne_true
    rw [List.takeWhile_cons_of_neg hc, List.append_nil, List.dropWhile_cons_of_neg hc]

theorem Stops.fractionDigits_eq (h : Stops rest) : fractionDigits rest = ([], rest) := by
  unfold fractionDigits
  split
  · rcases h '.' rfl with h | h | h <;> cases h
  · rfl

theorem Stops.exponentPart_eq (h : Stops rest) : exponentPart rest = (none, rest) := by
  unfold exponentPart
  split
  · next c rest =>
    rw [if_neg]
    rcases h c rfl with rfl | rfl | rfl <;> decide
  · rfl

/-- The digits of a number other than 0 do not start with a zero. -/
theorem toDigits_eq_cons {n : Nat} (h : n ≠ 0) :
    ∃ c digits, Nat.toDigits 10 n = c :: digits ∧ c ≠ '0' := by
  induction n using Nat.strongRecOn with
  | ind n ih =>
    rw [Nat.toDigits_eq_if (by decide)]
    by_cases hlt : n < 10
    · have hzero : ∀ m < 10, m ≠ 0 → Nat.digitChar m ≠ '0' := by decide
      rw [if_pos hlt]
      exact ⟨_, [], rfl, hzero n hlt h⟩
    · obtain ⟨c, digits, hdigits, hc⟩ := ih (n / 10) (by omega) (by omega)
      rw [if_neg hlt, hdigits]
      exact ⟨c, _, rfl, hc⟩

/-- What is no digit differs from every digit. -/
theorem ne_of_isDigit {c d : Char} (hc : c.isDigit = true) (hd : d.isDigit = false) : c ≠ d := by
  rintro rfl
  cases hc.symm.trans hd

/-- The digits of a number are read as the digits of an integer. -/
theorem integerDigits_toDigits (n : Nat) (h : Stops rest) :
    integerDigits (Nat.toDigits 10 n ++ rest) = (Nat.toDigits 10 n, rest) := by
  by_cases hn : n = 0
  · subst hn
    rfl
  · obtain ⟨c, digits, hdigits, hc⟩ := toDigits_eq_cons hn
    unfold integerDigits
    split
    · next heq =>
      rw [hdigits, List.cons_append, List.cons.injEq] at heq
      exact absurd heq.1 hc
    · exact digitRun_append (fun c => Nat.isDigit_of_mem_toDigits (by decide) (by decide)) h

theorem natOfDigits_toDigits (n : Nat) : natOfDigits (Nat.toDigits 10 n) = n := by
  have hread : natOfDigits (Nat.toDigits 10 n) = Nat.ofDigitChars 10 (Nat.toDigits 10 n) 0 := by
    simp only [natOfDigits, Nat.ofDigitChars, Nat.mul_comm]
    rfl
  rw [hread, Nat.ofDigitChars_toDigits (by decide) (by decide)]

theorem intText_eq (i : Int) :
    intText i = (if i < 0 then ['-'] else []) ++ Nat.toDigits 10 i.natAbs := by
  rw [intText]
  split <;> rfl

/-- The sign of an integer stands before its digits. -/
theorem numberSign_intText (i : Int) (rest : List Char) :
    numberSign (intText i ++ rest) = (decide (i < 0), Nat.toDigits 10 i.natAbs ++ rest) := by
  rw [intText]
  by_cases hi : i < 0
  · rw [if_pos hi, List.cons_append, numberSign, decide_eq_true hi]
  · rw [if_neg hi, decide_eq_false hi]
    unfold numberSign
    split
    · next heq =>
      -- A digit is no sign.
      have hmem : '-' ∈ Nat.toDigits 10 i.natAbs := by
        obtain ⟨c, digits, hdigits⟩ :=
          List.exists_cons_of_ne_nil (Nat.toDigits_ne_nil (n := i.natAbs) (b := 10))
        rw [hdigits, List.cons_append, List.cons.injEq] at heq
        rw [hdigits, heq.1]
        exact List.mem_cons_self
      cases Nat.isDigit_of_mem_toDigits (by decide) (by decide) hmem
    · rfl

theorem signed_natAbs (i : Int) : signed (decide (i < 0)) i.natAbs = i := by
  rw [signed]
  by_cases hi : i < 0
  · rw [if_pos (decide_eq_true hi)]
    omega
  · rw [if_neg (by simpa using hi)]
    omega

/-- **An integer is read back**, if it has no more digits than are read. -/
theorem number_intText {i : Int} (hi : (Nat.toDigits 10 i.natAbs).length ≤ maxIntegerDigits)
    (h : Stops rest) : Reads (number (intText i ++ rest)) (.int i) rest := by
  have hsign := numberSign_intText i rest
  have hwhole := integerDigits_toDigits i.natAbs h
  have hvalue : numberValue (decide (i < 0)) (Nat.toDigits 10 i.natAbs) [] none = .ok (.int i) := by
    rw [numberValue, if_pos ⟨rfl, rfl⟩, if_neg (by omega), natOfDigits_toDigits, signed_natAbs]
  have hlt : rest.length < (intText i ++ rest).length := by
    have hpos := List.length_pos_iff.mpr (Nat.toDigits_ne_nil (n := i.natAbs) (b := 10))
    rw [intText_eq, List.length_append, List.length_append]
    omega
  refine ⟨hlt, ?_⟩
  unfold number
  dsimp only
  split
  · next hnone =>
    rw [hsign, hwhole] at hnone
    exact absurd hnone Nat.toDigits_ne_nil
  · split
    · next herror =>
      simp only [hsign, hwhole, h.fractionDigits_eq, h.exponentPart_eq, hvalue] at herror
      cases herror
    · next v hv =>
      simp only [hsign, hwhole, h.fractionDigits_eq, h.exponentPart_eq, hvalue] at hv
      cases hv
      simp only [hsign, hwhole, h.fractionDigits_eq, h.exponentPart_eq]

end Numbers

end TapeMachine.Json
