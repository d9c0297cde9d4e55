/-
Every text is read back from its bytes.

A character is encoded as a lead byte and up to three continuation bytes.  Decoding
computes its number from them again: the bounds on the first continuation byte shut out
overlong forms and surrogates, and no character needs either.

* **`Utf8.firstChar_encodeChar`** — one character, before any other bytes;
* **`Utf8.decode_encode`** — a whole text.
-/
import TapeMachine.Text.Utf8

namespace TapeMachine.Utf8

/-! ### Bytes as a list -/

/-- The bytes from one on, in front of the ones that were taken already. -/
theorem loop_toList (bytes : ByteArray) (i : Nat) (done : List UInt8) :
    ByteArray.toList.loop bytes i done = done.reverse ++ bytes.data.toList.drop i := by
  fun_induction ByteArray.toList.loop bytes i done with
  | case1 i done hi ih =>
    have hlt : i < bytes.data.toList.length := by simpa using hi
    have hget : bytes.get! i = bytes.data.toList[i] := by
      rw [Array.getElem_toList]
      exact getElem!_pos bytes.data i hi
    rw [ih, List.drop_eq_getElem_cons hlt, hget]
    simp
  | case2 i done hi =>
    have hge : bytes.data.toList.length ≤ i := by simpa using hi
    rw [List.drop_eq_nil_of_le hge, List.append_nil]

theorem toList_toByteArray (bytes : List UInt8) : bytes.toByteArray.toList = bytes := by
  rw [ByteArray.toList, loop_toList, List.data_toByteArray]
  rfl

theorem encode_ofList (chars : List Char) :
    encode (String.ofList chars) = chars.flatMap String.utf8EncodeChar := by
  rw [encode, String.toUTF8_eq_toByteArray, String.toByteArray_ofList, List.utf8Encode,
    toList_toByteArray]

/-! ### Lead bytes -/

deriving instance DecidableEq for Lead

theorem lead_one : ∀ n < 0x80, Lead.of? (UInt8.ofNat n) = some ⟨n, 0, 0x80, 0xBF⟩ := by
  decide

theorem lead_two : ∀ n < 0x20, 2 ≤ n →
    Lead.of? (UInt8.ofNat (n + 0xC0)) = some ⟨n, 1, 0x80, 0xBF⟩ := by
  decide

/-- The byte after a lead byte is narrowed at both ends of what three bytes can say. -/
theorem lead_three : ∀ n < 0x10,
    Lead.of? (UInt8.ofNat (n + 0xE0)) =
      some ⟨n, 2, if n = 0 then 0xA0 else 0x80, if n = 0xD then 0x9F else 0xBF⟩ := by
  decide

theorem lead_four : ∀ n < 5,
    Lead.of? (UInt8.ofNat (n + 0xF0)) =
      some ⟨n, 3, if n = 0 then 0x90 else 0x80, if n = 4 then 0x8F else 0xBF⟩ := by
  decide

/-! ### Continuation bytes -/

/-- A continuation byte within its bounds adds six bits. -/
theorem continuation_cons {n : Nat} {least greatest : UInt8}
    (hleast : least.toNat ≤ n % 0x40 + 0x80) (hgreatest : n % 0x40 + 0x80 ≤ greatest.toNat)
    (value following good : Nat) (rest : List UInt8) :
    continuation value (following + 1) least greatest good (UInt8.ofNat (n % 0x40 + 0x80) :: rest) =
      continuation (value * 64 + n % 0x40) following 0x80 0xBF (good + 1) rest := by
  have hbyte : (UInt8.ofNat (n % 0x40 + 0x80)).toNat = n % 0x40 + 0x80 := by
    rw [UInt8.toNat_ofNat']
    exact Nat.mod_eq_of_lt (by omega)
  have hbounds : least ≤ UInt8.ofNat (n % 0x40 + 0x80) ∧
      UInt8.ofNat (n % 0x40 + 0x80) ≤ greatest := by
    rw [UInt8.le_iff_toNat_le, UInt8.le_iff_toNat_le, hbyte]
    exact ⟨hleast, hgreatest⟩
  rw [continuation]
  dsimp only
  rw [if_pos hbounds, hbyte, Nat.add_sub_cancel]

/-- A continuation byte that no lead byte has narrowed. -/
theorem continuation_cons_wide (n value following good : Nat) (rest : List UInt8) :
    continuation value (following + 1) 0x80 0xBF good (UInt8.ofNat (n % 0x40 + 0x80) :: rest) =
      continuation (value * 64 + n % 0x40) following 0x80 0xBF (good + 1) rest := by
  have hleast : (0x80 : UInt8).toNat = 0x80 := rfl
  have hgreatest : (0xBF : UInt8).toNat = 0xBF := rfl
  exact continuation_cons (by omega) (by omega) value following good rest

/-! ### Characters -/

variable {v : Nat}

theorem firstChar_one (h : v ≤ 0x7F) (rest : List UInt8) :
    firstChar (UInt8.ofNat v) rest = .ok (Char.ofNat v, rest) := by
  rw [firstChar, lead_one v (by omega)]
  rfl

theorem firstChar_two (hlow : 0x7F < v) (hhigh : v ≤ 0x7FF) (rest : List UInt8) :
    firstChar (UInt8.ofNat (v / 64 % 0x20 + 0xC0)) (UInt8.ofNat (v % 0x40 + 0x80) :: rest) =
      .ok (Char.ofNat v, rest) := by
  have hvalue : v / 64 % 0x20 * 64 + v % 0x40 = v := by omega
  rw [firstChar, lead_two (v / 64 % 0x20) (by omega) (by omega)]
  dsimp only
  rw [continuation_cons_wide, hvalue]
  rfl

/-- Three bytes say neither less than two can nor a surrogate. -/
theorem firstChar_three (hlow : 0x7FF < v) (hhigh : v ≤ 0xFFFF)
    (hsurrogate : v < 0xD800 ∨ 0xDFFF < v) (rest : List UInt8) :
    firstChar (UInt8.ofNat (v / 4096 % 0x10 + 0xE0))
        (UInt8.ofNat (v / 64 % 0x40 + 0x80) :: UInt8.ofNat (v % 0x40 + 0x80) :: rest) =
      .ok (Char.ofNat v, rest) := by
  have hvalue : (v / 4096 % 0x10 * 64 + v / 64 % 0x40) * 64 + v % 0x40 = v := by omega
  have hleast : (if v / 4096 % 0x10 = 0 then 0xA0 else 0x80 : UInt8).toNat ≤
      v / 64 % 0x40 + 0x80 := by
    split
    · show 0xA0 ≤ _
      omega
    · show 0x80 ≤ _
      omega
  have hgreatest : v / 64 % 0x40 + 0x80 ≤
      (if v / 4096 % 0x10 = 0xD then 0x9F else 0xBF : UInt8).toNat := by
    split
    · show _ ≤ 0x9F
      omega
    · show _ ≤ 0xBF
      omega
  rw [firstChar, lead_three (v / 4096 % 0x10) (by omega)]
  dsimp only
  rw [continuation_cons hleast hgreatest, continuation_cons_wide, hvalue]
  rfl

/-- Four bytes say neither less than three can nor more than there are characters. -/
theorem firstChar_four (hlow : 0xFFFF < v) (hhigh : v < 0x110000) (rest : List UInt8) :
    firstChar (UInt8.ofNat (v / 262144 % 0x08 + 0xF0))
        (UInt8.ofNat (v / 4096 % 0x40 + 0x80) :: UInt8.ofNat (v / 64 % 0x40 + 0x80) ::
          UInt8.ofNat (v % 0x40 + 0x80) :: rest) =
      .ok (Char.ofNat v, rest) := by
  have hvalue : ((v / 262144 % 0x08 * 64 + v / 4096 % 0x40) * 64 + v / 64 % 0x40) * 64 +
      v % 0x40 = v := by
    omega
  have hleast : (if v / 262144 % 0x08 = 0 then 0x90 else 0x80 : UInt8).toNat ≤
      v / 4096 % 0x40 + 0x80 := by
    split
    · show 0x90 ≤ _
      omega
    · show 0x80 ≤ _
      omega
  have hgreatest : v / 4096 % 0x40 + 0x80 ≤
      (if v / 262144 % 0x08 = 4 then 0x8F else 0xBF : UInt8).toNat := by
    split
    · show _ ≤ 0x8F
      omega
    · show _ ≤ 0xBF
      omega
  rw [firstChar, lead_four (v / 262144 % 0x08) (by omega)]
  dsimp only
  rw [continuation_cons hleast hgreatest, continuation_cons_wide, continuation_cons_wide, hvalue]
  rfl

/-- A character is read back, whatever bytes follow. -/
theorem firstChar_encodeChar (c : Char) (rest : List UInt8) :
    ∃ b more, String.utf8EncodeChar c = b :: more ∧ firstChar b (more ++ rest) = .ok (c, rest) := by
  have hvalid : c.val.toNat < 0xD800 ∨ 0xDFFF < c.val.toNat ∧ c.val.toNat < 0x110000 := c.valid
  have hchar : Char.ofNat c.val.toNat = c := Char.ofNat_toNat c
  rw [String.utf8EncodeChar]
  generalize c.val.toNat = v at *
  rw [← hchar]
  by_cases h₁ : v ≤ 0x7F
  · exact ⟨_, _, if_pos h₁, firstChar_one h₁ rest⟩
  rw [if_neg h₁]
  by_cases h₂ : v ≤ 0x7FF
  · exact ⟨_, _, if_pos h₂, firstChar_two (by omega) h₂ rest⟩
  rw [if_neg h₂]
  by_cases h₃ : v ≤ 0xFFFF
  · exact ⟨_, _, if_pos h₃, firstChar_three (by omega) h₃ (by omega) rest⟩
  · exact ⟨_, _, if_neg h₃, firstChar_four (by omega) (by omega) rest⟩

/-! ### Texts -/

/-- A character is decoded, and decoding goes on behind it. -/
theorem decodeFrom_of_ok {b : UInt8} {bytes rest : List UInt8} {c : Char}
    (h : firstChar b bytes = .ok (c, rest)) (place : Nat) (done : List Char) :
    decodeFrom place done (b :: bytes) = decodeFrom (place + c.utf8Size) (c :: done) rest := by
  rw [decodeFrom]
  split
  · next he => cases h.symm.trans he
  · next he =>
    cases h.symm.trans he
    rfl

/-- Characters in front are decoded, and decoding goes on behind them. -/
theorem decodeFrom_append (chars : List Char) (rest : List UInt8) (place : Nat)
    (done : List Char) :
    decodeFrom place done (chars.flatMap String.utf8EncodeChar ++ rest) =
      decodeFrom (place + (chars.flatMap String.utf8EncodeChar).length) (chars.reverse ++ done)
        rest := by
  induction chars generalizing place done with
  | nil => rfl
  | cons c chars ih =>
    obtain ⟨b, more, hbytes, hfirst⟩ :=
      firstChar_encodeChar c (chars.flatMap String.utf8EncodeChar ++ rest)
    have hlength : (b :: more).length = c.utf8Size := by
      rw [← hbytes, String.length_utf8EncodeChar]
    rw [List.flatMap_cons, hbytes, List.append_assoc, List.cons_append, decodeFrom_of_ok hfirst, ih,
      List.length_append, hlength, Nat.add_assoc, List.reverse_cons, List.append_assoc,
      List.singleton_append]

/-- **The bytes of a text are read as that text.** -/
theorem decode_encode (text : String) : decode (encode text) = .ok text.toList := by
  have hbytes := encode_ofList text.toList
  rw [String.ofList_toList] at hbytes
  have hdecode := decodeFrom_append text.toList [] 0 []
  rw [List.append_nil, List.append_nil] at hdecode
  rw [hbytes, decode, hdecode, decodeFrom, List.reverse_reverse]

end TapeMachine.Utf8
