/-
The first defect of a byte string.

Bytes are decoded if and only if they are the encoding of a text, and then that text is what they
are decoded to.  Otherwise the bytes in front of the defect are such an encoding, no character
starts where it starts, and it extends as far as the bytes could still have become one.

What counts as a character is settled by the encoder alone, so none of this speaks of lead bytes
and their bounds.

* **`Utf8.firstChar_eq_ok_iff`** — a character is decoded from its own bytes and from no others;
* **`Utf8.Unfinished`** — bytes that some character starts with, but that are not all of it;
* **`Utf8.continuation_eq_error`** — where decoding stops, a character could have been finished
  before, and cannot be from there;
* **`Utf8.FirstDefect`** — where a defect starts and how far it extends;
* **`Utf8.decode_eq_ok_iff`** — which bytes are decoded, and to what;
* **`Utf8.firstDefect_of_decode`**, **`Utf8.decode_of_firstDefect`** — what becomes of the others.
-/
import Mathlib.Order.Bounds.Basic
import TapeMachine.Proofs.Utf8Text

namespace TapeMachine.Utf8

open String (utf8EncodeChar)

variable {b : UInt8} {bytes rest more : List UInt8} {c : Char} {lead : Lead}
  {value following good v n : Nat} {least greatest : UInt8} {reason : Reason}

/-! ### The bytes of a character -/

theorem toNat_ofNat (h : v.isValidChar) : (Char.ofNat v).val.toNat = v := by
  rw [Char.ofNat, dif_pos h]
  rfl

theorem encodeChar_one (h : v ≤ 0x7F) : utf8EncodeChar (Char.ofNat v) = [UInt8.ofNat v] := by
  have hvalid : v.isValidChar := .inl (by omega)
  rw [utf8EncodeChar, toNat_ofNat hvalid]
  exact if_pos h

theorem encodeChar_two (hlow : 0x7F < v) (hhigh : v ≤ 0x7FF) :
    utf8EncodeChar (Char.ofNat v) =
      [UInt8.ofNat (v / 64 % 0x20 + 0xC0), UInt8.ofNat (v % 0x40 + 0x80)] := by
  have hvalid : v.isValidChar := .inl (by omega)
  rw [utf8EncodeChar, toNat_ofNat hvalid, if_neg (by omega), if_pos hhigh]

theorem encodeChar_three (hlow : 0x7FF < v) (hhigh : v ≤ 0xFFFF)
    (hsurrogate : v < 0xD800 ∨ 0xDFFF < v) :
    utf8EncodeChar (Char.ofNat v) =
      [UInt8.ofNat (v / 4096 % 0x10 + 0xE0), UInt8.ofNat (v / 64 % 0x40 + 0x80),
        UInt8.ofNat (v % 0x40 + 0x80)] := by
  have hvalid : v.isValidChar := hsurrogate.imp_right fun h => ⟨h, by omega⟩
  rw [utf8EncodeChar, toNat_ofNat hvalid, if_neg (by omega), if_neg (by omega), if_pos hhigh]

theorem encodeChar_four (hlow : 0xFFFF < v) (hhigh : v < 0x110000) :
    utf8EncodeChar (Char.ofNat v) =
      [UInt8.ofNat (v / 262144 % 0x08 + 0xF0), UInt8.ofNat (v / 4096 % 0x40 + 0x80),
        UInt8.ofNat (v / 64 % 0x40 + 0x80), UInt8.ofNat (v % 0x40 + 0x80)] := by
  have hvalid : v.isValidChar := .inr ⟨by omega, hhigh⟩
  rw [utf8EncodeChar, toNat_ofNat hvalid, if_neg (by omega), if_neg (by omega), if_neg (by omega)]

/-! ### Nothing else is decoded -/

/-- Continuation bytes lead nothing, nor do the lead bytes of overlong forms. -/
theorem lead_none_low : ∀ n < 0x42, Lead.of? (UInt8.ofNat (n + 0x80)) = none := by
  decide

/-- Lead bytes of numbers that are too great. -/
theorem lead_none_high : ∀ n < 0xB, Lead.of? (UInt8.ofNat (n + 0xF5)) = none := by
  decide

/-- A byte that leads something belongs to one of four classes. -/
theorem lead_cases (h : Lead.of? b = some lead) :
    (∃ n < 0x80, b = UInt8.ofNat n ∧ lead = ⟨n, 0, 0x80, 0xBF⟩) ∨
      (∃ n < 0x20, 2 ≤ n ∧ b = UInt8.ofNat (n + 0xC0) ∧ lead = ⟨n, 1, 0x80, 0xBF⟩) ∨
      (∃ n < 0x10, b = UInt8.ofNat (n + 0xE0) ∧
        lead = ⟨n, 2, if n = 0 then 0xA0 else 0x80, if n = 0xD then 0x9F else 0xBF⟩) ∨
      ∃ n < 5, b = UInt8.ofNat (n + 0xF0) ∧
        lead = ⟨n, 3, if n = 0 then 0x90 else 0x80, if n = 4 then 0x8F else 0xBF⟩ := by
  obtain ⟨n, hn, rfl⟩ : ∃ n < 0x100, b = UInt8.ofNat n :=
    ⟨b.toNat, b.toNat_lt, UInt8.ofNat_toNat.symm⟩
  by_cases h₁ : n < 0x80
  · rw [lead_one n h₁] at h
    exact .inl ⟨n, h₁, rfl, (Option.some.inj h).symm⟩
  by_cases hlow : n < 0xC2
  · obtain ⟨k, rfl⟩ : ∃ k, n = k + 0x80 := ⟨n - 0x80, by omega⟩
    rw [lead_none_low k (by omega)] at h
    cases h
  by_cases hhigh : 0xF5 ≤ n
  · obtain ⟨k, rfl⟩ : ∃ k, n = k + 0xF5 := ⟨n - 0xF5, by omega⟩
    rw [lead_none_high k (by omega)] at h
    cases h
  by_cases h₂ : n < 0xE0
  · obtain ⟨k, rfl⟩ : ∃ k, n = k + 0xC0 := ⟨n - 0xC0, by omega⟩
    rw [lead_two k (by omega) (by omega)] at h
    exact .inr (.inl ⟨k, by omega, by omega, rfl, (Option.some.inj h).symm⟩)
  by_cases h₃ : n < 0xF0
  · obtain ⟨k, rfl⟩ : ∃ k, n = k + 0xE0 := ⟨n - 0xE0, by omega⟩
    rw [lead_three k (by omega)] at h
    exact .inr (.inr (.inl ⟨k, by omega, rfl, (Option.some.inj h).symm⟩))
  · obtain ⟨k, rfl⟩ : ∃ k, n = k + 0xF0 := ⟨n - 0xF0, by omega⟩
    rw [lead_four k (by omega)] at h
    exact .inr (.inr (.inr ⟨k, by omega, rfl, (Option.some.inj h).symm⟩))

theorem continuation_zero :
    continuation value 0 least greatest good bytes = .ok (value, bytes) :=
  rfl

/-- The bounds of a continuation byte that no lead byte has narrowed. -/
theorem wide_bounds : (0x80 : UInt8) ≤ 0xBF := by
  decide

/-- The bounds that a lead byte sets leave something between them. -/
theorem least_le_greatest (h : Lead.of? b = some lead) : lead.least ≤ lead.greatest := by
  have hthree : ∀ n < 0x10, (if n = 0 then 0xA0 else 0x80 : UInt8) ≤
      (if n = 0xD then 0x9F else 0xBF : UInt8) := by
    decide
  have hfour : ∀ n < 5, (if n = 0 then 0x90 else 0x80 : UInt8) ≤
      (if n = 4 then 0x8F else 0xBF : UInt8) := by
    decide
  rcases lead_cases h with ⟨n, hn, rfl, rfl⟩ | ⟨n, hn, hn', rfl, rfl⟩ | ⟨n, hn, rfl, rfl⟩ |
    ⟨n, hn, rfl, rfl⟩
  · exact wide_bounds
  · exact wide_bounds
  · exact hthree n hn
  · exact hfour n hn

/-- A continuation byte that was accepted lies within its bounds, and the others follow. -/
theorem continuation_succ_eq_ok
    (h : continuation value (following + 1) least greatest good bytes = .ok (v, more)) :
    ∃ n rest, bytes = UInt8.ofNat n :: rest ∧ least.toNat ≤ n ∧ n ≤ greatest.toNat ∧
      continuation (value * 64 + (n - 0x80)) following 0x80 0xBF (good + 1) rest =
        .ok (v, more) := by
  rcases bytes with _ | ⟨b, rest⟩
  · cases h
  rw [continuation] at h
  dsimp only at h
  split at h
  · next hbounds =>
    rw [UInt8.le_iff_toNat_le, UInt8.le_iff_toNat_le] at hbounds
    exact ⟨b.toNat, rest, by rw [UInt8.ofNat_toNat], hbounds.1, hbounds.2, h⟩
  · cases h

/-- A lower bound that a lead byte may have raised. -/
theorem least_le {p : Prop} [Decidable p] {x : UInt8} (hx : 0x80 ≤ x.toNat)
    (h : (if p then x else 0x80 : UInt8).toNat ≤ n) : 0x80 ≤ n ∧ (p → x.toNat ≤ n) := by
  split at h
  · exact ⟨Nat.le_trans hx h, fun _ => h⟩
  · next hp => exact ⟨h, fun hp' => absurd hp' hp⟩

/-- An upper bound that a lead byte may have lowered. -/
theorem le_greatest {p : Prop} [Decidable p] {x : UInt8} (hx : x.toNat ≤ 0xBF)
    (h : n ≤ (if p then x else 0xBF : UInt8).toNat) : n ≤ 0xBF ∧ (p → n ≤ x.toNat) := by
  split at h
  · exact ⟨Nat.le_trans h hx, fun _ => h⟩
  · next hp => exact ⟨h, fun hp' => absurd hp' hp⟩

/-- Bytes that were decoded are those of the character. -/
theorem eq_encodeChar_of_firstChar (h : firstChar b bytes = .ok (c, more)) :
    b :: bytes = utf8EncodeChar c ++ more := by
  rw [firstChar] at h
  split at h
  · cases h
  next lead hlead =>
  split at h
  · cases h
  next v rest hcont =>
  cases h
  have hleast : (0x80 : UInt8).toNat = 0x80 := rfl
  have hgreatest : (0xBF : UInt8).toNat = 0xBF := rfl
  -- The bytes are written as the encoder does, and their number is computed back.
  rcases lead_cases hlead with ⟨n, hn, rfl, rfl⟩ | ⟨n, hn, hn', rfl, rfl⟩ | ⟨n, hn, rfl, rfl⟩ |
    ⟨n, hn, rfl, rfl⟩ <;> dsimp only at hcont
  · obtain ⟨rfl, rfl⟩ := Prod.mk.inj (Except.ok.inj hcont)
    rw [encodeChar_one (by omega)]
    rfl
  · obtain ⟨i, bytes, rfl, hi, hi', hcont⟩ := continuation_succ_eq_ok hcont
    rw [continuation_zero] at hcont
    obtain ⟨rfl, rfl⟩ := Prod.mk.inj (Except.ok.inj hcont)
    have h₁ : (n * 64 + (i - 0x80)) / 64 % 0x20 + 0xC0 = n + 0xC0 := by omega
    have h₂ : (n * 64 + (i - 0x80)) % 0x40 + 0x80 = i := by omega
    rw [encodeChar_two (by omega) (by omega), h₁, h₂]
    rfl
  · obtain ⟨i, bytes, rfl, hi, hi', hcont⟩ := continuation_succ_eq_ok hcont
    obtain ⟨j, bytes, rfl, hj, hj', hcont⟩ := continuation_succ_eq_ok hcont
    rw [continuation_zero] at hcont
    obtain ⟨rfl, rfl⟩ := Prod.mk.inj (Except.ok.inj hcont)
    obtain ⟨hlow, hoverlong⟩ := least_le (by decide) hi
    obtain ⟨hhigh, hsurrogate⟩ := le_greatest (by decide) hi'
    have hoverlong : n = 0 → 0xA0 ≤ i := hoverlong
    have hsurrogate : n = 0xD → i ≤ 0x9F := hsurrogate
    generalize hv : (n * 64 + (i - 0x80)) * 64 + (j - 0x80) = v
    have h₁ : v / 4096 % 0x10 = n := by omega
    have h₂ : v / 64 % 0x40 + 0x80 = i := by omega
    have h₃ : v % 0x40 + 0x80 = j := by omega
    rw [encodeChar_three (by omega) (by omega) (by omega), h₁, h₂, h₃]
    rfl
  · obtain ⟨i, bytes, rfl, hi, hi', hcont⟩ := continuation_succ_eq_ok hcont
    obtain ⟨j, bytes, rfl, hj, hj', hcont⟩ := continuation_succ_eq_ok hcont
    obtain ⟨k, bytes, rfl, hk, hk', hcont⟩ := continuation_succ_eq_ok hcont
    rw [continuation_zero] at hcont
    obtain ⟨rfl, rfl⟩ := Prod.mk.inj (Except.ok.inj hcont)
    obtain ⟨hlow, hoverlong⟩ := least_le (by decide) hi
    obtain ⟨hhigh, htoo⟩ := le_greatest (by decide) hi'
    have hoverlong : n = 0 → 0x90 ≤ i := hoverlong
    have htoo : n = 4 → i ≤ 0x8F := htoo
    generalize hv : ((n * 64 + (i - 0x80)) * 64 + (j - 0x80)) * 64 + (k - 0x80) = v
    have h₁ : v / 262144 % 0x08 = n := by omega
    have h₂ : v / 4096 % 0x40 + 0x80 = i := by omega
    have h₃ : v / 64 % 0x40 + 0x80 = j := by omega
    have h₄ : v % 0x40 + 0x80 = k := by omega
    rw [encodeChar_four (by omega) (by omega), h₁, h₂, h₃, h₄]
    rfl

/-- **A character is decoded from its own bytes, whatever follows them, and from no others.** -/
theorem firstChar_eq_ok_iff :
    firstChar b bytes = .ok (c, more) ↔ b :: bytes = utf8EncodeChar c ++ more := by
  refine ⟨eq_encodeChar_of_firstChar, fun h => ?_⟩
  obtain ⟨b', rest, hbytes, hfirst⟩ := firstChar_encodeChar c more
  rw [hbytes, List.cons_append] at h
  obtain ⟨rfl, rfl⟩ := List.cons.inj h
  exact hfirst

/-! ### Where decoding stops -/

/-- Bytes that some character starts with, but that are not all of it. -/
def Unfinished (run : List UInt8) : Prop :=
  run ≠ [] ∧ ∃ c, run <+: utf8EncodeChar c ∧ run ≠ utf8EncodeChar c

/-- What a lead byte calls for can be given. -/
theorem exists_continuation (h : least ≤ greatest) (value following good : Nat) :
    ∃ tail : List UInt8, tail.length = following ∧ ∃ v,
      continuation value following least greatest good tail = .ok (v, []) := by
  induction following generalizing value least greatest good with
  | zero => exact ⟨[], rfl, value, rfl⟩
  | succ following ih =>
    obtain ⟨tail, hlength, v, hv⟩ := ih wide_bounds (value * 64 + (least.toNat - 0x80)) (good + 1)
    refine ⟨least :: tail, congrArg (· + 1) hlength, v, ?_⟩
    rw [continuation]
    dsimp only
    rw [if_pos ⟨UInt8.le_refl least, h⟩]
    exact hv

/-- Where decoding stops, a character could have been finished before, and cannot be from there,
whatever comes behind the byte that does not fit. -/
theorem continuation_eq_error (hbounds : least ≤ greatest)
    (h : continuation value following least greatest good bytes = .error (n, reason)) :
    ∃ run rest, bytes = run ++ rest ∧ n = good + run.length ∧
      (∃ tail v, tail ≠ [] ∧
        continuation value following least greatest good (run ++ tail) = .ok (v, [])) ∧
      ∀ b rest', rest = b :: rest' → ∀ more,
        continuation value following least greatest good (run ++ b :: more) =
          .error (n, reason) := by
  induction following generalizing value least greatest good bytes with
  | zero => cases h
  | succ following ih =>
    obtain ⟨tail, hlength, v, hv⟩ := exists_continuation hbounds value (following + 1) good
    have htail : tail ≠ [] := List.ne_nil_of_length_eq_add_one hlength
    rcases bytes with _ | ⟨b, bytes⟩
    · cases h
      exact ⟨[], [], rfl, rfl, ⟨tail, v, htail, hv⟩, nofun⟩
    have hcons : ∀ rest, continuation value (following + 1) least greatest good (b :: rest) =
        if least ≤ b ∧ b ≤ greatest then
          continuation (value * 64 + (b.toNat - 0x80)) following 0x80 0xBF (good + 1) rest
        else .error (good, .badContinuation) := fun _ => rfl
    by_cases hb : least ≤ b ∧ b ≤ greatest
    · -- The byte fits, and decoding stops among those that follow.
      rw [hcons, if_pos hb] at h
      obtain ⟨run, rest, rfl, rfl, ⟨tail, v, htail, hv⟩, hstop⟩ := ih wide_bounds h
      refine ⟨b :: run, rest, rfl, ?_, ⟨tail, v, htail, ?_⟩, fun b' rest' hrest more => ?_⟩
      · rw [List.length_cons]
        omega
      · rw [List.cons_append, hcons, if_pos hb]
        exact hv
      · rw [List.cons_append, hcons, if_pos hb]
        exact hstop b' rest' hrest more
    · rw [hcons, if_neg hb] at h
      cases h
      refine ⟨[], b :: bytes, rfl, rfl, ⟨tail, v, htail, hv⟩, fun b' rest' hrest more => ?_⟩
      cases hrest
      exact (hcons more).trans (if_neg hb)

theorem firstChar_of_no_lead (h : Lead.of? b = none) (bytes : List UInt8) :
    firstChar b bytes = .error (1, .badStart) := by
  rw [firstChar, h]

theorem firstChar_of_error (hlead : Lead.of? b = some lead)
    (h : continuation lead.bits lead.following lead.least lead.greatest 1 bytes =
      .error (n, reason)) : firstChar b bytes = .error (n, reason) := by
  rw [firstChar, hlead]
  dsimp only
  rw [h]

theorem firstChar_of_ok (hlead : Lead.of? b = some lead)
    (h : continuation lead.bits lead.following lead.least lead.greatest 1 bytes =
      .ok (v, more)) : firstChar b bytes = .ok (Char.ofNat v, more) := by
  rw [firstChar, hlead]
  dsimp only
  rw [h]

/-- A character that starts with some of the bytes, though not all of it need be there. -/
theorem Unfinished.exists_firstChar {k : Nat} (h : Unfinished ((b :: bytes).take k)) :
    ∃ j tail c, k = j + 1 ∧ firstChar b (bytes.take j ++ tail) = .ok (c, []) := by
  obtain ⟨hne, c, ⟨tail, htail⟩, -⟩ := h
  rcases k with _ | j
  · exact absurd rfl hne
  · refine ⟨j, tail, c, rfl, firstChar_eq_ok_iff.mpr ?_⟩
    rw [List.append_nil]
    exact htail

/-- What there is of a character where decoding stops is as long as it can be. -/
theorem isGreatest_of_continuation (hlead : Lead.of? b = some lead)
    (h : continuation lead.bits lead.following lead.least lead.greatest 1 bytes =
      .error (n, reason)) :
    IsGreatest {k | k ≤ (b :: bytes).length ∧ Unfinished ((b :: bytes).take k)} n := by
  obtain ⟨run, rest, rfl, rfl, ⟨tail, v, htail, hv⟩, hstop⟩ :=
    continuation_eq_error (least_le_greatest hlead) h
  refine ⟨⟨?_, ?_⟩, fun k hk => ?_⟩
  · rw [List.length_cons, List.length_append]
    omega
  · have htake : (b :: (run ++ rest)).take (1 + run.length) = b :: run := by
      rw [Nat.add_comm, List.take_succ_cons, List.take_left]
    -- The bytes that are called for would finish a character.
    have hfinished : b :: (run ++ tail) = utf8EncodeChar (Char.ofNat v) ++ [] :=
      firstChar_eq_ok_iff.mp (firstChar_of_ok hlead hv)
    rw [List.append_nil] at hfinished
    rw [htake]
    refine ⟨List.cons_ne_nil _ _, Char.ofNat v, ⟨tail, hfinished⟩, fun hall => htail ?_⟩
    rw [← hfinished] at hall
    exact List.self_eq_append_right.mp (List.cons.inj hall).2
  · -- With more bytes than that, the byte that does not fit would be among them.
    obtain ⟨hlength, hunfinished⟩ := hk
    obtain ⟨j, tail', c, rfl, hfirst⟩ := hunfinished.exists_firstChar
    by_contra hlong
    obtain ⟨i, rfl⟩ : ∃ i, j = run.length + (i + 1) := ⟨j - run.length - 1, by omega⟩
    rcases rest with _ | ⟨x, rest⟩
    · rw [List.append_nil, List.length_cons] at hlength
      omega
    · have hbytes : (run ++ x :: rest).take (run.length + (i + 1)) ++ tail' =
          run ++ x :: (rest.take i ++ tail') := by
        rw [List.take_length_add_append, List.take_succ_cons, List.append_assoc, List.cons_append]
      rw [hbytes] at hfirst
      cases (firstChar_of_error hlead (hstop x rest rfl _)).symm.trans hfirst

/-- **Where no character is decoded, none is there.**  The bytes that are counted are the longest
run from there that a character starts with, or the first one alone if there is none. -/
theorem firstChar_eq_error (h : firstChar b bytes = .error (n, reason)) :
    (∀ c, ¬utf8EncodeChar c <+: b :: bytes) ∧
      (IsGreatest {k | k ≤ (b :: bytes).length ∧ Unfinished ((b :: bytes).take k)} n ∨
        (∀ k, ¬Unfinished ((b :: bytes).take k)) ∧ n = 1) := by
  refine ⟨?_, ?_⟩
  · rintro c ⟨more, hmore⟩
    cases h.symm.trans (firstChar_eq_ok_iff.mpr hmore.symm)
  rcases hlead : Lead.of? b with _ | lead
  · have hstop := firstChar_of_no_lead hlead
    cases h.symm.trans (hstop bytes)
    refine .inr ⟨fun k hk => ?_, rfl⟩
    obtain ⟨j, tail, c, -, hfirst⟩ := hk.exists_firstChar
    cases (hstop _).symm.trans hfirst
  · refine .inl ?_
    rcases hcont : continuation lead.bits lead.following lead.least lead.greatest 1 bytes with
      ⟨n', reason'⟩ | ⟨v, more⟩
    · cases h.symm.trans (firstChar_of_error hlead hcont)
      exact isGreatest_of_continuation hlead hcont
    · cases h.symm.trans (firstChar_of_ok hlead hcont)

/-! ### All bytes -/

theorem decodeFrom_of_error (h : firstChar b bytes = .error (n, reason)) (place : Nat)
    (done : List Char) :
    decodeFrom place done (b :: bytes) = .error ⟨place, n, b, reason⟩ := by
  rw [decodeFrom]
  split
  · next he =>
    cases h.symm.trans he
    rfl
  · next he => cases h.symm.trans he

/-- Bytes are characters up to a place where none starts, or up to their end. -/
theorem exists_characters (bytes : List UInt8) :
    ∃ (chars : List Char) (rest : List UInt8), bytes = chars.flatMap utf8EncodeChar ++ rest ∧
      (rest = [] ∨
        ∃ b more n reason, rest = b :: more ∧ firstChar b more = .error (n, reason)) := by
  -- Lossy decoding takes one character after the other, as strict decoding does, but without the
  -- place and the characters that are done.
  fun_induction decodeLossy bytes with
  | case1 => exact ⟨[], [], rfl, .inl rfl⟩
  | case2 b bytes n reason h _ => exact ⟨[], b :: bytes, rfl, .inr ⟨b, bytes, n, reason, rfl, h⟩⟩
  | case3 b bytes c rest h ih =>
    obtain ⟨chars, rest, rfl, hrest⟩ := ih
    refine ⟨c :: chars, rest, ?_, hrest⟩
    rw [List.flatMap_cons, List.append_assoc]
    exact firstChar_eq_ok_iff.mp h

theorem decode_characters (chars : List Char) :
    decode (chars.flatMap utf8EncodeChar) = .ok chars := by
  rw [← encode_ofList, decode_encode, String.toList_ofList]

/-- The first byte that starts no character is where the defect is. -/
theorem decode_of_error (h : firstChar b bytes = .error (n, reason)) (chars : List Char) :
    decode (chars.flatMap utf8EncodeChar ++ b :: bytes) =
      .error ⟨(chars.flatMap utf8EncodeChar).length, n, b, reason⟩ := by
  rw [decode, decodeFrom_append, decodeFrom_of_error h, Nat.zero_add]

/-- **Bytes are decoded if and only if they encode a text, which is what they are decoded to.** -/
theorem decode_eq_ok_iff {text : String} :
    decode bytes = .ok text.toList ↔ encode text = bytes := by
  refine ⟨fun h => ?_, fun h => h ▸ decode_encode text⟩
  obtain ⟨chars, rest, rfl, rfl | ⟨b, more, n, reason, rfl, hstop⟩⟩ := exists_characters bytes
  · rw [List.append_nil] at h ⊢
    cases (decode_characters chars).symm.trans h
    rw [← encode_ofList, String.ofList_toList]
  · cases (decode_of_error hstop chars).symm.trans h

/-- No two texts have the same bytes. -/
theorem encode_injective {text text' : String} (h : encode text = encode text') : text = text' := by
  have hdecode := decode_encode text
  rw [h, decode_encode] at hdecode
  exact (String.toList_inj.mp (Except.ok.inj hdecode)).symm

/-- Where the first defect of some bytes starts, and how far it extends.  In front of it is a text,
and no character starts there; it is the longest run from there that a character starts with, or a
single byte if there is none. -/
structure FirstDefect (bytes : List UInt8) (start length : Nat) : Prop where
  inside : start < bytes.length
  before : ∃ text, encode text = bytes.take start
  no_character : ∀ c, ¬utf8EncodeChar c <+: bytes.drop start
  extent :
    IsGreatest {k | k ≤ (bytes.drop start).length ∧ Unfinished ((bytes.drop start).take k)} length ∨
      (∀ k, ¬Unfinished ((bytes.drop start).take k)) ∧ length = 1

/-- Where a defect starts, it has one extent. -/
theorem FirstDefect.length_eq {start length length' : Nat} (h : FirstDefect bytes start length)
    (h' : FirstDefect bytes start length') : length = length' := by
  rcases h.extent with hgreatest | ⟨hnone, hone⟩ <;>
    rcases h'.extent with hgreatest' | ⟨hnone', hone'⟩
  · exact hgreatest.unique hgreatest'
  · exact absurd hgreatest.1.2 (hnone' _)
  · exact absurd hgreatest'.1.2 (hnone _)
  · rw [hone, hone']

/-- A defect that decoding comes upon is the first one. -/
theorem firstDefect_of_error (h : firstChar b more = .error (n, reason)) (chars : List Char) :
    FirstDefect (chars.flatMap utf8EncodeChar ++ b :: more)
      (chars.flatMap utf8EncodeChar).length n := by
  obtain ⟨hnone, hextent⟩ := firstChar_eq_error h
  refine ⟨?_, ⟨String.ofList chars, ?_⟩, ?_, ?_⟩
  · rw [List.length_append, List.length_cons]
    omega
  · rw [List.take_left, encode_ofList]
  · rw [List.drop_left]
    exact hnone
  · rw [List.drop_left]
    exact hextent

/-- **What is described when bytes are not decoded is their first defect.** -/
theorem firstDefect_of_decode {d : Defect} (h : decode bytes = .error d) :
    FirstDefect bytes d.start d.length ∧ bytes[d.start]? = some d.first := by
  obtain ⟨chars, rest, rfl, rfl | ⟨b, more, n, reason, rfl, hstop⟩⟩ := exists_characters bytes
  · rw [List.append_nil, decode_characters] at h
    cases h
  · cases (decode_of_error hstop chars).symm.trans h
    refine ⟨firstDefect_of_error hstop chars, ?_⟩
    rw [List.getElem?_append_right (Nat.le_refl _), Nat.sub_self, List.getElem?_cons_zero]

/-- Bytes with a first defect are not decoded, and it is the one that is described. -/
theorem decode_of_firstDefect {start length : Nat} (h : FirstDefect bytes start length) :
    ∃ d, decode bytes = .error d ∧ d.start = start ∧ d.length = length := by
  obtain ⟨text, htext⟩ := h.before
  obtain ⟨b, more, hmore⟩ : ∃ b more, bytes.drop start = b :: more :=
    ⟨_, _, List.drop_eq_getElem_cons h.inside⟩
  have hbytes : bytes = text.toList.flatMap utf8EncodeChar ++ b :: more := by
    rw [← encode_ofList, String.ofList_toList, htext, ← hmore, List.take_append_drop]
  have hstart : (text.toList.flatMap utf8EncodeChar).length = start := by
    rw [← encode_ofList, String.ofList_toList, htext, List.length_take]
    exact Nat.min_eq_left (Nat.le_of_lt h.inside)
  rcases hfirst : firstChar b more with ⟨n, reason⟩ | ⟨c, rest⟩
  · have hfound := firstDefect_of_error hfirst text.toList
    rw [← hbytes, hstart] at hfound
    refine ⟨⟨start, n, b, reason⟩, ?_, rfl, hfound.length_eq h⟩
    rw [← hstart, ← decode_of_error hfirst, ← hbytes]
  -- A character that is decoded there would start there.
  · refine absurd ⟨rest, ?_⟩ (h.no_character c)
    rw [hmore]
    exact (firstChar_eq_ok_iff.mp hfirst).symm

end TapeMachine.Utf8
