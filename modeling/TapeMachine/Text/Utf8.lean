/-
UTF-8: decoding of bytes, either strictly, with a description of the first defect, or with
a character in the place of every defect.

A sequence is a lead byte and up to three continuation bytes.  The lead byte says
how many follow and narrows the first of them, which rules out overlong forms,
surrogates and values above U+10FFFF.

* **`Utf8.decode`** — all characters, or the first defect;
* **`Utf8.decodeLossy`** — all characters that there are;
* **`Utf8.Lead.of?`** — what each lead byte calls for;
* **`Utf8.Defect`** — the longest run from the first undecodable byte that could
  still have become a character.
-/
import TapeMachine.Text.Hex

namespace TapeMachine.Utf8

/-- Why bytes are no character. -/
inductive Reason where
  | badStart
  | badContinuation
  | unexpectedEnd
deriving DecidableEq, Repr

def Reason.text : Reason → String
  | .badStart => "invalid start byte"
  | .badContinuation => "invalid continuation byte"
  | .unexpectedEnd => "unexpected end of data"

/-- The first defect of a byte string: a first byte at `start`, and how many bytes belong to it. -/
structure Defect where
  start : Nat
  length : Nat
  first : UInt8
  reason : Reason
deriving DecidableEq, Repr

/-- The wording of a defect.  Positions count bytes from 0. -/
def Defect.message (d : Defect) : String :=
  let digits := String.ofList (Text.hex 2 d.first.toNat)
  let place :=
    if d.length = 1 then s!"byte 0x{digits} in position {d.start}"
    else s!"bytes in position {d.start}-{d.start + d.length - 1}"
  s!"'utf-8' codec can't decode {place}: {d.reason.text}"

/-- What a lead byte calls for: the bits it contributes, how many bytes follow, and the least and
the greatest value of the first of them. -/
structure Lead where
  bits : Nat
  following : Nat
  least : UInt8
  greatest : UInt8

/-- The call of a byte, if it can lead a sequence. -/
def Lead.of? (b : UInt8) : Option Lead :=
  if b < 0x80 then some ⟨b.toNat, 0, 0x80, 0xBF⟩
  else if b < 0xC2 then none
  else if b < 0xE0 then some ⟨b.toNat - 0xC0, 1, 0x80, 0xBF⟩
  else if b = 0xE0 then some ⟨0, 2, 0xA0, 0xBF⟩
  else if b = 0xED then some ⟨0xD, 2, 0x80, 0x9F⟩
  else if b < 0xF0 then some ⟨b.toNat - 0xE0, 2, 0x80, 0xBF⟩
  else if b = 0xF0 then some ⟨0, 3, 0x90, 0xBF⟩
  else if b < 0xF4 then some ⟨b.toNat - 0xF0, 3, 0x80, 0xBF⟩
  else if b = 0xF4 then some ⟨4, 3, 0x80, 0x8F⟩
  else none

/-- Continuation bytes: the value they complete and what follows them, or how many bytes were good
and why the next one is not. -/
def continuation (value : Nat) (following : Nat) (least greatest : UInt8) (good : Nat) :
    List UInt8 → Except (Nat × Reason) (Nat × List UInt8) :=
  match following with
  | 0 => fun bytes => .ok (value, bytes)
  | n + 1 => fun
    | [] => .error (good, .unexpectedEnd)
    | b :: rest =>
      if least ≤ b ∧ b ≤ greatest then
        continuation (value * 64 + (b.toNat - 0x80)) n 0x80 0xBF (good + 1) rest
      else .error (good, .badContinuation)

/-- The first character of a byte string and what follows it, or how many bytes belong to a defect
and its reason. -/
def firstChar (b : UInt8) (rest : List UInt8) : Except (Nat × Reason) (Char × List UInt8) :=
  match Lead.of? b with
  | none => .error (1, .badStart)
  | some lead =>
    match continuation lead.bits lead.following lead.least lead.greatest 1 rest with
    | .error e => .error e
    | .ok (value, rest') => .ok (Char.ofNat value, rest')

theorem length_le_of_continuation {value following good : Nat} {least greatest : UInt8}
    {bytes rest : List UInt8} {v : Nat}
    (h : continuation value following least greatest good bytes = .ok (v, rest)) :
    rest.length ≤ bytes.length := by
  induction following generalizing value least greatest good bytes with
  | zero =>
    simp only [continuation, Except.ok.injEq, Prod.mk.injEq] at h
    exact h.2 ▸ Nat.le_refl _
  | succ n ih =>
    cases bytes with
    | nil => simp [continuation] at h
    | cons b bs =>
      simp only [continuation] at h
      split at h
      · have := ih h
        simp only [List.length_cons]
        omega
      · cases h

theorem length_le_of_firstChar {b : UInt8} {bytes rest : List UInt8} {c : Char}
    (h : firstChar b bytes = .ok (c, rest)) : rest.length ≤ bytes.length := by
  simp only [firstChar] at h
  split at h
  · cases h
  · split at h
    · cases h
    · next hcont =>
      simp only [Except.ok.injEq, Prod.mk.injEq] at h
      rw [← h.2]
      exact length_le_of_continuation hcont

/-- Decodes from byte `place` on, with the characters before it in reverse. -/
def decodeFrom (place : Nat) (done : List Char) : List UInt8 → Except Defect (List Char)
  | [] => .ok done.reverse
  | b :: bytes =>
    match _h : firstChar b bytes with
    | .error (length, reason) => .error { start := place, length, first := b, reason }
    | .ok (c, rest) => decodeFrom (place + c.utf8Size) (c :: done) rest
termination_by bytes => bytes.length
decreasing_by
  have := length_le_of_firstChar _h
  simp only [List.length_cons]
  omega

/-- The characters that a byte string encodes. -/
def decode (bytes : List UInt8) : Except Defect (List Char) :=
  decodeFrom 0 [] bytes

/-- What is shown in the place of a defect. -/
def replacement : Char := '\uFFFD'

/-- The characters that a byte string encodes, with a replacement for every defect. -/
def decodeLossy : List UInt8 → List Char
  | [] => []
  | b :: bytes =>
    match _h : firstChar b bytes with
    | .error (length, _) => replacement :: decodeLossy (bytes.drop (length - 1))
    | .ok (c, rest) => c :: decodeLossy rest
termination_by bytes => bytes.length
decreasing_by
  · simp only [List.length_drop, List.length_cons]
    omega
  · have := length_le_of_firstChar _h
    simp only [List.length_cons]
    omega

/-- The bytes of a text. -/
def encode (text : String) : List UInt8 :=
  text.toUTF8.toList

end TapeMachine.Utf8
