/-
Text of printable ASCII: what is written as JSON, and its bytes.

A character of ASCII is encoded as one byte, its own number.  So text of ASCII is read
back from its bytes whatever they stand between, and a line feed in it is a byte 10 and
the other way round.

* **`Json.printable_write`** — every character of what is written as JSON is printable;
* **`Utf8.encode_ascii`** — the bytes of ASCII text;
* **`Utf8.decode_ascii`** — what they are read as.
-/
import Mathlib.Tactic.SplitIfs
import TapeMachine.Json.Writer
import TapeMachine.Proofs.Utf8Text

namespace TapeMachine

/-- A printable character of ASCII. -/
def Text.IsPrintableAscii (c : Char) : Prop :=
  0x20 ≤ c.toNat ∧ c.toNat < 0x7F

instance (c : Char) : Decidable (Text.IsPrintableAscii c) :=
  inferInstanceAs (Decidable (_ ∧ _))

namespace Json

open Text

/-! ### What is written -/

/-- Closed text is checked character by character. -/
theorem printable_of_all {cs : List Char} (h : cs.all (IsPrintableAscii ·) = true) :
    ∀ c ∈ cs, IsPrintableAscii c := by
  simpa only [List.all_eq_true, decide_eq_true_eq] using h

theorem printable_of_isDigit {c : Char} (h : c.isDigit = true) : IsPrintableAscii c := by
  rw [Char.isDigit, Bool.and_eq_true, decide_eq_true_iff, decide_eq_true_iff] at h
  obtain ⟨hge, hle⟩ := h
  have hge' : 48 ≤ c.toNat := hge
  have hle' : c.toNat ≤ 57 := hle
  exact ⟨by omega, by omega⟩

theorem printable_of_mem_toDigits {n : Nat} {c : Char} (h : c ∈ Nat.toDigits 10 n) :
    IsPrintableAscii c :=
  printable_of_isDigit (Nat.isDigit_of_mem_toDigits (by decide) (by decide) h)

theorem printable_intText (i : Int) : ∀ c ∈ intText i, IsPrintableAscii c := by
  intro c hc
  rw [intText] at hc
  split at hc
  · rcases List.mem_cons.mp hc with rfl | hc
    · decide
    · exact printable_of_mem_toDigits hc
  · exact printable_of_mem_toDigits hc

theorem printable_positional {digits : List Char} (h : ∀ c ∈ digits, IsPrintableAscii c)
    (place : Int) : ∀ c ∈ positional digits place, IsPrintableAscii c := by
  have hzeros : ∀ n, ∀ c ∈ List.replicate n '0', IsPrintableAscii c := by
    intro n c hc
    rw [List.eq_of_mem_replicate hc]
    decide
  rw [positional]
  dsimp only
  split_ifs
  · simp only [List.cons_append, List.forall_mem_cons, List.forall_mem_append]
    exact ⟨by decide, by decide, hzeros _, h⟩
  · simp only [List.forall_mem_append]
    exact ⟨⟨h, hzeros _⟩, printable_of_all (by decide)⟩
  · simp only [List.forall_mem_append, List.forall_mem_cons]
    exact ⟨fun c hc => h c (List.mem_of_mem_take hc), by decide,
      fun c hc => h c (List.mem_of_mem_drop hc)⟩

theorem printable_withExponent {digits : List Char} (h : ∀ c ∈ digits, IsPrintableAscii c)
    (exponent : Int) : ∀ c ∈ withExponent digits exponent, IsPrintableAscii c := by
  have hfraction : ∀ c ∈ (if digits.length > 1 then '.' :: digits.drop 1 else []),
      IsPrintableAscii c := by
    split
    · rw [List.forall_mem_cons]
      exact ⟨by decide, fun c hc => h c (List.mem_of_mem_drop hc)⟩
    · exact List.forall_mem_nil _
  have hsign : IsPrintableAscii (if exponent < 0 then '-' else '+') := by
    split <;> decide
  rw [withExponent]
  simp only [List.forall_mem_append, List.forall_mem_cons]
  refine ⟨⟨fun c hc => h c (List.mem_of_mem_take hc), hfraction⟩, by decide, hsign, ?_, ?_⟩
  · intro c hc
    rw [List.eq_of_mem_replicate hc]
    decide
  · exact fun c hc => printable_of_mem_toDigits hc

theorem printable_floatText (x : Float) : ∀ c ∈ floatText x, IsPrintableAscii c := by
  have hmagnitude : ∀ b, ∀ c ∈ magnitudeText b, IsPrintableAscii c := by
    intro b
    rw [magnitudeText]
    dsimp only
    split_ifs
    · exact printable_of_all (by decide)
    · exact printable_positional (fun c hc => printable_of_mem_toDigits hc) _
    · exact printable_withExponent (fun c hc => printable_of_mem_toDigits hc) _
  rw [floatText]
  split
  · exact printable_of_all (by decide)
  · split <;> exact printable_of_all (by decide)
  · split
    · exact List.forall_mem_cons.mpr ⟨by decide, hmagnitude _⟩
    · exact hmagnitude _

theorem printable_unitEscape (unit : Nat) : ∀ c ∈ unitEscape unit, IsPrintableAscii c := by
  have hdigit : ∀ n < 16, IsPrintableAscii (hexDigit n) := by decide
  have hmod : ∀ n, IsPrintableAscii (hexDigit (n % 16)) :=
    fun n => hdigit (n % 16) (Nat.mod_lt n (by decide))
  have hunit : unitEscape unit =
      ['\\', 'u', hexDigit (unit / 16 / 16 / 16 % 16), hexDigit (unit / 16 / 16 % 16),
        hexDigit (unit / 16 % 16), hexDigit (unit % 16)] := rfl
  rw [hunit]
  simp only [List.forall_mem_cons]
  exact ⟨by decide, by decide, hmod _, hmod _, hmod _, hmod _, List.forall_mem_nil _⟩

/-- Whatever the character, its text inside quotes is printable. -/
theorem printable_charText (c : Char) : ∀ d ∈ charText c, IsPrintableAscii d := by
  rw [charText]
  dsimp only
  split_ifs with hquote _ _ _ _ _ hplain
  · rcases hquote with rfl | rfl <;> exact printable_of_all (by decide)
  · exact printable_of_all (by decide)
  · exact printable_of_all (by decide)
  · exact printable_of_all (by decide)
  · exact printable_of_all (by decide)
  · exact printable_of_all (by decide)
  · exact List.forall_mem_singleton.mpr hplain
  · exact printable_unitEscape _
  · rw [List.forall_mem_append]
    exact ⟨printable_unitEscape _, printable_unitEscape _⟩

theorem printable_stringText (s : String) : ∀ c ∈ stringText s, IsPrintableAscii c := by
  rw [stringText]
  simp only [List.cons_append, List.forall_mem_cons, List.forall_mem_append]
  refine ⟨by decide, fun c hc => ?_, by decide, List.forall_mem_nil _⟩
  obtain ⟨d, -, hd⟩ := List.mem_flatMap.mp hc
  exact printable_charText d c hd

mutual

/-- **What is written as JSON is printable ASCII.** -/
theorem printable_write (v : Value) : ∀ c ∈ write v, IsPrintableAscii c := by
  match v with
  | .null => exact printable_of_all (by decide)
  | .bool true => exact printable_of_all (by decide)
  | .bool false => exact printable_of_all (by decide)
  | .int i => exact printable_intText i
  | .float x => exact printable_floatText x
  | .str s => exact printable_stringText s
  | .array items =>
    rw [write]
    simp only [List.cons_append, List.forall_mem_cons, List.forall_mem_append]
    exact ⟨by decide, printable_writeItems items, by decide, List.forall_mem_nil _⟩
  | .object members =>
    rw [write]
    simp only [List.cons_append, List.forall_mem_cons, List.forall_mem_append]
    exact ⟨by decide, printable_writeMembers members, by decide, List.forall_mem_nil _⟩

theorem printable_writeItems (vs : List Value) : ∀ c ∈ writeItems vs, IsPrintableAscii c := by
  match vs with
  | [] => exact List.forall_mem_nil _
  | [v] => exact printable_write v
  | v :: w :: rest =>
    rw [writeItems]
    simp only [List.forall_mem_cons, List.forall_mem_append]
    exact ⟨printable_write v, by decide, by decide, printable_writeItems (w :: rest)⟩

theorem printable_writeMembers (ms : List (String × Value)) :
    ∀ c ∈ writeMembers ms, IsPrintableAscii c := by
  match ms with
  | [] => exact List.forall_mem_nil _
  | [(key, v)] =>
    rw [writeMembers]
    simp only [List.forall_mem_cons, List.forall_mem_append]
    exact ⟨printable_stringText key, by decide, by decide, printable_write v⟩
  | (key, v) :: m :: rest =>
    rw [writeMembers]
    simp only [List.forall_mem_cons, List.forall_mem_append]
    exact ⟨⟨printable_stringText key, by decide, by decide, printable_write v⟩, by decide,
      by decide, printable_writeMembers (m :: rest)⟩

end

end Json

namespace Utf8

/-! ### Its bytes -/

/-- The byte of an ASCII character. -/
def asciiByte (c : Char) : UInt8 :=
  c.val.toUInt8

theorem toNat_asciiByte {c : Char} (h : c.toNat < 0x80) : (asciiByte c).toNat = c.toNat := by
  rw [asciiByte, UInt32.toNat_toUInt8]
  exact Nat.mod_eq_of_lt (Nat.lt_trans h (by decide))

/-- A character of ASCII is one byte. -/
theorem encode_ascii {chars : List Char} (h : ∀ c ∈ chars, c.toNat < 0x80) :
    encode (String.ofList chars) = chars.map asciiByte := by
  rw [encode_ofList]
  induction chars with
  | nil => rfl
  | cons c chars ih =>
    obtain ⟨hc, hchars⟩ := List.forall_mem_cons.mp h
    -- It takes one byte, and that byte is its number.
    have hsize : c.utf8Size = 1 := Char.utf8Size_eq_one_iff.mpr (UInt32.le_iff_toNat_le.mpr (by
      have : c.val.toNat < 128 := hc
      simpa using Nat.le_of_lt_succ this))
    rw [List.flatMap_cons, String.utf8EncodeChar_eq_singleton hsize, ih hchars]
    rfl

/-- The bytes of ASCII text are read as that text. -/
theorem decode_ascii {chars : List Char} (h : ∀ c ∈ chars, c.toNat < 0x80) :
    decode (chars.map asciiByte) = .ok chars := by
  rw [← encode_ascii h, decode_encode, String.toList_ofList]

end Utf8

end TapeMachine
