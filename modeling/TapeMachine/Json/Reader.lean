/-
Reading JSON text.

The grammar is that of the standard with three more numbers, `NaN`, `Infinity` and
`-Infinity`.  A text is refused at the first character that cannot belong to it,
with what was expected there.

* **`read`** — the value of a text, or the first complaint;
* **`Complaint.message`** — the wording, with line, column and position;
* **`value`** — one value at the start of a text, and what follows it.

Design notes:

* A complaint carries the rest of the text from the place of complaint on.  The
  position is the difference of two lengths, and no scanner counts characters.
* What follows a value is shorter than the text that it was read from.  That is part
  of the result type, and makes the mutual recursion end.
-/
import TapeMachine.Decimal.Binary
import TapeMachine.Json.Value
import TapeMachine.Text.Hex

namespace TapeMachine.Json

/-- What a text was refused for. -/
inductive Expectation where
  | noByteOrderMark
  | value
  | endOfText
  | propertyName
  | colon
  | comma
  | closingQuote
  | noControl
  | escape
  | unicodeEscape
deriving DecidableEq, Repr

/-- The wording of a refusal, without its place. -/
def Expectation.text : Expectation → String
  | .noByteOrderMark => "Unexpected UTF-8 BOM (decode using utf-8-sig)"
  | .value => "Expecting value"
  | .endOfText => "Extra data"
  | .propertyName => "Expecting property name enclosed in double quotes"
  | .colon => "Expecting ':' delimiter"
  | .comma => "Expecting ',' delimiter"
  | .closingQuote => "Unterminated string starting at"
  | .noControl => "Invalid control character at"
  | .escape => "Invalid \\escape"
  | .unicodeEscape => "Invalid \\uXXXX escape"

/-- Why a text could not be read: it is refused where only `rest` is left of it, or it holds an
integer of too many digits. -/
inductive Refusal where
  | unexpected (e : Expectation) (rest : List Char)
  | integerTooLong (digits : Nat)
deriving DecidableEq, Repr

/-- What is left of a text after something was read from its start. -/
abbrev Rest (s : List Char) := { rest : List Char // rest.length < s.length }

/-- Blanks between the parts of a text. -/
def isSpace (c : Char) : Bool :=
  c == ' ' || c == '\t' || c == '\n' || c == '\r'

/-- The text from its first character that is no blank. -/
def skipSpace (s : List Char) : List Char :=
  s.dropWhile isSpace

theorem length_skipSpace_le (s : List Char) : (skipSpace s).length ≤ s.length :=
  (s.dropWhile_suffix isSpace).length_le

/-! ### Strings -/

/-- The number that four hexadecimal digits stand for.  At least one character has to follow. -/
def codeUnit? : List Char → Option (Nat × List Char)
  | a :: b :: c :: d :: e :: rest =>
    match Text.hexValue? a, Text.hexValue? b, Text.hexValue? c, Text.hexValue? d with
    | some a, some b, some c, some d => some (((a * 16 + b) * 16 + c) * 16 + d, e :: rest)
    | _, _, _, _ => none
  | _ => none

/-- The second half of a surrogate pair, as an escape of its own. -/
def lowSurrogate? : List Char → Option (Nat × List Char)
  | '\\' :: 'u' :: rest =>
    match codeUnit? rest with
    | some (unit, rest') => if 0xDC00 ≤ unit ∧ unit ≤ 0xDFFF then some (unit, rest') else none
    | none => none
  | _ => none

/-- The character of a code unit and, if the unit opens a surrogate pair, of the escape after it.
A surrogate that stands alone has no character and is read as U+FFFD. -/
def unitChar (unit : Nat) (rest : List Char) : Char × List Char :=
  if 0xD800 ≤ unit ∧ unit ≤ 0xDBFF then
    match lowSurrogate? rest with
    | some (low, rest') => (Char.ofNat (0x10000 + (unit - 0xD800) * 0x400 + (low - 0xDC00)), rest')
    | none => ('\uFFFD', rest)
  else if 0xDC00 ≤ unit ∧ unit ≤ 0xDFFF then ('\uFFFD', rest)
  else (Char.ofNat unit, rest)

/-- The character that an escape of one letter stands for. -/
def letterEscape? (c : Char) : Option Char :=
  if c = '"' ∨ c = '\\' ∨ c = '/' then some c
  else if c = 'b' then some '\x08'
  else if c = 'f' then some '\x0c'
  else if c = 'n' then some '\n'
  else if c = 'r' then some '\r'
  else if c = 't' then some '\t'
  else none

theorem length_of_codeUnit? {s rest : List Char} {unit : Nat}
    (h : codeUnit? s = some (unit, rest)) : rest.length + 4 = s.length := by
  unfold codeUnit? at h
  split at h
  · split at h
    · simp only [Option.some.injEq, Prod.mk.injEq] at h
      rw [← h.2]
      simp
    · cases h
  · cases h

theorem length_of_lowSurrogate? {s rest : List Char} {unit : Nat}
    (h : lowSurrogate? s = some (unit, rest)) : rest.length < s.length := by
  unfold lowSurrogate? at h
  split at h
  · split at h
    · next hunit =>
      have := length_of_codeUnit? hunit
      split at h
      · simp only [Option.some.injEq, Prod.mk.injEq] at h
        rw [← h.2]
        simp only [List.length_cons]
        omega
      · cases h
    · cases h
  · cases h

theorem length_unitChar_le (unit : Nat) (rest : List Char) :
    (unitChar unit rest).2.length ≤ rest.length := by
  unfold unitChar
  split
  · split
    · next h =>
      have := length_of_lowSurrogate? h
      exact Nat.le_of_lt this
    · exact Nat.le_refl _
  · split <;> exact Nat.le_refl _

/-- One escape, after its backslash: the character and what follows.  `opening` is the text from the
opening quote of the string on, and `backslash` the text from the backslash on. -/
def escape (opening backslash : List Char) : List Char → Except Refusal (Char × List Char)
  | 'u' :: digits =>
    match codeUnit? digits with
    | some (unit, rest) => .ok (unitChar unit rest)
    | none => .error (.unexpected .unicodeEscape ('u' :: digits))
  | c :: rest =>
    match letterEscape? c with
    | some e => .ok (e, rest)
    | none => .error (.unexpected .escape backslash)
  | [] => .error (.unexpected .closingQuote opening)

theorem length_of_escape {opening backslash s rest : List Char} {c : Char}
    (h : escape opening backslash s = .ok (c, rest)) : rest.length < s.length := by
  unfold escape at h
  split at h
  · split at h
    · next unit after hunit =>
      have hcode := length_of_codeUnit? hunit
      have hle := length_unitChar_le unit after
      simp only [Except.ok.injEq] at h
      rw [h] at hle
      simp only [List.length_cons] at hle ⊢
      omega
    · cases h
  · split at h
    · simp only [Except.ok.injEq, Prod.mk.injEq] at h
      rw [← h.2]
      simp
    · cases h
  · cases h

/-- The characters of a string up to its closing quote, after those already `done`, which stand in
reverse.  `opening` is the text from the opening quote on. -/
def stringFrom (opening : List Char) (done : List Char) :
    List Char → Except Refusal (String × List Char)
  | [] => .error (.unexpected .closingQuote opening)
  | c :: rest =>
    if c = '"' then .ok (String.ofList done.reverse, rest)
    else if c = '\\' then
      match _h : escape opening (c :: rest) rest with
      | .error r => .error r
      | .ok (char, rest') => stringFrom opening (char :: done) rest'
    else if c.toNat < 0x20 then .error (.unexpected .noControl (c :: rest))
    else stringFrom opening (c :: done) rest
termination_by s => s.length
decreasing_by
  · have := length_of_escape _h
    simp only [List.length_cons]
    omega
  · simp

theorem length_of_stringFrom {opening done s rest : List Char} {t : String}
    (h : stringFrom opening done s = .ok (t, rest)) : rest.length < s.length := by
  fun_induction stringFrom opening done s with
  | case1 => cases h
  | case2 done rest' =>
    simp only [Except.ok.injEq, Prod.mk.injEq] at h
    rw [← h.2]
    simp
  | case3 => cases h
  | case4 done rest' _ char after hesc ih =>
    have h₁ := ih h
    have h₂ := length_of_escape hesc
    simp only [List.length_cons]
    omega
  | case5 => cases h
  | case6 done c rest' _ _ _ ih =>
    have := ih h
    simp only [List.length_cons]
    omega

/-! ### Numbers -/

/-- The value of decimal digits. -/
def natOfDigits (digits : List Char) : Nat :=
  digits.foldl (fun n c => n * 10 + (c.toNat - 48)) 0

/-- A sign in front of a magnitude. -/
def signed (negative : Bool) (n : Nat) : Int :=
  if negative then -(n : Int) else n

/-- The digits at the start of a text, and what follows them. -/
def digitRun (s : List Char) : List Char × List Char :=
  (s.takeWhile Char.isDigit, s.dropWhile Char.isDigit)

/-- The digits of an integer: a zero, or a run that does not start with one. -/
def integerDigits (s : List Char) : List Char × List Char :=
  match s with
  | '0' :: rest => (['0'], rest)
  | _ => digitRun s

/-- The digits of a fraction.  A point without a digit after it opens none. -/
def fractionDigits (s : List Char) : List Char × List Char :=
  match s with
  | '.' :: rest =>
    match digitRun rest with
    | ([], _) => ([], s)
    | (digits, rest') => (digits, rest')
  | _ => ([], s)

/-- The sign of an exponent. -/
def exponentSign (s : List Char) : Bool × List Char :=
  match s with
  | '-' :: rest => (true, rest)
  | '+' :: rest => (false, rest)
  | _ => (false, s)

/-- An exponent.  The letter without a digit after it opens none. -/
def exponentPart (s : List Char) : Option Int × List Char :=
  match s with
  | c :: rest =>
    if c = 'e' ∨ c = 'E' then
      let (negative, rest') := exponentSign rest
      match digitRun rest' with
      | ([], _) => (none, s)
      | (digits, rest'') => (some (signed negative (natOfDigits digits)), rest'')
    else (none, s)
  | [] => (none, s)

/-- The number with the given parts: an integer if it has neither fraction nor exponent. -/
def numberValue (negative : Bool) (whole fraction : List Char) (exponent : Option Int) :
    Except Refusal Value :=
  if fraction = [] ∧ exponent = none then
    if whole.length > maxIntegerDigits then .error (.integerTooLong whole.length)
    else .ok (.int (signed negative (natOfDigits whole)))
  else
    .ok (.float (Decimal.nearest negative (natOfDigits (whole ++ fraction))
      (exponent.getD 0 - fraction.length)))

/-- The sign of a number. -/
def numberSign (s : List Char) : Bool × List Char :=
  match s with
  | '-' :: rest => (true, rest)
  | _ => (false, s)

theorem length_digitRun_snd_le (s : List Char) : (digitRun s).2.length ≤ s.length :=
  (s.dropWhile_suffix Char.isDigit).length_le

theorem length_digitRun_snd_lt {s : List Char} (h : (digitRun s).1 ≠ []) :
    (digitRun s).2.length < s.length := by
  have hlen := congrArg List.length (List.takeWhile_append_dropWhile (p := Char.isDigit) (l := s))
  have hpos := List.length_pos_iff.2 h
  rw [List.length_append] at hlen
  simp only [digitRun] at hpos ⊢
  omega

theorem length_integerDigits_lt {s : List Char} (h : (integerDigits s).1 ≠ []) :
    (integerDigits s).2.length < s.length := by
  unfold integerDigits at h ⊢
  split
  · simp
  · exact length_digitRun_snd_lt (by simpa using h)

theorem length_fractionDigits_le (s : List Char) : (fractionDigits s).2.length ≤ s.length := by
  unfold fractionDigits
  split
  · next rest =>
    split
    · exact Nat.le_refl _
    · next h =>
      have := length_digitRun_snd_le rest
      rw [h] at this
      simp only [List.length_cons]
      exact Nat.le_succ_of_le this
  · exact Nat.le_refl _

theorem length_exponentSign_le (s : List Char) : (exponentSign s).2.length ≤ s.length := by
  unfold exponentSign
  split <;> simp

theorem length_exponentPart_le (s : List Char) : (exponentPart s).2.length ≤ s.length := by
  unfold exponentPart
  split
  · next c rest =>
    split
    · simp only
      split
      · exact Nat.le_refl _
      · next h =>
        have h₁ := length_digitRun_snd_le (exponentSign rest).2
        have h₂ := length_exponentSign_le rest
        rw [h] at h₁
        simp only [List.length_cons] at h₁ ⊢
        omega
    · exact Nat.le_refl _
  · exact Nat.le_refl _

theorem length_numberSign_le (s : List Char) : (numberSign s).2.length ≤ s.length := by
  unfold numberSign
  split <;> simp

/-- A number at the start of a text. -/
def number (s : List Char) : Except Refusal (Value × Rest s) :=
  let whole := integerDigits (numberSign s).2
  if h : whole.1 = [] then .error (.unexpected .value s)
  else
    let fraction := fractionDigits whole.2
    let exponent := exponentPart fraction.2
    match numberValue (numberSign s).1 whole.1 fraction.1 exponent.1 with
    | .error r => .error r
    | .ok v =>
      .ok (v, ⟨exponent.2, by
        have h₁ := length_numberSign_le s
        have h₂ := length_integerDigits_lt h
        have h₃ := length_fractionDigits_le whole.2
        have h₄ := length_exponentPart_le fraction.2
        simp only [whole, fraction, exponent] at h₂ h₃ h₄ ⊢
        omega⟩)

/-! ### Values -/

/-- What follows a word, if the text starts with it. -/
def dropWord? : List Char → List Char → Option (List Char)
  | [], s => some s
  | w :: word, c :: s => if w = c then dropWord? word s else none
  | _ :: _, [] => none

theorem length_of_dropWord? {word s rest : List Char} (h : dropWord? word s = some rest) :
    rest.length + word.length = s.length := by
  induction word generalizing s with
  | nil =>
    simp only [dropWord?, Option.some.injEq] at h
    rw [h]
    simp
  | cons w word ih =>
    cases s with
    | nil => simp [dropWord?] at h
    | cons c s =>
      simp only [dropWord?] at h
      split at h
      · have := ih h
        simp only [List.length_cons]
        omega
      · cases h

/-- The values that are written as words. -/
def words : List (String × Value) :=
  [("null", .null), ("true", .bool true), ("false", .bool false),
   ("NaN", .float (Float.ofBits 0x7FF8000000000000)),
   ("Infinity", .float (Float.ofBits 0x7FF0000000000000)),
   ("-Infinity", .float (Float.ofBits 0xFFF0000000000000))]

/-- The value of a word at the start of a text. -/
def word? (s : List Char) : Option (Value × List Char) :=
  words.findSome? fun (word, v) => (dropWord? word.toList s).map fun rest => (v, rest)

theorem length_of_word? {s rest : List Char} {v : Value} (h : word? s = some (v, rest)) :
    rest.length < s.length := by
  unfold word? at h
  obtain ⟨⟨word, w⟩, hmem, hw⟩ := List.exists_of_findSome?_eq_some h
  obtain ⟨rest', hdrop, hrest⟩ := Option.map_eq_some_iff.1 hw
  have hlen := length_of_dropWord? hdrop
  have hpos : 0 < word.toList.length := by
    simp only [words, List.mem_cons, Prod.mk.injEq, List.not_mem_nil, or_false] at hmem
    rcases hmem with h | h | h | h | h | h <;> rw [h.1] <;> decide
  simp only [Prod.mk.injEq] at hrest
  rw [← hrest.2]
  omega

mutual

/-- One value at the very start of a text, and what follows it. -/
def value (s : List Char) : Except Refusal (Value × Rest s) :=
  match s with
  | '"' :: body =>
    match h : stringFrom ('"' :: body) [] body with
    | .error r => .error r
    | .ok (t, rest) =>
      .ok (.str t, ⟨rest, by
        have := length_of_stringFrom h
        simp only [List.length_cons]
        omega⟩)
  | '[' :: body =>
    match _hbody : skipSpace body with
    | ']' :: rest =>
      .ok (.array [], ⟨rest, by
        have := length_skipSpace_le body
        rw [_hbody] at this
        simp only [List.length_cons] at this ⊢
        omega⟩)
    | _ =>
      match items (skipSpace body) with
      | .error r => .error r
      | .ok (vs, ⟨rest, h⟩) =>
        .ok (.array vs, ⟨rest, by
          have := length_skipSpace_le body
          simp only [List.length_cons]
          omega⟩)
  | '\x7b' :: body =>
    match _hbody : skipSpace body with
    | '\x7d' :: rest =>
      .ok (.object [], ⟨rest, by
        have := length_skipSpace_le body
        rw [_hbody] at this
        simp only [List.length_cons] at this ⊢
        omega⟩)
    | _ =>
      match members (skipSpace body) with
      | .error r => .error r
      | .ok (ms, ⟨rest, h⟩) =>
        .ok (.object (mergeMembers ms), ⟨rest, by
          have := length_skipSpace_le body
          simp only [List.length_cons]
          omega⟩)
  | s =>
    match h : word? s with
    | some (v, rest) => .ok (v, ⟨rest, length_of_word? h⟩)
    | none => number s
termination_by 2 * s.length
decreasing_by
  all_goals
    have := length_skipSpace_le body
    simp only [List.length_cons]
    omega

/-- The items of an array from the first one on, up to the closing bracket. -/
def items (s : List Char) : Except Refusal (List Value × Rest s) :=
  match value s with
  | .error r => .error r
  | .ok (v, ⟨rest, h⟩) =>
    match hrest : skipSpace rest with
    | ']' :: after =>
      .ok ([v], ⟨after, by
        have := length_skipSpace_le rest
        rw [hrest] at this
        simp only [List.length_cons] at this
        omega⟩)
    | ',' :: after =>
      have hafter : (skipSpace after).length < s.length := by
        have h₁ := length_skipSpace_le rest
        have h₂ := length_skipSpace_le after
        rw [hrest] at h₁
        simp only [List.length_cons] at h₁
        omega
      match items (skipSpace after) with
      | .error r => .error r
      | .ok (vs, ⟨rest', h'⟩) => .ok (v :: vs, ⟨rest', by omega⟩)
    | other => .error (.unexpected .comma other)
termination_by 2 * s.length + 1

/-- The members of an object from the first one on, up to the closing brace. -/
def members (s : List Char) : Except Refusal (List (String × Value) × Rest s) :=
  match s with
  | '"' :: body =>
    match hkey : stringFrom ('"' :: body) [] body with
    | .error r => .error r
    | .ok (key, afterKey) =>
      match hcolon : skipSpace afterKey with
      | ':' :: afterColon =>
        have hvalue : (skipSpace afterColon).length < body.length + 1 := by
          have h₁ := length_of_stringFrom hkey
          have h₂ := length_skipSpace_le afterKey
          have h₃ := length_skipSpace_le afterColon
          rw [hcolon] at h₂
          simp only [List.length_cons] at h₂
          omega
        match value (skipSpace afterColon) with
        | .error r => .error r
        | .ok (v, ⟨rest, h⟩) =>
          match hrest : skipSpace rest with
          | '\x7d' :: after =>
            .ok ([(key, v)], ⟨after, by
              have := length_skipSpace_le rest
              rw [hrest] at this
              simp only [List.length_cons] at this ⊢
              omega⟩)
          | ',' :: after =>
            have hafter : (skipSpace after).length < body.length + 1 := by
              have h₁ := length_skipSpace_le rest
              have h₂ := length_skipSpace_le after
              rw [hrest] at h₁
              simp only [List.length_cons] at h₁
              omega
            match members (skipSpace after) with
            | .error r => .error r
            | .ok (ms, ⟨rest', h'⟩) =>
              .ok ((key, v) :: ms, ⟨rest', by
                simp only [List.length_cons]
                omega⟩)
          | other => .error (.unexpected .comma other)
      | other => .error (.unexpected .colon other)
  | other => .error (.unexpected .propertyName other)
termination_by 2 * s.length + 1
decreasing_by
  all_goals
    simp only [List.length_cons]
    omega

end

/-- The value of a whole text. -/
def read (s : List Char) : Except Refusal Value :=
  if s.head? = some '\uFEFF' then .error (.unexpected .noByteOrderMark s)
  else
    match value (skipSpace s) with
    | .error r => .error r
    | .ok (v, ⟨rest, _⟩) =>
      match skipSpace rest with
      | [] => .ok v
      | other => .error (.unexpected .endOfText other)

/-! ### The place of a refusal -/

/-- A refusal of a text, put into words.  Lines and columns count from 1, the position from 0. -/
def placeText (s rest : List Char) : String :=
  let before := s.take (s.length - rest.length)
  let line := before.count '\n' + 1
  let column := (before.reverse.takeWhile (· != '\n')).length + 1
  s!"line {line} column {column} (char {before.length})"

/-- The wording of a refusal of `s` at `rest`. -/
def Expectation.message (e : Expectation) (s rest : List Char) : String :=
  e.text ++ ": " ++ placeText s rest

end TapeMachine.Json
