/-
Quotations: texts and bytes in quotes.

Letters before the quotes tell how a quotation is read: as bytes, without escapes, or as a
template, which holds expressions.  In a text a backslash may begin an escape, which
stands for a character.

* **`Quotation.ofSpelling`** — the quotation that a token spells;
* **`Quotation.escapeFault?`** — the first escape that stands for no character;
* **`Quotation.fault?`** — what is wrong with a quotation that is no template.

Design notes:

* The places of escapes are counted in a text in which every character beyond ASCII is
  written as an escape itself (`spelledOut`).
* Of a name in braces it is only known that there is one.
-/
import TapeMachine.Expression.Fault

namespace TapeMachine.Expression

/-- A quotation: how it is read, and what stands between its quotes. -/
structure Quotation where
  isBytes : Bool
  isRaw : Bool
  isTemplate : Bool
  body : List Char
deriving DecidableEq, Repr

namespace Quotation

/-- Whether a character is a quote. -/
def isQuote (c : Char) : Bool :=
  c = '\'' || c = '"'

/-- The quotation that a token spells. -/
def ofSpelling (spelling : List Char) : Quotation :=
  let letters := (spelling.takeWhile (!isQuote ·)).map Char.toLower
  let quoted := spelling.dropWhile (!isQuote ·)
  let quote := quoted.head?.getD '"'
  let size := if quoted.take 3 = [quote, quote, quote] then 3 else 1
  { isBytes := letters.contains 'b'
    isRaw := letters.contains 'r'
    isTemplate := letters.contains 'f'
    body := (quoted.drop size).take (quoted.length - 2 * size) }

/-! ### Escapes of texts -/

/-- Whether a character is one of ASCII. -/
def isAscii (c : Char) : Bool :=
  c.toNat < 0x80

/-- A text with an escape for every character beyond ASCII.  A backslash before such a character,
or at the end, stands for itself and becomes an escape, too. -/
def spelledOut : List Char → List Char
  | [] => []
  | ['\\'] => "\\u005c".toList
  | '\\' :: c :: rest =>
    if isAscii c then '\\' :: c :: spelledOut rest
    else "\\u005c".toList ++ ("\\U".toList ++ Text.hex 8 c.toNat) ++ spelledOut rest
  | c :: rest =>
    if isAscii c then c :: spelledOut rest
    else "\\U".toList ++ Text.hex 8 c.toNat ++ spelledOut rest

/-- The greatest code point. -/
def maxCodePoint : Nat := 0x10FFFF

/-- The size of an escape after its backslash, or what is wrong with it and how many characters
show that: a letter and so many hexadecimal digits. -/
def hexEscape (letter : Char) (needed : Nat) (rest : List Char) : Except (Nat × EscapeDefect) Nat :=
  let digits := (rest.take needed).takeWhile fun c => (Text.hexValue? c).isSome
  if digits.length < needed then .error (digits.length + 1, .tooFewDigits letter needed)
  else if Text.ofHex digits > maxCodePoint then .error (needed + 1, .tooLarge)
  else .ok (needed + 1)

/-- The same for a name in braces after its letter. -/
def namedEscape : List Char → Except (Nat × EscapeDefect) Nat
  | '\x7b' :: rest =>
    let name := rest.takeWhile (· ≠ '\x7d')
    if name.length = rest.length then .error (name.length + 2, .noName)
    else if name = [] then .error (2, .noName)
    else .error (name.length + 3, .unknownName)
  | _ => .error (1, .noName)

/-- The same for any escape. -/
def escape : List Char → Except (Nat × EscapeDefect) Nat
  | 'x' :: rest => hexEscape 'x' 2 rest
  | 'u' :: rest => hexEscape 'u' 4 rest
  | 'U' :: rest => hexEscape 'U' 8 rest
  | 'N' :: rest => namedEscape rest
  | _ => .ok 1

/-- The first fault among the escapes of a text of ASCII, from a place on. -/
def escapeFaultFrom? (place : Nat) : List Char → Option EscapeFault
  | [] => none
  | c :: rest =>
    if c = '\\' then
      match escape rest with
      | .ok size => escapeFaultFrom? (place + 1 + size) (rest.drop size)
      | .error (size, defect) => some (.ofText place (place + 1 + size) defect)
    else escapeFaultFrom? (place + 1) rest
termination_by chars => chars.length

/-- The first fault among the escapes of a text. -/
def escapeFault? (body : List Char) : Option EscapeFault :=
  escapeFaultFrom? 0 (spelledOut body)

/-! ### Escapes of bytes -/

/-- The first fault among the escapes of bytes, from a place on. -/
def byteFaultFrom? (place : Nat) : List Char → Option EscapeFault
  | '\\' :: 'x' :: a :: b :: rest =>
    if (Text.hexValue? a).isSome ∧ (Text.hexValue? b).isSome then byteFaultFrom? (place + 4) rest
    else some (.ofBytes place)
  | '\\' :: 'x' :: _ => some (.ofBytes place)
  | '\\' :: _ :: rest => byteFaultFrom? (place + 2) rest
  | _ :: rest => byteFaultFrom? (place + 1) rest
  | [] => none

/-! ### Quotations -/

/-- What is wrong with a quotation that is no template. -/
def fault? (q : Quotation) : Option Fault :=
  if q.isBytes ∧ q.body.all isAscii = false then some .bytesBeyondAscii
  else if q.isRaw then none
  else if q.isBytes then (byteFaultFrom? 0 q.body).map .escape
  else (escapeFault? q.body).map .escape

end Quotation

end TapeMachine.Expression
