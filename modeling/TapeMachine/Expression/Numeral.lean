/-
Numbers in expressions.

A number is decimal, with an optional fraction and exponent, or a whole number of base
16, 8 or 2 after `0x`, `0o` or `0b`.  A decimal number with `j` after it is imaginary.
Single underscores may stand between digits, and after the letter of a base.

* **`Numeral.scan`** — the number at the start of a text;
* **`Numeral.ending`** — what may stand right after a number.

Design notes:

* Some keywords may follow a number without a blank.  That is noted.
* Zeros may lead a whole number only if it is zero.
-/
import TapeMachine.Expression.Token
import TapeMachine.Text.Hex

namespace TapeMachine.Expression.Numeral

/-- A number at the start of a text: what stands after it, whether it is imaginary, and what is to
be noted. -/
structure Scan where
  rest : List Char
  imaginary : Bool := false
  note? : Option Numeral := none
deriving DecidableEq, Repr

/-! ### What follows -/

/-- Whether a character may stand in a name, where all beyond ASCII may at first. -/
def inName (c : Char) : Bool :=
  c = '_' || c.isAlphanum || c.toNat ≥ 0x80

/-- The keywords that may follow a number without a blank, if the word ends there. -/
def followers : List String :=
  ["and", "else", "for", "or", "not"]

/-- The keywords that may follow a number whether or not the word ends there. -/
def looseFollowers : List String :=
  ["if", "in", "is"]

/-- Whether a text goes on with a character of a name. -/
def goesOn (rest : List Char) : Bool :=
  rest.head?.any inName

/-- Whether a text starts with a keyword that may follow a number. -/
def startsFollower (rest : List Char) : Bool :=
  (followers.any fun word => word.toList.isPrefixOf rest && !goesOn (rest.drop word.length)) ||
    looseFollowers.any fun word => word.toList.isPrefixOf rest

/-- The end of a number before a text: nothing that could belong to it, or a keyword. -/
def ending (n : Numeral) (imaginary : Bool) (rest : List Char) : Except LexicalFault Scan :=
  if startsFollower rest then .ok { rest, imaginary, note? := some n }
  else if goesOn rest then .error (.badNumber n)
  else .ok { rest, imaginary }

/-! ### Decimal numbers -/

/-- What stands after the digits that go on after a digit. -/
def digitsOn : List Char → Except LexicalFault (List Char)
  | [] => .ok []
  | ['_'] => .error (.badNumber .decimal)
  | '_' :: c :: rest => if c.isDigit then digitsOn rest else .error (.badNumber .decimal)
  | c :: rest => if c.isDigit then digitsOn rest else .ok (c :: rest)

/-- The end of a decimal number, which may be imaginary. -/
def afterDecimal (rest : List Char) : Except LexicalFault Scan :=
  match rest with
  | 'j' :: more | 'J' :: more => ending .imaginary true more
  | _ => ending .decimal false rest

/-- The exponent of a number after its letter, and the end of the number. -/
def exponent (letter : Char) (rest : List Char) : Except LexicalFault Scan :=
  let signed := rest.head? = some '+' || rest.head? = some '-'
  match if signed then rest.tail else rest with
  | [] => if signed then .error (.badNumber .decimal) else ending .decimal false (letter :: rest)
  | c :: more =>
    if c.isDigit then
      match digitsOn more with
      | .error e => .error e
      | .ok rest => afterDecimal rest
    else if signed then .error (.badNumber .decimal)
    else ending .decimal false (letter :: rest)

/-- The end of a number after its fraction, if any. -/
def afterFraction (rest : List Char) : Except LexicalFault Scan :=
  match rest with
  | 'e' :: more => exponent 'e' more
  | 'E' :: more => exponent 'E' more
  | _ => afterDecimal rest

/-- The end of a number after its point. -/
def fraction (rest : List Char) : Except LexicalFault Scan :=
  match rest with
  | [] => afterFraction []
  | c :: more =>
    if c.isDigit then
      match digitsOn more with
      | .error e => .error e
      | .ok rest => afterFraction rest
    else afterFraction rest

/-- The end of a decimal number after the digits before its point. -/
def afterWhole (rest : List Char) : Except LexicalFault Scan :=
  match rest with
  | '.' :: more => fraction more
  | _ => afterFraction rest

/-- What stands after zeros that go on after a zero. -/
def zerosOn : List Char → Except LexicalFault (List Char)
  | [] => .ok []
  | ['_'] => .error (.badNumber .decimal)
  | '_' :: c :: rest =>
    if c = '0' then zerosOn rest
    else if c.isDigit then .ok (c :: rest)
    else .error (.badNumber .decimal)
  | c :: rest => if c = '0' then zerosOn rest else .ok (c :: rest)

/-- Whether a whole number cannot end here: it needs a fraction, an exponent or the letter of an
imaginary number. -/
def staysWhole (rest : List Char) : Bool :=
  match rest with
  | c :: _ => !(['.', 'e', 'E', 'j', 'J'].contains c)
  | [] => true

/-- The end of a number after a zero. -/
def afterZero (rest : List Char) : Except LexicalFault Scan :=
  match zerosOn rest with
  | .error e => .error e
  | .ok [] => afterWhole []
  | .ok (c :: more) =>
    if c.isDigit then
      match digitsOn more with
      | .error e => .error e
      | .ok rest => if staysWhole rest then .error .leadingZeros else afterWhole rest
    else afterWhole (c :: more)

/-! ### Other bases -/

/-- Whether a character is a digit of a base. -/
def isDigitOf : Numeral → Char → Bool
  | .hexadecimal, c => (Text.hexValue? c).isSome
  | .octal, c => '0' ≤ c && c ≤ '7'
  | .binary, c => c = '0' || c = '1'
  | _, c => c.isDigit

/-- The fault of a text that should go on with a digit of a base. -/
def noDigit (n : Numeral) (rest : List Char) : LexicalFault :=
  match rest with
  | c :: _ => if c.isDigit then .badDigit c n else .badNumber n
  | [] => .badNumber n

/-- The end of a number of a base, after its letter or a digit. -/
def based (n : Numeral) (started : Bool) : List Char → Except LexicalFault Scan
  | [] => if started then ending n false [] else .error (noDigit n [])
  | ['_'] => .error (noDigit n [])
  | '_' :: c :: rest => if isDigitOf n c then based n true rest else .error (noDigit n (c :: rest))
  | c :: rest =>
    if isDigitOf n c then based n true rest
    else if started ∧ c.isDigit = false then ending n false (c :: rest)
    else .error (noDigit n (c :: rest))

/-! ### Numbers -/

/-- The number at the start of a text that starts with a digit. -/
def scan (chars : List Char) : Except LexicalFault Scan :=
  match chars with
  | '0' :: 'x' :: rest | '0' :: 'X' :: rest => based .hexadecimal false rest
  | '0' :: 'o' :: rest | '0' :: 'O' :: rest => based .octal false rest
  | '0' :: 'b' :: rest | '0' :: 'B' :: rest => based .binary false rest
  | '0' :: rest => afterZero rest
  | _ =>
    match digitsOn chars.tail with
    | .error e => .error e
    | .ok rest => afterWhole rest

end TapeMachine.Expression.Numeral
