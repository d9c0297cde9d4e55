/-
Writing JSON text on one line of ASCII.

Items are separated by a comma and a blank, and a key from its value by a colon and
a blank.  Every character outside U+0020 to U+007E is escaped, beyond U+FFFF as a
pair of surrogates.

* **`write`** — the text of a value;
* **`floatText`** — the shortest decimal that reads back, in positional notation from
  `0.0001` up to below `10 ^ 16`.
-/
import TapeMachine.Decimal.Shortest
import TapeMachine.Json.Value
import TapeMachine.Text.Hex

namespace TapeMachine.Json

/-! ### Numbers -/

/-- An integer in decimal. -/
def intText (i : Int) : List Char :=
  if i < 0 then '-' :: Nat.toDigits 10 i.natAbs else Nat.toDigits 10 i.natAbs

/-- Digits with a decimal point after the first `place` of them, filled up with zeros. -/
def positional (digits : List Char) (place : Int) : List Char :=
  if place ≤ 0 then '0' :: '.' :: List.replicate (-place).toNat '0' ++ digits
  else
    let whole := place.toNat
    if digits.length ≤ whole then
      digits ++ List.replicate (whole - digits.length) '0' ++ ['.', '0']
    else digits.take whole ++ '.' :: digits.drop whole

/-- Digits with a point after the first, and an exponent of at least two digits. -/
def withExponent (digits : List Char) (exponent : Int) : List Char :=
  let power := Nat.toDigits 10 exponent.natAbs
  let padded := List.replicate (2 - power.length) '0' ++ power
  let fraction := if digits.length > 1 then '.' :: digits.drop 1 else []
  digits.take 1 ++ fraction ++ 'e' :: (if exponent < 0 then '-' else '+') :: padded

/-- The least and the greatest exponent of positional notation. -/
def positionalExponents : Int × Int := (-4, 15)

/-- A finite magnitude in decimal. -/
def magnitudeText (b : Decimal.Binary) : List Char :=
  if b.mantissa = 0 then ['0', '.', '0']
  else
    let s := Decimal.shortest b
    let digits := Nat.toDigits 10 s.digits
    let place := digits.length + s.exponent
    if positionalExponents.1 ≤ place - 1 ∧ place - 1 ≤ positionalExponents.2 then
      positional digits place
    else withExponent digits (place - 1)

/-- A number that is no integer. -/
def floatText (x : Float) : List Char :=
  match Decimal.Kind.of x with
  | .notANumber => "NaN".toList
  | .infinite negative => (if negative then "-Infinity" else "Infinity").toList
  | .finite negative b => if negative then '-' :: magnitudeText b else magnitudeText b

/-! ### Strings -/

/-- The escape of a code unit. -/
def unitEscape (unit : Nat) : List Char :=
  '\\' :: 'u' :: Text.hex 4 unit

/-- One character inside quotes. -/
def charText (c : Char) : List Char :=
  if c = '"' ∨ c = '\\' then ['\\', c]
  else if c = '\n' then ['\\', 'n']
  else if c = '\r' then ['\\', 'r']
  else if c = '\t' then ['\\', 't']
  else if c = '\x0c' then ['\\', 'f']
  else if c = '\x08' then ['\\', 'b']
  else if 0x20 ≤ c.toNat ∧ c.toNat < 0x7F then [c]
  else if c.toNat < 0x10000 then unitEscape c.toNat
  else
    let offset := c.toNat - 0x10000
    unitEscape (0xD800 + offset / 0x400) ++ unitEscape (0xDC00 + offset % 0x400)

/-- A text in quotes. -/
def stringText (s : String) : List Char :=
  '"' :: s.toList.flatMap charText ++ ['"']

/-! ### Values -/

mutual

/-- The text of a value. -/
def write : Value → List Char
  | .null => "null".toList
  | .bool b => (if b then "true" else "false").toList
  | .int i => intText i
  | .float x => floatText x
  | .str s => stringText s
  | .array items => '[' :: writeItems items ++ [']']
  | .object members => '\x7b' :: writeMembers members ++ ['\x7d']

/-- Items with separators between them. -/
def writeItems : List Value → List Char
  | [] => []
  | [v] => write v
  | v :: w :: rest => write v ++ ',' :: ' ' :: writeItems (w :: rest)

/-- Members with separators between them. -/
def writeMembers : List (String × Value) → List Char
  | [] => []
  | [(key, v)] => stringText key ++ ':' :: ' ' :: write v
  | (key, v) :: m :: rest =>
    stringText key ++ ':' :: ' ' :: write v ++ ',' :: ' ' :: writeMembers (m :: rest)

end

end TapeMachine.Json
