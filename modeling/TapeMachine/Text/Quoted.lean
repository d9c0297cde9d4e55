/-
Quoted text, for messages that name what the user wrote.

The text stands between single quotes, or between double quotes if it holds a
single quote and no double quote.  A backslash, the quote in use, line feed,
carriage return and tab are written with a backslash; any other character that is
not printable is written by its number.

* **`quoted`** — the quoted form of a text.
-/
import TapeMachine.Text.Hex
import TapeMachine.Text.Printable

namespace TapeMachine.Text

/-- The quote that a text is put in. -/
def quoteFor (chars : List Char) : Char :=
  if '\'' ∈ chars ∧ '"' ∉ chars then '"' else '\''

/-- One character inside quotes. -/
def quotedChar (quote c : Char) : List Char :=
  if c = '\\' ∨ c = quote then ['\\', c]
  else if c = '\n' then ['\\', 'n']
  else if c = '\r' then ['\\', 'r']
  else if c = '\t' then ['\\', 't']
  else if isPrintable c then [c]
  else if c.toNat < 0x100 then '\\' :: 'x' :: hex 2 c.toNat
  else if c.toNat < 0x10000 then '\\' :: 'u' :: hex 4 c.toNat
  else '\\' :: 'U' :: hex 8 c.toNat

/-- A text in quotes. -/
def quoted (text : String) : String :=
  let quote := quoteFor text.toList
  String.ofList (quote :: text.toList.flatMap (quotedChar quote) ++ [quote])

end TapeMachine.Text
