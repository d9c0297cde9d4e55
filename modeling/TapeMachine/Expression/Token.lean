/-
The tokens of expressions.

* **`Token`** — a token, with where it stands;
* **`LexicalFault`** — why no token can be read on.

Design notes:

* A token knows how many brackets are open after it, because some mistakes are only
  made inside of brackets.
* Square brackets are no part of expressions: those stand in a text between such brackets.
-/

namespace TapeMachine.Expression

/-- The kinds of tokens. -/
inductive Token.Kind where
  | name
  /-- A word that names nothing. -/
  | keyword
  | number
  | imaginary
  | quotation
  | symbol
  | newline
  | indent
  | dedent
  | finish
deriving DecidableEq, Repr

/-- The ways to write a number, as far as they can go wrong. -/
inductive Numeral where
  | decimal
  | hexadecimal
  | octal
  | binary
  | imaginary
deriving DecidableEq, Repr

def Numeral.name : Numeral → String
  | .decimal => "decimal"
  | .hexadecimal => "hexadecimal"
  | .octal => "octal"
  | .binary => "binary"
  | .imaginary => "imaginary"

/-- Something to be said about a line that is no fault: a number runs into a keyword. -/
structure Note where
  line : Nat
  numeral : Numeral
deriving DecidableEq, Repr

/-- A token as it is spelled, the line on which it stands, how many brackets are open after it, and
what is to be said about it. -/
structure Token where
  kind : Token.Kind
  spelling : List Char
  line : Nat
  depth : Nat
  notes : List Note := []
deriving DecidableEq, Repr

/-- An open bracket and its line. -/
structure Bracket where
  opening : Char
  line : Nat
deriving DecidableEq, Repr

/-- The bracket that closes another one. -/
def closing? : Char → Option Char
  | '(' => some ')'
  | '\x7b' => some '\x7d'
  | _ => none

/-- The most brackets that may be open. -/
def maxBrackets : Nat := 200

/-- How many line feeds a text holds. -/
def lineFeeds (chars : List Char) : Nat :=
  chars.count '\n'

/-- Why no token can be read on. -/
inductive LexicalFault where
  /-- A fault of the characters themselves. -/
  | badNumber (n : Numeral)
  | badDigit (digit : Char) (n : Numeral)
  | leadingZeros
  | unterminated (triple : Bool) (line : Nat)
  | strayCharacter (c : Char)
  | unmatched (bracket : Char)
  /-- The line of the opening bracket is told if it is another one. -/
  | mismatched (closing opening : Char) (line? : Option Nat)
  | tooManyBrackets
  /-- A fault of the layout. -/
  | neverClosed (b : Bracket)
  | endsInContinuation
  | badContinuation
  | unevenDedent
  | mixedIndent
  | tooManyIndents
deriving DecidableEq, Repr

/-- Whether a fault is one of the layout. -/
def LexicalFault.isLayout : LexicalFault → Bool
  | .neverClosed _ | .endsInContinuation | .badContinuation | .unevenDedent | .mixedIndent
  | .tooManyIndents => true
  | _ => false

end TapeMachine.Expression
