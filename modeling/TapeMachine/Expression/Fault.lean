/-
What can be wrong with an expression.

* **`Mistake`** — a fault of grammar;
* **`EscapeFault`**, **`TemplateFault`** — faults inside of a quotation;
* **`Fault.message`** — the wording, all in one place.
-/
import TapeMachine.Expression.Node
import TapeMachine.Text.Hex
import TapeMachine.Text.Printable

namespace TapeMachine.Expression

/-- A fault of grammar. -/
inductive Mistake where
  | invalid
  | indented
  | dedented
  | missingComma
  | missingElse
  | missingParentheses (name : String)
  /-- An assignment where a test should stand. -/
  | notATest
  | notATestOf (title : String)
  | noTarget (title : String)
  | noNamedTarget (title : String)
  | assignedArgument
  | starAfterKeywords
  | bareGenerator
  | positionalAfterKeyword
  | positionalAfterUnpacked
  | starredGenerator
  | unpackedGenerator
  | bareTargets
  | starredGroup
  | unpackedGroup
  | keyWithoutColon
  | starredValue
  | keyWithoutValue
  | defaultBeforeParameter
  | parameterInParentheses
  | nothingBeforeSlash
  | secondSlash
  | slashAfterStar
  | slashBesideStar
  | missingDefault
  | nothingAfterStar
  | starDefault
  | secondStar
  | keywordsDefault
  | parameterAfterKeywords
deriving DecidableEq, Repr

/-- Why an escape stands for no character. -/
inductive EscapeDefect where
  /-- A letter has fewer digits after it than it needs. -/
  | tooFewDigits (letter : Char) (needed : Nat)
  | tooLarge
  /-- There is no name in braces. -/
  | noName
  | unknownName
deriving DecidableEq, Repr

/-- A defective escape. -/
inductive EscapeFault where
  /-- An escape of a text, from one place to another one before which it ends. -/
  | ofText (first last : Nat) (defect : EscapeDefect)
  /-- An escape of bytes. -/
  | ofBytes (place : Nat)
deriving DecidableEq, Repr

/-- What can be wrong with a text that holds expressions in braces. -/
inductive TemplateFault where
  | singleBrace
  | noBrace
  | nestedTooDeeply
  | backslash
  | comment
  | unterminated
  | unmatched (bracket : Char)
  | mismatched (closing opening : Char)
  | tooManyBrackets
  | nothing
  | nothingBefore (mark : Char)
  | badConversion
deriving DecidableEq, Repr

/-- What is wrong with an expression. -/
inductive Fault where
  | lexical (f : LexicalFault)
  | grammar (m : Mistake)
  | escape (f : EscapeFault)
  | template (f : TemplateFault)
  | bytesBeyondAscii
  | mixedBytes
  /-- A fault inside of a text that holds expressions. -/
  | within (f : Fault)
deriving DecidableEq, Repr

/-! ### Wording -/

/-- The code point of a character. -/
def codePointName (c : Char) : String :=
  "U+" ++ String.ofList ((Text.hex 4 c.toNat).map Char.toUpper)

def LexicalFault.message : LexicalFault → String
  | .badNumber n => s!"invalid {n.name} literal"
  | .badDigit digit n => s!"invalid digit '{digit}' in {n.name} literal"
  | .leadingZeros =>
    "leading zeros in decimal integer literals are not permitted; " ++
      "use an 0o prefix for octal integers"
  | .unterminated triple line =>
    let sort := if triple then "triple-quoted string" else "string"
    s!"unterminated {sort} literal (detected at line {line})"
  | .strayCharacter c =>
    if Text.isPrintable c then s!"invalid character '{c}' ({codePointName c})"
    else s!"invalid non-printable character {codePointName c}"
  | .unmatched bracket => s!"unmatched '{bracket}'"
  | .mismatched closing opening line? =>
    let place := line?.elim "" fun line => s!" on line {line}"
    s!"closing parenthesis '{closing}' does not match opening parenthesis '{opening}'{place}"
  | .tooManyBrackets => "too many nested parentheses"
  | .neverClosed b => s!"'{b.opening}' was never closed"
  | .endsInContinuation => "unexpected EOF while parsing"
  | .badContinuation => "unexpected character after line continuation character"
  | .unevenDedent => "unindent does not match any outer indentation level"
  | .mixedIndent => "inconsistent use of tabs and spaces in indentation"
  | .tooManyIndents => "too many levels of indentation"

def Mistake.message : Mistake → String
  | .invalid => "invalid syntax"
  | .indented => "unexpected indent"
  | .dedented => "unexpected unindent"
  | .missingComma => "invalid syntax. Perhaps you forgot a comma?"
  | .missingElse => "expected 'else' after 'if' expression"
  | .missingParentheses name =>
    s!"Missing parentheses in call to '{name}'. Did you mean {name}(...)?"
  | .notATest => "invalid syntax. Maybe you meant '==' or ':=' instead of '='?"
  | .notATestOf title => s!"cannot assign to {title} here. Maybe you meant '==' instead of '='?"
  | .noTarget title => s!"cannot assign to {title}"
  | .noNamedTarget title => s!"cannot use assignment expressions with {title}"
  | .assignedArgument => "expression cannot contain assignment, perhaps you meant \"==\"?"
  | .starAfterKeywords => "iterable argument unpacking follows keyword argument unpacking"
  | .bareGenerator => "Generator expression must be parenthesized"
  | .positionalAfterKeyword => "positional argument follows keyword argument"
  | .positionalAfterUnpacked => "positional argument follows keyword argument unpacking"
  | .starredGenerator => "iterable unpacking cannot be used in comprehension"
  | .unpackedGenerator => "dict unpacking cannot be used in dict comprehension"
  | .bareTargets => "did you forget parentheses around the comprehension target?"
  | .starredGroup => "cannot use starred expression here"
  | .unpackedGroup => "cannot use double starred expression here"
  | .keyWithoutColon => "':' expected after dictionary key"
  | .starredValue => "cannot use a starred expression in a dictionary value"
  | .keyWithoutValue => "expression expected after dictionary key and ':'"
  | .defaultBeforeParameter => "non-default argument follows default argument"
  | .parameterInParentheses => "Lambda expression parameters cannot be parenthesized"
  | .nothingBeforeSlash => "at least one argument must precede /"
  | .secondSlash => "/ may appear only once"
  | .slashAfterStar => "/ must be ahead of *"
  | .slashBesideStar => "expected comma between / and *"
  | .missingDefault => "expected default value expression"
  | .nothingAfterStar => "named arguments must follow bare *"
  | .starDefault => "var-positional argument cannot have default value"
  | .secondStar => "* argument may appear only once"
  | .keywordsDefault => "var-keyword argument cannot have default value"
  | .parameterAfterKeywords => "arguments cannot follow var-keyword argument"

def EscapeDefect.message : EscapeDefect → String
  | .tooFewDigits letter needed =>
    let digits := String.ofList (List.replicate needed 'X')
    s!"truncated \\{letter}{digits} escape"
  | .tooLarge => "illegal Unicode character"
  | .noName => "malformed \\N character escape"
  | .unknownName => "unknown Unicode character name"

def EscapeFault.message : EscapeFault → String
  | .ofText first last defect =>
    "(unicode error) 'unicodeescape' codec can't decode bytes in position " ++
      s!"{first}-{last - 1}: {defect.message}"
  | .ofBytes place => s!"(value error) invalid \\x escape at position {place}"

def TemplateFault.message : TemplateFault → String
  | .singleBrace => "single '\x7d' is not allowed"
  | .noBrace => "expecting '\x7d'"
  | .nestedTooDeeply => "expressions nested too deeply"
  | .backslash => "expression part cannot include a backslash"
  | .comment => "expression part cannot include '#'"
  | .unterminated => "unterminated string"
  | .unmatched bracket => s!"unmatched '{bracket}'"
  | .mismatched closing opening =>
    s!"closing parenthesis '{closing}' does not match opening parenthesis '{opening}'"
  | .tooManyBrackets => "too many nested parenthesis"
  | .nothing => "empty expression not allowed"
  | .nothingBefore mark => s!"expression required before '{mark}'"
  | .badConversion => "invalid conversion character: expected 's', 'r', or 'a'"

/-- Whether the wording of a fault of a template joins the name of templates without a colon. -/
def TemplateFault.isOfPart : TemplateFault → Bool
  | .backslash | .comment => true
  | _ => false

def Fault.message : Fault → String
  | .lexical f => f.message
  | .grammar m => m.message
  | .escape f => f.message
  | .template f => (if f.isOfPart then "f-string " else "f-string: ") ++ f.message
  | .bytesBeyondAscii => "bytes can only contain ASCII literal characters"
  | .mixedBytes => "cannot mix bytes and nonbytes literals"
  | .within f => "f-string: " ++ f.message

/-- The wording of a note. -/
def Note.message (n : Note) : String :=
  s!"<unknown>:{n.line}: SyntaxWarning: invalid {n.numeral.name} literal"

end TapeMachine.Expression
