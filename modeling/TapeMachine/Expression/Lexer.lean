/-
From text to tokens.

Blanks separate tokens.  A line ends in a token of its own unless a bracket is open; lines
that are empty or hold a comment do not count.  A line that is indented deeper than the
one before it begins with an indent, and one that is less so with dedents.

* **`lex`** — the tokens of a text, and why they end if they end early;
* **`Lexer.round`** — one token and what it changes;
* **`Lexed.laterFault?`** — a fault among the tokens that a parse did not come to.

Design notes:

* A tab goes to the next multiple of eight columns.  Columns are counted a second time with
  tabs of one column, and indents must agree in both counts.
* A backslash joins a line with the next one, which must exist.
* An underscore or any character beyond ASCII starts a name at first.  Only the whole name
  tells whether it may stand there.
-/
import TapeMachine.Expression.Numeral
import TapeMachine.Text.Identifier
import TapeMachine.Text.Printable

namespace TapeMachine.Expression

/-- The words that name nothing. -/
def keywords : List String :=
  ["False", "None", "True", "and", "as", "assert", "async", "await", "break", "class", "continue",
   "def", "del", "elif", "else", "except", "finally", "for", "from", "global", "if", "import",
   "in", "is", "lambda", "nonlocal", "not", "or", "pass", "raise", "return", "try", "while",
   "with", "yield"]

/-- The symbols of more than one character, the longer ones first. -/
def longSymbols : List String :=
  ["**=", "//=", "<<=", ">>=", "...", "!=", "%=", "&=", "**", "*=", "+=", "-=", "->", "//", "/=",
   ":=", "<<", "<=", "<>", "==", ">=", ">>", "@=", "^=", "|="]

/-- The letters that may stand before a quotation, in lower case. -/
def quotationPrefixes : List String :=
  ["b", "f", "r", "u", "br", "rb", "fr", "rf"]

/-- The most indents that may be open. -/
def maxIndents : Nat := 100

/-- What is known at a place of a text: the line, the open brackets and indents with the last one
first, and whether the place is at the start of a line, or in a line that does not count. -/
structure Lexer where
  line : Nat := 1
  brackets : List Bracket := []
  indents : List (Nat × Nat) := []
  fresh : Bool := true
  blank : Bool := false

/-- The tokens of a text, and why no more of them can be read. -/
structure Lexed where
  tokens : Array Token
  fault? : Option LexicalFault
  /-- The innermost bracket that is open where the tokens end. -/
  bracket? : Option Bracket
  /-- Whether the last token ends only because the text does. -/
  endSeen : Bool

namespace Lexer

/-- A token at the place. -/
def token (l : Lexer) (kind : Token.Kind) (spelling : List Char) (notes : List Note := []) :
    Token :=
  { kind, spelling, line := l.line, depth := l.brackets.length, notes }

/-- The fault of a text that ends too early. -/
def tooShort (l : Lexer) : LexicalFault :=
  match l.brackets with
  | [] => .endsInContinuation
  | b :: _ => .neverClosed b

/-! ### Margins -/

/-- The margin of a line: its columns in both counts, how many lines it takes, and what stands
after it. -/
structure Margin where
  columns : Nat
  narrow : Nat
  lines : Nat
  rest : List Char

/-- The margin at the start of a text, after some columns.  Of several lines that are joined the
first one that is indented counts. -/
def margin (l : Lexer) (columns narrow joined lines : Nat) :
    List Char → Except LexicalFault Margin
  | ' ' :: rest => margin l (columns + 1) (narrow + 1) joined lines rest
  | '\t' :: rest => margin l ((columns / 8 + 1) * 8) (narrow + 1) joined lines rest
  | '\x0c' :: rest => margin l 0 0 joined lines rest
  | ['\\', '\n'] => .error l.tooShort
  | '\\' :: '\n' :: c :: rest =>
    margin l columns narrow (if joined = 0 then columns else joined) (lines + 1) (c :: rest)
  | '\\' :: _ => .error .badContinuation
  | rest =>
    if joined = 0 then .ok ⟨columns, narrow, lines, rest⟩ else .ok ⟨joined, joined, lines, rest⟩

/-- The indents of a line with a margin, after the indents before it, and the tokens for them. -/
def indented (l : Lexer) (m : Margin) : Except LexicalFault (List Token × Lexer) :=
  let (columns, narrow) := l.indents.head?.getD (0, 0)
  if m.columns = columns then
    if m.narrow = narrow then .ok ([], l) else .error .mixedIndent
  else if columns < m.columns then
    if l.indents.length + 1 ≥ maxIndents then .error .tooManyIndents
    else if m.narrow ≤ narrow then .error .mixedIndent
    else .ok ([l.token .indent []], { l with indents := (m.columns, m.narrow) :: l.indents })
  else
    let kept := l.indents.dropWhile fun indent => m.columns < indent.1
    let (columns, narrow) := kept.head?.getD (0, 0)
    if m.columns ≠ columns then .error .unevenDedent
    else if m.narrow ≠ narrow then .error .mixedIndent
    else
      .ok (List.replicate (l.indents.length - kept.length) (l.token .dedent []),
        { l with indents := kept })

/-- The start of a line. -/
def startLine (l : Lexer) (chars : List Char) :
    Except LexicalFault (List Token × Lexer × List Char) := do
  let m ← l.margin 0 0 0 0 chars
  let l := { l with line := l.line + m.lines, fresh := false }
  if m.rest.head? = some '#' ∨ m.rest.head? = some '\n' then
    return ([], { l with blank := true }, m.rest)
  else if l.brackets ≠ [] then return ([], l, m.rest)
  else
    let (tokens, l) ← l.indented m
    return (tokens, l, m.rest)

/-! ### Quotations -/

/-- How many of the characters after an opening quote belong to a quotation, up to the closing
one. -/
def closed? (quote : Char) : List Char → Option Nat
  | '\\' :: _ :: rest => (closed? quote rest).map (· + 2)
  | c :: rest =>
    if c = '\n' then none
    else if c = quote then some 1
    else (closed? quote rest).map (· + 1)
  | [] => none

/-- The same after three opening quotes, of which the last `run` characters were such quotes. -/
def closedByThree? (quote : Char) (run : Nat) : List Char → Option Nat
  | '\\' :: _ :: rest => (closedByThree? quote 0 rest).map (· + 2)
  | c :: rest =>
    if c = quote then
      if run = 2 then some 1 else (closedByThree? quote (run + 1) rest).map (· + 1)
    else (closedByThree? quote 0 rest).map (· + 1)
  | [] => none

/-- The characters of a quotation that is not closed, up to where that shows. -/
def unclosed : List Char → List Char
  | '\\' :: c :: rest => '\\' :: c :: unclosed rest
  | c :: rest => if c = '\n' then [] else c :: unclosed rest
  | [] => []

/-- A quotation after its prefix. -/
def quotation (l : Lexer) (start : List Char) (quote : Char) (rest : List Char) :
    Except LexicalFault (List Token × Lexer × List Char) :=
  let triple := rest.take 2 = [quote, quote]
  let body := if triple then rest.drop 2 else rest
  match if triple then closedByThree? quote 0 body else closed? quote rest with
  | none =>
    let before := if triple then body else unclosed rest
    let ended := if triple ∨ before = rest then before.dropLast else before
    .error (.unterminated triple (l.line + lineFeeds ended))
  | some size =>
    let size := if triple then size + 2 else size
    .ok ([l.token .quotation (start ++ quote :: rest.take size)],
      { l with line := l.line + lineFeeds (rest.take size) }, rest.drop size)

/-! ### Other tokens -/

/-- A name, a keyword, or a quotation with letters before it. -/
def word (l : Lexer) (chars : List Char) :
    Except LexicalFault (List Token × Lexer × List Char) :=
  let run := chars.takeWhile Numeral.inName
  let rest := chars.drop run.length
  let spelling := String.ofList run
  match rest with
  | quote :: more =>
    if (quote = '\'' ∨ quote = '"') ∧ quotationPrefixes.contains spelling.toLower then
      l.quotation run quote more
    else named spelling run rest
  | [] => named spelling run rest
where
  named (spelling : String) (run rest : List Char) :
      Except LexicalFault (List Token × Lexer × List Char) :=
    match Text.strangeIn? run with
    | some c => .error (.strayCharacter c)
    | none =>
      .ok ([l.token (if keywords.contains spelling then .keyword else .name) run], l, rest)

/-- A number, given what was found at its start. -/
def number (l : Lexer) (chars : List Char) (scan : Except LexicalFault Numeral.Scan) :
    Except LexicalFault (List Token × Lexer × List Char) := do
  let found ← scan
  let notes := (found.note?.map fun numeral => ⟨l.line, numeral⟩).toList
  let spelling := chars.take (chars.length - found.rest.length)
  return ([l.token (if found.imaginary then .imaginary else .number) spelling notes], l,
    found.rest)

/-- A symbol.  Brackets are opened and closed. -/
def symbol (l : Lexer) (c : Char) (rest : List Char) :
    Except LexicalFault (List Token × Lexer × List Char) :=
  match longSymbols.find? fun s => s.toList.isPrefixOf (c :: rest) with
  | some s => .ok ([l.token .symbol s.toList], l, rest.drop (s.length - 1))
  | none =>
    if (closing? c).isSome then
      if l.brackets.length ≥ maxBrackets then .error .tooManyBrackets
      else
        let l := { l with brackets := ⟨c, l.line⟩ :: l.brackets }
        .ok ([l.token .symbol [c]], l, rest)
    else if c = ')' ∨ c = '\x7d' then
      match l.brackets with
      | [] => .error (.unmatched c)
      | b :: outer =>
        if closing? b.opening = some c then
          let l := { l with brackets := outer }
          .ok ([l.token .symbol [c]], l, rest)
        else .error (.mismatched c b.opening (if b.line = l.line then none else some b.line))
    else if Text.isPrintable c then .ok ([l.token .symbol [c]], l, rest)
    else .error (.strayCharacter c)

/-! ### The text -/

/-- One token at most, the lexer after it, and what stands after it.  A text that has ended has
nothing more. -/
def round (l : Lexer) (chars : List Char) :
    Except LexicalFault (List Token × Lexer × List Char) :=
  if l.fresh then l.startLine chars
  else
    match chars.dropWhile fun c => c = ' ' ∨ c = '\t' ∨ c = '\x0c' with
    | [] => .ok ([], l, [])
    | '#' :: rest => .ok ([], l, rest.dropWhile (· ≠ '\n'))
    | '\n' :: rest =>
      let tokens := if l.blank ∨ l.brackets ≠ [] then [] else [l.token .newline []]
      .ok (tokens, { l with line := l.line + 1, fresh := true, blank := false }, rest)
    | ['\\', '\n'] => .error l.tooShort
    | '\\' :: '\n' :: rest => .ok ([], { l with line := l.line + 1 }, rest)
    | '\\' :: _ => .error .badContinuation
    | '.' :: c :: rest =>
      if c.isDigit then l.number ('.' :: c :: rest) (Numeral.fraction (c :: rest))
      else l.symbol '.' (c :: rest)
    | c :: rest =>
      if c.isDigit then l.number (c :: rest) (Numeral.scan (c :: rest))
      else if Numeral.inName c then l.word (c :: rest)
      else if c = '\'' ∨ c = '"' then l.quotation [] c rest
      else l.symbol c rest

/-- Whether a token ends with its last character, whatever follows. -/
def isClosed (t : Token) : Bool :=
  match t.kind with
  | .quotation => !(["''".toList, "\"\"".toList].contains (t.spelling.dropWhile Numeral.inName))
  | .symbol => t.spelling = "...".toList
  | _ => false

/-- The tokens of a text, after tokens in reverse, of which the last one may have come to the end of
the text.  Of two rounds one takes a character. -/
def run (l : Lexer) (done : List Token) (endSeen : Bool) : Nat → List Char → Lexed
  | 0, _ => ⟨done.reverse.toArray, none, none, endSeen⟩
  | rounds + 1, chars =>
    if chars = [] ∧ l.fresh = false then
      match l.brackets with
      | [] => ⟨(l.token .finish [] :: done).reverse.toArray, none, none, true⟩
      | b :: _ => ⟨done.reverse.toArray, some (.neverClosed b), some b, endSeen⟩
    else
      match l.round chars with
      | .error e => ⟨done.reverse.toArray, some e, l.brackets.head?, false⟩
      | .ok (tokens, l, rest) =>
        l.run (tokens.reverse ++ done) (rest = [] && tokens.any (!isClosed ·)) rounds rest

end Lexer

/-- The tokens of a text that starts on a line. -/
def lex (line : Nat) (chars : List Char) : Lexed :=
  ({ line } : Lexer).run [] false (2 * chars.length + 2) chars

/-- The fault that the tokens end in, where a parse read them up to a line.  A fault of the layout
does not count, but for a bracket that was left open on a line before. -/
def Lexed.laterFault? (x : Lexed) (line : Nat) : Option LexicalFault :=
  match x.fault? with
  | none => none
  | some e =>
    if e.isLayout then
      match x.bracket? with
      | some b => if b.line < line then some (.neverClosed b) else none
      | none => none
    else some e

end TapeMachine.Expression
