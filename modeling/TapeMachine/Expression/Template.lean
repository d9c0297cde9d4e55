/-
Templates: texts that hold expressions in braces.

After its expression a field may show the expression itself (`=`), ask for a conversion
(`!`) and for a format (`:`), which may hold fields again.  Outside of fields two equal braces
stand for one.

* **`Template.read`** — reads a template, given how expressions are read;
* **`Template.literal`** — the text up to the next field;
* **`Template.expression`** — the expression at the start of a field;
* **`readQuotations`** — reads quotations that stand in a row.

Design notes:

* An expression is read in parentheses, so that white space and line feeds may stand
  around it.
* The expression ends at the first mark outside of quotes and brackets.  What the quotes
  and brackets hold is read only after that.
-/
import TapeMachine.Expression.Quotation

namespace TapeMachine.Expression

/-- Reading with notes, which ends at the first fault. -/
abbrev Reading (α : Type) : Type :=
  ExceptT Fault (StateM (List Note)) α

namespace Template

/-- Ends reading with a fault of the template itself. -/
def fail {α : Type} (f : TemplateFault) : Reading α :=
  throw (.template f)

/-! ### Literal text -/

/-- The text up to a field or to the end, and what stands after it.  Where a doubled brace ends it,
it goes on after that. -/
structure Literal where
  chars : List Char
  rest : List Char
  goesOn : Bool
deriving DecidableEq, Repr

/-- The text with one more character before it. -/
def Literal.cons (c : Char) (l : Literal) : Literal :=
  { l with chars := c :: l.chars }

/-- The text before a brace, which stands before `rest`. -/
def stop (isNested : Bool) (brace : Char) (rest : List Char) : Except TemplateFault Literal :=
  if isNested then .ok ⟨[], brace :: rest, false⟩
  else if rest.head? = some brace then .ok ⟨[brace], rest.tail, true⟩
  else if brace = '\x7d' then .error .singleBrace
  else .ok ⟨[], brace :: rest, false⟩

/-- Whether a character is a brace. -/
def isBrace (c : Char) : Bool :=
  c = '\x7b' || c = '\x7d'

/-- The text at the start of a template or of a format.  The braces of a named character are no
fields, and a backslash does not keep a brace from being one. -/
def literal (isRaw isNested inName : Bool) : List Char → Except TemplateFault Literal
  | [] => .ok ⟨[], [], false⟩
  | '\\' :: 'N' :: c :: rest =>
    if inName ∨ isRaw then
      (literal isRaw isNested inName ('N' :: c :: rest)).map (.cons '\\')
    else (literal isRaw isNested (c = '\x7b') rest).map (.cons '\\' <| .cons 'N' <| .cons c ·)
  | '\\' :: c :: rest =>
    if inName ∨ isRaw then (literal isRaw isNested inName (c :: rest)).map (.cons '\\')
    else if isBrace c then (stop isNested c rest).map (.cons '\\')
    else (literal isRaw isNested false rest).map (.cons '\\' <| .cons c ·)
  | c :: rest =>
    if inName then (literal isRaw isNested (c ≠ '\x7d') rest).map (.cons c)
    else if isBrace c then stop isNested c rest
    else (literal isRaw isNested false rest).map (.cons c)

/-! ### Expressions -/

/-- An expression of a field and what stands after it. -/
structure Field where
  chars : List Char
  rest : List Char
deriving DecidableEq, Repr

/-- The field with one more character before it. -/
def Field.cons (c : Char) (f : Field) : Field :=
  { f with chars := c :: f.chars }

/-- The quote that closes a quotation, and whether there are three of them. -/
structure OpenQuote where
  quote : Char
  isTriple : Bool
deriving DecidableEq, Repr

/-- The end of an expression where the template ends. -/
def ended (brackets : List Char) (quote? : Option OpenQuote) : Except TemplateFault Field :=
  if quote?.isSome then .error .unterminated
  else
    match brackets with
    | b :: _ => .error (.unmatched b)
    | [] => .ok ⟨[], []⟩

/-- Whether a character may end an expression outside of brackets. -/
def isMark (c : Char) : Bool :=
  c = '!' || c = ':' || c = '\x7d' || c = '='

/-- Whether a character makes another symbol together with an equals sign after it. -/
def joinsEquals (c : Char) : Bool :=
  c = '!' || c = '=' || c = '<' || c = '>'

/-- The brackets that are open after a character, or why it cannot stand there. -/
def bracketsAfter (brackets : List Char) (c : Char) : Except TemplateFault (List Char) :=
  if (closing? c).isSome then
    if brackets.length ≥ maxBrackets then .error .tooManyBrackets else .ok (c :: brackets)
  else if c = ')' ∨ c = '\x7d' then
    match brackets with
    | [] => .error (.unmatched c)
    | b :: outer => if closing? b = some c then .ok outer else .error (.mismatched c b)
  else .ok brackets

/-- The expression at the start of a field, while some brackets and a quotation are open, after
`skipped` characters that are already known to belong to it. -/
def expression (skipped : Nat) (brackets : List Char) (quote? : Option OpenQuote) :
    List Char → Except TemplateFault Field
  | [] => ended brackets quote?
  | c :: rest =>
    let triple := rest.take 2 = [c, c]
    match skipped, quote? with
    | n + 1, _ => (expression n brackets quote? rest).map (.cons c)
    | 0, some q =>
      if c = '\\' then .error .backslash
      else if c ≠ q.quote then (expression 0 brackets quote? rest).map (.cons c)
      else if q.isTriple = false then (expression 0 brackets none rest).map (.cons c)
      else if triple then (expression 2 brackets none rest).map (.cons c)
      else (expression 0 brackets quote? rest).map (.cons c)
    | 0, none =>
      if c = '\\' then .error .backslash
      else if Quotation.isQuote c then
        let more := if triple then 2 else 0
        (expression more brackets (some ⟨c, triple⟩) rest).map (.cons c)
      else if c = '#' then .error .comment
      else if brackets = [] ∧ joinsEquals c ∧ rest.head? = some '=' then
        (expression 1 brackets none rest).map (.cons c)
      else if brackets = [] ∧ isMark c then .ok ⟨[], c :: rest⟩
      else
        match bracketsAfter brackets c with
        | .error f => .error f
        | .ok brackets => (expression 0 brackets none rest).map (.cons c)

/-! ### Fields -/

/-- Whether a character does not count when the question is whether an expression is empty. -/
def isFiller (c : Char) : Bool :=
  c = ' ' || c = '\t' || c = '\n' || c = '\x0c'

/-- Whether a character may stand after the equals sign that shows an expression. -/
def isSpace (c : Char) : Bool :=
  isFiller c || c = '\x0b' || c = '\r'

/-- The fault of an expression that is empty, before what stands after it. -/
def emptyFault (rest : List Char) : TemplateFault :=
  match rest with
  | c :: _ => if c = '\x7d' then .nothing else .nothingBefore c
  | [] => .nothing

/-- What stands after the equals sign that may follow an expression. -/
def afterEquals (rest : List Char) : Reading (List Char) :=
  match rest with
  | '=' :: more => do
    let more := more.dropWhile isSpace
    if more = [] then fail .noBrace else return more
  | _ => return rest

/-- What stands after a conversion, if there is one. -/
def afterConversion (rest : List Char) : Reading (List Char) :=
  match rest with
  | ['!'] => fail .noBrace
  | '!' :: c :: more =>
    if c = 's' ∨ c = 'r' ∨ c = 'a' then return more else fail .badConversion
  | _ => return rest

/-- Fields stand at most so deep in formats. -/
def maxDepth : Nat := 2

/-! ### Templates -/

/-- Ends reading with the first fault of an escape. -/
def checkEscapes (isRaw : Bool) (chars : List Char) : Reading Unit :=
  match if isRaw then none else Quotation.escapeFault? chars with
  | some f => throw (.escape f)
  | none => return

/-- Reads a template, or a format in it, up to its end or to a closing brace, in at most so many
steps.  What follows is returned.  `parse` reads the expression of a field, given what stands
in the template from the brace on. -/
def readFrom (parse : List Char → List Char → Reading Unit) (isRaw : Bool) :
    Nat → Nat → List Char → Reading (List Char)
  | 0, _, rest => return rest
  | steps + 1, depth, chars => do
    let l ← (literal isRaw (depth ≠ 0) false chars).mapError Fault.template
    checkEscapes isRaw l.chars
    if l.goesOn then readFrom parse isRaw steps depth l.rest
    else
      match l.rest with
      | '\x7b' :: more =>
        if depth ≥ maxDepth then fail .nestedTooDeeply
        let f ← (expression 0 [] none more).mapError Fault.template
        if f.rest = [] then fail .noBrace
        if f.chars.all isFiller then fail (emptyFault f.rest)
        parse l.rest f.chars
        let rest ← afterConversion (← afterEquals f.rest)
        let rest ←
          match rest with
          | [':'] => fail .noBrace
          | ':' :: format => readFrom parse isRaw steps (depth + 1) format
          | _ => pure rest
        match rest with
        | '\x7d' :: rest => readFrom parse isRaw steps depth rest
        | _ => fail .noBrace
      | rest => return rest

/-- Reads a template. -/
def read (parse : List Char → List Char → Reading Unit) (q : Quotation) : Reading Unit :=
  discard (readFrom parse q.isRaw (2 * q.body.length + 1) 0 q.body)

end Template

/-! ### Quotations in a row -/

/-- Reads quotations that stand in a row after one of a sort, if there is one.  They are all texts
or all bytes.  Whether any of them is a template is returned.  `parse` reads an expression
that starts on a line. -/
def readQuotations (parse : Nat → List Char → Reading Unit) (isBytes? : Option Bool) :
    List Token → Reading Bool
  | [] => return false
  | t :: rest => do
    let q := Quotation.ofSpelling t.spelling
    let differs := isBytes?.any (· != q.isBytes)
    if q.isTemplate then
      if differs then throw .mixedBytes
      let lines := t.line + lineFeeds q.body
      Template.read (fun onward chars => parse (lines - lineFeeds onward) chars) q
    else
      if let some f := q.fault? then throw f
      if differs then throw .mixedBytes
    let more ← readQuotations parse (some q.isBytes) rest
    return q.isTemplate || more

end TapeMachine.Expression
