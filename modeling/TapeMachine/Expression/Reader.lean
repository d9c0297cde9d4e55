/-
From text to expressions.

A text is parsed twice if it has to be: the second time mistakes are looked for.  What is
wrong with its tokens comes first, even where the parse did not get so far.

* **`readExpression`** — the expression that a text is;
* **`Parse.blame`**, **`Parse.blameFound`** — which fault is reported;
* **`Fault.inTemplate`** — a fault as it is reported of an expression in a template.

Design notes:

* An expression in a template is read like a text of its own.  It holds fewer characters
  than the template, so their number bounds how deep templates stand in each other.
-/
import TapeMachine.Expression.Grammar
import TapeMachine.Expression.Lexer
import TapeMachine.Text.Newline

namespace TapeMachine.Expression

/-- A fault as it is reported of an expression in a template.  One of the characters of a token is
reported as it is. -/
def Fault.inTemplate : Fault → Fault
  | .within f => .within f
  | .lexical f => if f.isLayout then .within (.lexical f) else .lexical f
  | f => .within f

namespace Parse

/-- What is known after a parse. -/
abbrev Knowledge : Type := Peg.State Phrase Node Note

/-- What a parse comes to, with notes. -/
abbrev Outcome : Type := Except Fault Node × List Note

/-- The last token that has been read. -/
def last? (x : Lexed) (s : Knowledge) : Option Token :=
  x.tokens[s.reach - 1]?

/-- The notes of the tokens that have not been read. -/
def laterNotes (x : Lexed) (s : Knowledge) : List Note :=
  (x.tokens.toList.drop s.reach).flatMap Token.notes

/-- A fault, unless there is one among the tokens after it. -/
def blame (x : Lexed) (s : Knowledge) (f : Fault) : Outcome :=
  let later := (last? x s).bind fun t => x.laterFault? t.line
  (.error (later.elim f .lexical), s.notes.reverse ++ laterNotes x s)

/-- A fault that was found in matching.  After the end of the text no other one is looked for. -/
def blameFound (x : Lexed) (s : Knowledge) (f : Fault) : Outcome :=
  if s.reach = x.tokens.size ∧ x.endSeen then (.error f, s.notes.reverse) else blame x s f

/-- The fault in which the tokens end. -/
def blameTokens (x : Lexed) (s : Knowledge) : Outcome :=
  (.error (x.fault?.elim (.grammar .invalid) .lexical), s.notes.reverse)

/-- What is wrong with a text that matches nothing and has no mistake that is known, after a last
token. -/
def blameLast (x : Lexed) (s : Knowledge) (last? : Option Token) : Outcome :=
  match last?.map Token.kind with
  | some .indent => (.error (.grammar .indented), s.notes.reverse)
  | some .dedent => (.error (.grammar .dedented), s.notes.reverse)
  | _ => blame x s (.grammar .invalid)

end Parse

/-- Reads tokens as a phrase, where `parse` reads the expressions in templates. -/
def parseTokens (parse : Nat → List Char → Reading Unit) (start : Phrase) (x : Lexed) :
    Parse.Outcome :=
  let source : Peg.Source Token Note := ⟨x.tokens, Token.notes⟩
  match (grammar parse).parse source start {} with
  | (.ok (.matched (e :: _) _), s) => (.ok e, s.notes.reverse)
  | (.error .outOfTokens, s) => Parse.blameTokens x s
  | (.error (.fault f), s) => Parse.blameFound x s f
  | (.ok _, s) =>
    match (grammar parse).parse source start { s with kept := {}, strict := true } with
    | (.error .outOfTokens, t) => Parse.blameTokens x t
    | (.error (.fault f), t) => Parse.blameFound x t f
    | (.ok _, t) => Parse.blameLast x t (Parse.last? x s)

/-- Reads a text that starts on a line as a phrase, with templates at most so deep. -/
def readAt : Nat → Phrase → Nat → List Char → Parse.Outcome
  | 0, _, _, _ => (.error (.template .nestedTooDeeply), [])
  | depth + 1, start, line, chars =>
    let embedded (line : Nat) (chars : List Char) : Reading Unit := do
      let (outcome, notes) := readAt depth .embedded line ('(' :: chars ++ [')', '\n'])
      modify (· ++ notes)
      if let .error f := outcome then throw f.inTemplate
    parseTokens embedded start (lex line chars)

/-- The expression that a text is, and what is to be said about it. -/
def readExpression (text : List Char) : Parse.Outcome :=
  readAt (text.length + 1) .whole 1 (Text.normalizeNewlines text)

end TapeMachine.Expression
