/-
The grammar of expressions.

* **`Phrase`** — the rules of the grammar;
* **`Phrase.body`** — what each of them matches;
* **`grammar`** — the grammar, given how the expressions in templates are read.

Design notes:

* Rules whose names start with `bad` match what is wrong and tell why.  They are tried in
  strict mode only, before or after the alternatives that are right.
* Operators of one rank are read from left to right, so their rules begin with themselves.
-/
import TapeMachine.Expression.Template
import TapeMachine.Peg

namespace TapeMachine.Expression

/-- The rules of the grammar. -/
inductive Phrase where
  /-- An expression that is a whole text. -/
  | whole
  /-- An expression that stands in a template. -/
  | embedded
  | list
  | expression
  /-- An expression in which no mistakes are looked for. -/
  | plainExpression
  | yielding
  | starredList
  | starredExpression
  | items
  | item
  | assignment
  | test
  | disjunction
  | conjunction
  | inversion
  | comparison
  | compared
  | bitOr
  | bitXor
  | bitAnd
  | shift
  | sum
  | term
  | factor
  | power
  | awaited
  | primary
  | atom
  | group
  | lambda
  | parameters
  | parameterList
  | slashParameters
  | slashDefaults
  | starParameters
  | keywordsParameter
  | parameter
  | parameterWithDefault
  | anyParameter
  | defaultValue
  | quotations
  | tuple
  | set
  | dictionary
  | pairs
  | pair
  | keyValue
  | clauses
  | clause
  | setGenerator
  | generator
  | dictionaryGenerator
  | arguments
  | argumentList
  | keywordList
  | starredArgument
  | keywordOrStarred
  | keywordOrUnpacked
  | targets
  | targetItems
  | target
  | plainTarget
  | targetAtom
  | targetPrimary
  | badExpression
  | badStatement
  | badTest
  | badGroup
  | badParameters
  | badStarParameters
  | badKeywordsParameter
  | badDefault
  | badGenerator
  | badDictionaryGenerator
  | badClause
  | badPairs
  | badPair
  | badArguments
  | badKeyword
deriving DecidableEq, Repr, Hashable

/-- What a rule matches. -/
abbrev Pattern : Type := Peg Token Phrase Node Fault Note

open Peg

namespace Pattern

/-! ### Tokens -/

/-- A symbol. -/
def symbol (s : String) : Pattern :=
  .token fun t => if t.kind = .symbol ∧ t.spelling = s.toList then some [] else none

/-- A keyword. -/
def word (s : String) : Pattern :=
  .token fun t => if t.kind = .keyword ∧ t.spelling = s.toList then some [] else none

/-- A token of a kind that means nothing by itself. -/
def mark (k : Token.Kind) : Pattern :=
  .token fun t => if t.kind = k then some [] else none

/-- A name. -/
def name : Pattern :=
  .token fun t => if t.kind = .name then some [.name (String.ofList t.spelling)] else none

/-- A name that may be a keyword elsewhere, or the beginning of one. -/
def softWord : Pattern :=
  .token fun t =>
    if t.kind = .name ∧ ["_", "case", "match"].any (t.spelling.isPrefixOf ·.toList) then some []
    else none

/-- A number. -/
def number : Pattern :=
  .token fun t =>
    match t.kind with
    | .number => some [.constant .real]
    | .imaginary => some [.constant .imaginary]
    | _ => none

/-- A quotation that has not been read. -/
def quotation : Pattern :=
  .token fun t => if t.kind = .quotation then some [.quotation t] else none

/-- A comma. -/
def comma : Pattern :=
  symbol ","

/-! ### Combinations -/

/-- A match of a form of which nothing else is kept. -/
def form (f : Form) (p : Pattern) : Pattern :=
  build (fun _ => .other f) p

/-- A constant. -/
def constant (c : Constant) (p : Pattern) : Pattern :=
  build (fun _ => .constant c) p

/-- An argument. -/
def argument (a : Argument) (p : Pattern) : Pattern :=
  build (fun _ => .argument a) p

/-- A match that is a mistake. -/
def mistake (m : Mistake) (p : Pattern) : Pattern :=
  faulty (.grammar m) p

/-- A match that is a mistake, depending on its nodes. -/
def mistakeIf (f : List Node → Option Mistake) (p : Pattern) : Pattern :=
  faultyIf (fun s => (f s.nodes).map .grammar) p

/-- What one node becomes. -/
def one (f : Node → Node) : List Node → Node
  | [e] => f e
  | _ => .other .operation

/-- What two nodes become. -/
def two (f : Node → Node → Node) : List Node → Node
  | [a, b] => f a b
  | _ => .other .operation

/-- An operator of some rank between operands, of which the left one is of the same rank. -/
def operation (s : String) (left right : Phrase) : Pattern :=
  form .operation (rule left ++ symbol s ++ rule right)

/-- Operands that are joined by a word. -/
def joined (s : String) (operand : Phrase) : Pattern :=
  form .operation (rule operand ++ repeated (word s ++ rule operand)) <|> rule operand

/-- A match in round brackets. -/
def bracketed (p : Pattern) : Pattern :=
  symbol "(" ++ p ++ symbol ")"

/-- A match in braces. -/
def braced (p : Pattern) : Pattern :=
  symbol "\x7b" ++ p ++ symbol "\x7d"

/-- One match or more with commas between them, and perhaps one after them, as a tuple unless there
is one without a comma. -/
def listOf (r : Phrase) : Pattern :=
  build .tuple (rule r ++ repeated (comma ++ rule r) ++ .optional comma) <|>
  build .tuple (rule r ++ comma) <|>
  rule r

/-- An expression that may be an assignment, where nothing else is assigned. -/
def assignable : Pattern :=
  rule .assignment <|> (rule .expression ++ .notAhead (symbol ":="))

end Pattern

open Pattern

/-! ### Mistakes -/

/-- What is wrong with two expressions in a row. -/
def rowFault? (s : Peg.Scene Token Node) : Option Fault :=
  match s.nodes.head? with
  | some e =>
    if e.isFormerStatement ∨ (s.last?.map Token.depth).getD 0 = 0 then none
    else some (.grammar .missingComma)
  | none => none

/-- What is wrong with a name before an expression. -/
def statementMistake? (nodes : List Node) : Option Mistake :=
  match nodes.head? with
  | some (.name id) =>
    if (Node.name id).isFormerStatement then some (.missingParentheses id) else none
  | _ => none

/-- What is wrong with the target of a loop. -/
def targetMistake? (nodes : List Node) : Option Mistake :=
  nodes.head?.bind fun e => e.badTarget?.map fun part => .noTarget part.title

/-- Whether a node is an argument of some sort. -/
def isArgument (a : Argument) : Node → Bool
  | .argument b => a = b
  | _ => false

/-- What is wrong with a generator after other arguments. -/
def generatorMistake? (nodes : List Node) : Option Mistake :=
  if (nodes.filter (isArgument .positional)).length ≤ 1 then none else some .bareGenerator

/-- What is wrong with arguments after other ones that must stand last. -/
def orderMistake? (nodes : List Node) : Option Mistake :=
  some (if nodes.any (isArgument .unpacked) then .positionalAfterUnpacked
    else .positionalAfterKeyword)

/-- What is wrong with a match that begins with an expression. -/
def titled? (f : String → Mistake) (nodes : List Node) : Option Mistake :=
  nodes.head?.map fun e => f e.title

/-! ### Rules -/

/-- The node of quotations in a row. -/
def quotationNode (parse : Nat → List Char → Reading Unit) (s : Peg.Scene Token Node) :
    List Note × Peg.Verdict Node Fault :=
  let tokens := s.nodes.filterMap fun
    | .quotation t => some t
    | _ => none
  match (readQuotations parse none tokens).run [] with
  | (.ok true, notes) => (notes, .nodes [.other .template])
  | (.ok false, notes) => (notes, .nodes [.constant .text])
  | (.error f, notes) => (notes, .fault f)

/-- Keys and values, or why there are none. -/
def badValues : Pattern :=
  mistake .starredValue (rule .expression ++ symbol ":" ++ symbol "*" ++ rule .bitOr) <|>
  mistake .keyWithoutValue
    (rule .expression ++ symbol ":" ++ .ahead (symbol "\x7d" <|> comma))

/-- A word before an expression that is assigned to. -/
def badConstant (s : String) : Pattern :=
  mistake (.noTarget s) (word s ++ symbol "=")

/-- A name that an expression with clauses is assigned to. -/
def badNaming : Pattern :=
  mistake .notATest (name ++ symbol "=" ++ rule .expression ++ rule .clauses)

/-- What may follow the first parameters, up to a slash. -/
def slashed (p : Pattern) : Pattern :=
  p ++ symbol "/" ++ comma <|> p ++ symbol "/" ++ .ahead (symbol ":")

/-- A parameter, if it ends with a comma or before a colon. -/
def endingParameter (p : Pattern) : Pattern :=
  p ++ comma <|> p ++ .ahead (symbol ":")

/-- What an expression must follow to be part of a target. -/
def targetAhead : Pattern :=
  symbol "(" <|> symbol "."

/-- What a rule matches, where `parse` reads the expressions in templates. -/
def Phrase.body (parse : Nat → List Char → Reading Unit) : Phrase → Pattern
  | whole => rule list ++ .many (mark .newline) ++ mark .finish
  | embedded => rule starredList
  | list => listOf expression
  | expression =>
    .strictly (rule badExpression) <|> .strictly (rule badStatement) <|> rule plainExpression
  | plainExpression =>
    form .conditional
      (rule disjunction ++ word "if" ++ rule disjunction ++ word "else" ++ rule expression) <|>
    rule disjunction <|>
    rule lambda
  | yielding =>
    form .yielding (word "yield" ++ word "from" ++ rule expression) <|>
    form .yielding (word "yield" ++ .optional (rule starredList))
  | starredList => listOf starredExpression
  | starredExpression =>
    build (one .starred) (symbol "*" ++ rule bitOr) <|> rule expression
  | items => separated comma (rule item) ++ .optional comma
  | item => build (one .starred) (symbol "*" ++ rule bitOr) <|> rule test
  | assignment => form .assignment (.commit (name ++ symbol ":=") (rule expression))
  | test =>
    rule assignment <|> .strictly (rule badTest) <|> (rule expression ++ .notAhead (symbol ":="))
  | disjunction => joined "or" conjunction
  | conjunction => joined "and" inversion
  | inversion => form .operation (word "not" ++ rule inversion) <|> rule comparison
  | comparison =>
    build
      (fun
        | left :: .comparison _ isMembership :: _ => .comparison left isMembership
        | _ => .other .operation)
      (rule bitOr ++ repeated (rule compared)) <|>
    rule bitOr
  | compared =>
    let by_ (operator : Pattern) (isMembership : Bool) : Pattern :=
      build (one (.comparison · isMembership)) (operator ++ rule bitOr)
    by_ (symbol "==") false <|> by_ (symbol "!=") false <|> by_ (symbol "<=") false <|>
    by_ (symbol "<") false <|> by_ (symbol ">=") false <|> by_ (symbol ">") false <|>
    by_ (word "not" ++ word "in") false <|> by_ (word "in") true <|>
    by_ (word "is" ++ word "not") false <|> by_ (word "is") false
  | bitOr => operation "|" bitOr bitXor <|> rule bitXor
  | bitXor => operation "^" bitXor bitAnd <|> rule bitAnd
  | bitAnd => operation "&" bitAnd shift <|> rule shift
  | shift => operation "<<" shift sum <|> operation ">>" shift sum <|> rule sum
  | sum =>
    build (two .sum) (rule sum ++ symbol "+" ++ rule term) <|>
    build (two .sum) (rule sum ++ symbol "-" ++ rule term) <|>
    rule term
  | term =>
    operation "*" term factor <|> operation "/" term factor <|> operation "//" term factor <|>
    operation "%" term factor <|> operation "@" term factor <|> rule factor
  | factor =>
    build (one .signed) (symbol "+" ++ rule factor) <|>
    build (one .signed) (symbol "-" ++ rule factor) <|>
    form .operation (symbol "~" ++ rule factor) <|>
    rule power
  | power => operation "**" awaited factor <|> rule awaited
  | awaited => form .waiting (word "await" ++ rule primary) <|> rule primary
  | primary =>
    form .attribute (rule primary ++ symbol "." ++ name) <|>
    build (two fun f _ => .call f [.argument .positional]) (rule primary ++ rule generator) <|>
    build
      (fun
        | f :: given => .call f given
        | [] => .other .operation)
      (rule primary ++ bracketed (.optional (rule arguments))) <|>
    rule atom
  | atom =>
    name <|> constant .true (word "True") <|> constant .false (word "False") <|>
    constant .none (word "None") <|> rule quotations <|> number <|>
    (.ahead (symbol "(") ++ (rule tuple <|> rule group <|> rule generator)) <|>
    (.ahead (symbol "\x7b") ++
      (rule dictionary <|> rule set <|> rule dictionaryGenerator <|> rule setGenerator)) <|>
    constant .ellipsis (symbol "...")
  | group => bracketed (rule yielding <|> rule test) <|> .strictly (rule badGroup)
  | lambda =>
    form .lambda
      (word "lambda" ++ .optional (rule parameters) ++ symbol ":" ++ rule expression)
  | parameters => .strictly (rule badParameters) <|> rule parameterList
  | parameterList =>
    rule slashParameters ++ .many (rule parameter) ++ .many (rule parameterWithDefault) ++
      .optional (rule starParameters) <|>
    rule slashDefaults ++ .many (rule parameterWithDefault) ++
      .optional (rule starParameters) <|>
    repeated (rule parameter) ++ .many (rule parameterWithDefault) ++
      .optional (rule starParameters) <|>
    repeated (rule parameterWithDefault) ++ .optional (rule starParameters) <|>
    rule starParameters
  | slashParameters => slashed (repeated (rule parameter))
  | slashDefaults =>
    slashed (.many (rule parameter) ++ repeated (rule parameterWithDefault))
  | starParameters =>
    .strictly (rule badStarParameters) <|>
    symbol "*" ++ rule parameter ++ .many (rule anyParameter) ++
      .optional (rule keywordsParameter) <|>
    symbol "*" ++ comma ++ repeated (rule anyParameter) ++
      .optional (rule keywordsParameter) <|>
    rule keywordsParameter
  | keywordsParameter =>
    .strictly (rule badKeywordsParameter) <|> symbol "**" ++ rule parameter
  | parameter => endingParameter name
  | parameterWithDefault => endingParameter (name ++ rule defaultValue)
  | anyParameter => endingParameter (name ++ .optional (rule defaultValue))
  | defaultValue => symbol "=" ++ rule expression <|> .strictly (rule badDefault)
  | quotations => .act (quotationNode parse) (repeated quotation)
  | tuple =>
    build .tuple
      (bracketed (.optional (rule item ++ comma ++ .optional (rule items))))
  | set => build .set (braced (rule items))
  | dictionary =>
    build .dictionary (braced (.optional (rule pairs))) <|> braced (rule badPairs)
  | pairs => separated comma (rule pair) ++ .optional comma
  | pair => build (fun _ => .unpackedEntry) (symbol "**" ++ rule bitOr) <|> rule keyValue
  | keyValue => build (two .entry) (rule expression ++ symbol ":" ++ rule expression)
  | clauses => drop (repeated (rule clause))
  | clause =>
    let loop : Pattern := word "for" ++ rule targets ++ word "in"
    let source : Pattern := rule disjunction ++ .many (word "if" ++ rule disjunction)
    .commit (word "async" ++ loop) source <|> .commit loop source <|>
    .strictly (rule badClause)
  | setGenerator =>
    form .setGenerator (braced (rule test ++ rule clauses)) <|> .strictly (rule badGenerator)
  | generator =>
    form .generator (bracketed (assignable ++ rule clauses)) <|>
    .strictly (rule badGenerator)
  | dictionaryGenerator =>
    form .dictionaryGenerator (braced (rule keyValue ++ rule clauses)) <|>
    .strictly (rule badDictionaryGenerator)
  | arguments =>
    rule argumentList ++ .optional comma ++ .ahead (symbol ")") <|>
    .strictly (rule badArguments)
  | argumentList =>
    let positional : Pattern :=
      rule starredArgument <|> (assignable ++ .notAhead (symbol "="))
    separated comma (argument .positional positional) ++
      .optional (comma ++ rule keywordList) <|>
    rule keywordList
  | keywordList =>
    separated comma (rule keywordOrStarred) ++ comma ++
      separated comma (rule keywordOrUnpacked) <|>
    separated comma (rule keywordOrStarred) <|>
    separated comma (rule keywordOrUnpacked)
  | starredArgument => build (one .starred) (symbol "*" ++ rule expression)
  | keywordOrStarred =>
    .strictly (rule badKeyword) <|>
    argument .named (name ++ symbol "=" ++ rule expression) <|>
    argument .positional (rule starredArgument)
  | keywordOrUnpacked =>
    .strictly (rule badKeyword) <|>
    argument .named (name ++ symbol "=" ++ rule expression) <|>
    argument .unpacked (symbol "**" ++ rule expression)
  | targets =>
    rule target ++ .notAhead comma <|>
    rule target ++ .many (comma ++ rule target) ++ .optional comma
  | targetItems =>
    rule target ++ repeated (comma ++ rule target) ++ .optional comma <|>
    rule target ++ comma
  | target => symbol "*" ++ .notAhead (symbol "*") ++ rule target <|> rule plainTarget
  | plainTarget =>
    rule targetPrimary ++ symbol "." ++ name ++ .notAhead targetAhead <|> rule targetAtom
  | targetAtom =>
    name <|> bracketed (rule plainTarget) <|> bracketed (.optional (rule targetItems))
  | targetPrimary =>
    rule targetPrimary ++ symbol "." ++ name ++ .ahead targetAhead <|>
    rule targetPrimary ++ rule generator ++ .ahead targetAhead <|>
    rule targetPrimary ++ bracketed (.optional (rule arguments)) ++ .ahead targetAhead <|>
    rule atom ++ .ahead targetAhead
  | badExpression =>
    faultyIf rowFault?
      (.notAhead (name ++ quotation <|> softWord) ++ rule disjunction ++
        .leniently (rule plainExpression)) <|>
    mistake .missingElse
      (rule disjunction ++ word "if" ++ rule disjunction ++
        .notAhead (word "else" <|> symbol ":"))
  | badStatement =>
    mistakeIf statementMistake? (name ++ .notAhead (symbol "(") ++ rule starredList)
  | badTest =>
    mistakeIf (titled? .noNamedTarget) (rule expression ++ symbol ":=" ++ rule expression) <|>
    mistake .notATest
      (name ++ symbol "=" ++ rule bitOr ++ .notAhead (symbol "=" <|> symbol ":=")) <|>
    mistakeIf (titled? .notATestOf)
      (.notAhead
          (rule tuple <|> rule generator <|> word "True" <|> word "None" <|> word "False") ++
        rule bitOr ++ symbol "=" ++ rule bitOr ++ .notAhead (symbol "=" <|> symbol ":="))
  | badGroup =>
    mistake .starredGroup (bracketed (rule starredArgument)) <|>
    mistake .unpackedGroup (bracketed (symbol "**" ++ rule expression))
  | badParameters =>
    mistake .nothingBeforeSlash (symbol "/" ++ comma) <|>
    mistake .secondSlash
      ((rule slashParameters <|> rule slashDefaults) ++ .many (rule anyParameter) ++
        symbol "/") <|>
    mistake .defaultBeforeParameter
      (.optional (rule slashParameters) ++ .many (rule parameter) ++
        (rule slashDefaults <|> repeated (rule parameterWithDefault)) ++ rule parameter) <|>
    mistake .parameterInParentheses
      (.many (rule parameter) ++
        bracketed (separated comma name ++ .optional comma)) <|>
    mistake .slashAfterStar
      (.optional (rule slashParameters <|> rule slashDefaults) ++ .many (rule anyParameter) ++
        symbol "*" ++ (comma <|> rule parameter) ++ .many (rule anyParameter) ++
        symbol "/") <|>
    mistake .slashBesideStar (repeated (rule anyParameter) ++ symbol "/" ++ symbol "*")
  | badStarParameters =>
    mistake .nothingAfterStar
      (symbol "*" ++ (symbol ":" <|> comma ++ (symbol ":" <|> symbol "**"))) <|>
    mistake .starDefault (symbol "*" ++ name ++ symbol "=") <|>
    mistake .secondStar
      (symbol "*" ++ (rule parameter <|> comma) ++ .many (rule anyParameter) ++ symbol "*" ++
        (rule parameter <|> comma))
  | badKeywordsParameter =>
    mistake .keywordsDefault (symbol "**" ++ name ++ symbol "=") <|>
    mistake .parameterAfterKeywords (symbol "**" ++ name ++ comma ++ name) <|>
    mistake .parameterAfterKeywords
      (symbol "**" ++ name ++ comma ++ (symbol "*" <|> symbol "**" <|> symbol "/"))
  | badDefault => mistake .missingDefault (symbol "=" ++ .ahead (symbol ")" <|> comma))
  | badGenerator =>
    mistake .starredGenerator
      ((symbol "(" <|> symbol "\x7b") ++ rule starredArgument ++ rule clauses) <|>
    mistake .bareTargets (symbol "\x7b" ++ rule item ++ comma ++ rule items ++ rule clauses) <|>
    mistake .bareTargets (symbol "\x7b" ++ rule item ++ comma ++ rule clauses)
  | badDictionaryGenerator =>
    mistake .unpackedGenerator (braced (symbol "**" ++ rule bitOr ++ rule clauses))
  | badClause =>
    mistakeIf targetMistake? (.optional (word "async") ++ word "for" ++ rule starredList)
  | badPairs =>
    separated comma (rule pair) ++ comma ++ rule badPair <|> badValues
  | badPair =>
    mistake .keyWithoutColon (rule expression ++ .notAhead (symbol ":")) <|> badValues
  | badArguments =>
    mistake .starAfterKeywords (rule argumentList ++ comma ++ symbol "*") <|>
    mistake .bareGenerator
      (rule expression ++ rule clauses ++ comma ++
        .optional (rule argumentList <|> rule expression ++ rule clauses)) <|>
    badNaming <|>
    mistakeIf generatorMistake? (rule argumentList ++ rule clauses) <|>
    mistake .bareGenerator (rule argumentList ++ comma ++ rule expression ++ rule clauses) <|>
    mistakeIf orderMistake? (rule argumentList ++ comma ++ drop (rule argumentList))
  | badKeyword =>
    badConstant "True" <|> badConstant "False" <|> badConstant "None" <|>
    badNaming <|>
    mistake .assignedArgument
      (.notAhead (name ++ symbol "=") ++ rule expression ++ symbol "=")

/-- How the matches of a rule are kept. -/
def Phrase.keeping : Phrase → Keeping
  | expression | starredExpression | disjunction | conjunction | inversion | factor | awaited
  | quotations | arguments | target | plainTarget | badTest => .always
  | bitOr | bitXor | bitAnd | shift | sum | term | primary | targetPrimary => .growing
  | _ => .never

/-- The grammar, where `parse` reads the expressions in templates. -/
def grammar (parse : Nat → List Char → Reading Unit) : Grammar Token Phrase Node Fault Note where
  body := Phrase.body parse
  keeping := Phrase.keeping

end TapeMachine.Expression
