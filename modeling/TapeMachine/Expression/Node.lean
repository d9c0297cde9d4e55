/-
The syntax trees of expressions.

Only what a literal is made of is kept in full.  Of all other expressions it is kept what
form they have, and what stands in them where a target of an assignment may stand.

* **`Node`** — an expression, or a part that stands in one;
* **`Node.title`** — what an expression is called;
* **`Node.badTarget?`** — the part of an expression that cannot be assigned to.
-/
import TapeMachine.Expression.Token

namespace TapeMachine.Expression

/-- The constants, as far as it matters which they are. -/
inductive Constant where
  | none
  | true
  | false
  | ellipsis
  | real
  | imaginary
  /-- A text or a string of bytes. -/
  | text
deriving DecidableEq, Repr

/-- The forms of expressions of which nothing else is kept. -/
inductive Form where
  | attribute
  | lambda
  | operation
  | conditional
  | assignment
  | waiting
  | yielding
  | generator
  | setGenerator
  | dictionaryGenerator
  /-- A text with expressions in it. -/
  | template
deriving DecidableEq, Repr

/-- The ways to give an argument in a call. -/
inductive Argument where
  | positional
  | named
  | unpacked
deriving DecidableEq, Repr

/-- An expression, or a part that stands in one. -/
inductive Node where
  | name (id : String)
  | constant (c : Constant)
  | tuple (items : List Node)
  | set (items : List Node)
  | dictionary (entries : List Node)
  /-- A part of a dictionary. -/
  | entry (key value : Node)
  | unpackedEntry
  | starred (item : Node)
  /-- A sign before an expression. -/
  | signed (operand : Node)
  /-- A sum or a difference. -/
  | sum (left right : Node)
  | comparison (left : Node) (isMembership : Bool)
  | call (function : Node) (arguments : List Node)
  /-- A part of a call. -/
  | argument (a : Argument)
  | other (f : Form)
  /-- A quotation that has not been read yet. -/
  | quotation (t : Token)

namespace Node

/-- What an expression is called. -/
def title : Node → String
  | name _ => "name"
  | constant .none => "None"
  | constant .true => "True"
  | constant .false => "False"
  | constant .ellipsis => "ellipsis"
  | constant _ => "literal"
  | tuple _ => "tuple"
  | set _ => "set display"
  | dictionary _ => "dict literal"
  | starred _ => "starred"
  | signed _ | sum _ _ => "expression"
  | comparison _ _ => "comparison"
  | call _ _ => "function call"
  | other .attribute => "attribute"
  | other .lambda => "lambda"
  | other .operation => "expression"
  | other .conditional => "conditional expression"
  | other .assignment => "named expression"
  | other .waiting => "await expression"
  | other .yielding => "yield expression"
  | other .generator => "generator expression"
  | other .setGenerator => "set comprehension"
  | other .dictionaryGenerator => "dict comprehension"
  | other .template => "f-string expression"
  | entry _ _ | unpackedEntry | argument _ | quotation _ => "expression"

/-- The first part of an expression that cannot be assigned to.  A comparison whose first operator
is `in` stands for what is left of it. -/
def badTarget? : Node → Option Node
  | name _ | other .attribute => none
  | tuple items => badTargets? items
  | starred item => badTarget? item
  | comparison left isMembership => if isMembership then badTarget? left else none
  | e => some e
where
  badTargets? : List Node → Option Node
    | [] => none
    | e :: rest => (badTarget? e).or (badTargets? rest)

/-- Whether an expression is a name that was a statement once. -/
def isFormerStatement : Node → Bool
  | name id => id = "print" || id = "exec"
  | _ => false

end Node

end TapeMachine.Expression
