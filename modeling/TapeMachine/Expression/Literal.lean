/-
Literals: expressions that stand for a value by themselves.

These are constants, numbers with a sign, complex numbers written as a sum, and tuples,
sets and dictionaries of literals.  Of their values it is only asked whether they can be items of
a set or keys of a dictionary, which sets and dictionaries cannot.

* **`Node.literal`** — whether an expression is a literal, and what keeps it from being a key;
* **`readLiteral`** — the same for a text.
-/
import TapeMachine.Expression.Reader

namespace TapeMachine.Expression

/-- The values that cannot be keys. -/
inductive Unkeyable where
  | set
  | dictionary
deriving DecidableEq, Repr

def Unkeyable.name : Unkeyable → String
  | .set => "set"
  | .dictionary => "dict"

/-- Why an expression is no literal. -/
inductive LiteralFault where
  /-- It is an expression of another form, or a part of it is. -/
  | otherForm
  /-- Entries of another dictionary are unpacked. -/
  | unpacking
  | notAKey (u : Unkeyable)
deriving DecidableEq, Repr

def LiteralFault.message : LiteralFault → String
  | .otherForm => "malformed node or string"
  | .unpacking => "malformed node or string: None"
  | .notAKey u => s!"unhashable type: '{u.name}'"

namespace Node

/-- Whether an expression is a number. -/
def isNumber : Node → Bool
  | constant .real | constant .imaginary => true
  | _ => false

/-- Whether an expression is a real number, which may have a sign. -/
def isSignedReal : Node → Bool
  | constant .real | signed (constant .real) => true
  | _ => false

/-- Ends with a fault if a value cannot be a key. -/
def checkKey : Option Unkeyable → Except LiteralFault Unit
  | none => .ok ()
  | some u => .error (.notAKey u)

mutual

/-- What keeps the value of a literal from being a key, if anything, or why an expression is no
literal. -/
def literal : Node → Except LiteralFault (Option Unkeyable)
  | constant _ => .ok none
  | tuple items => literals items
  | set items => do
    keys items
    return some .set
  | dictionary parts => do
    entries parts
    return some .dictionary
  | call (name id) [] => if id = "set" then .ok (some .set) else .error .otherForm
  | signed e => if e.isNumber then .ok none else .error .otherForm
  | sum left (constant .imaginary) =>
    if left.isSignedReal then .ok none else .error .otherForm
  | _ => .error .otherForm

/-- The first thing that keeps one of several values from being a key. -/
def literals : List Node → Except LiteralFault (Option Unkeyable)
  | [] => .ok none
  | e :: rest => do
    let first ← literal e
    return first.or (← literals rest)

/-- Whether expressions are literals whose values can be keys. -/
def keys : List Node → Except LiteralFault Unit
  | [] => .ok ()
  | e :: rest => do
    checkKey (← literal e)
    keys rest

/-- Whether the parts of a dictionary are entries of literals. -/
def entries : List Node → Except LiteralFault Unit
  | [] => .ok ()
  | entry key value :: rest => do
    let found ← literal key
    discard (literal value)
    checkKey found
    entries rest
  | _ :: _ => .error .unpacking

end

end Node

/-! ### Texts -/

/-- Why a text is no literal. -/
inductive ReadFault where
  | expression (f : Fault)
  | literal (f : LiteralFault)
deriving DecidableEq, Repr

/-- Reads a text as a literal, with notes. -/
def readLiteral (text : List Char) : Except ReadFault Unit × List Note :=
  match readExpression text with
  | (.error f, notes) => (.error (.expression f), notes)
  | (.ok e, notes) =>
    match e.literal with
    | .error f => (.error (.literal f), notes)
    | .ok _ => (.ok (), notes)

end TapeMachine.Expression
