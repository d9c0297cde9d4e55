/-
JSON values.

Integers are unbounded and apart from other numbers: a number is an integer when
it is written without a fraction and without an exponent.  The members of an
object keep the order in which their keys first occur.

* **`Value.kindName`** — the name of a value's kind in messages;
* **`Value.setMember`** — the rule for keys that occur again.
-/

namespace TapeMachine.Json

/-- A JSON value.  Three numbers beyond the standard are admitted: both infinities, and the value
that is no number. -/
inductive Value where
  | null
  | bool (b : Bool)
  | int (i : Int)
  | float (x : Float)
  | str (s : String)
  | array (items : List Value)
  | object (members : List (String × Value))
deriving Repr, Inhabited

/-- The kinds of values that hold others. -/
inductive Container where
  | array
  | object
deriving DecidableEq, Repr

/-- The name of a kind. -/
def Container.name : Container → String
  | .array => "array"
  | .object => "object"

/-- The most digits of an integer that is read or written. -/
def maxIntegerDigits : Nat := 4300

/-- The name of a value's kind. -/
def Value.kindName : Value → String
  | .null => "NoneType"
  | .bool _ => "bool"
  | .int _ => "int"
  | .float _ => "float"
  | .str _ => "str"
  | .array _ => "list"
  | .object _ => "dict"

/-- The members with one key set: in its place if it occurs, at the end otherwise. -/
def setMember (key : String) (v : Value) : List (String × Value) → List (String × Value)
  | [] => [(key, v)]
  | (k, old) :: rest => if k = key then (k, v) :: rest else (k, old) :: setMember key v rest

/-- The members after some have been written in turn.  A key that occurs again keeps its first
place and takes its last value. -/
def mergeMembers (written : List (String × Value)) : List (String × Value) :=
  written.foldl (fun members m => setMember m.1 m.2 members) []

end TapeMachine.Json
