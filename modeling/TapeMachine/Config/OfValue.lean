/-
Configurations from any JSON value.

Only an object spells a configuration.  But every value that has parts is searched for
keys first: the parts of a list are its items, and those of a text its characters.  So
the fault is a key that is not known, or that one is missing.

* **`Config.ofValue`** — the configuration that a value spells, or why it spells none.
-/
import TapeMachine.Config
import TapeMachine.Failure
import TapeMachine.Json.Writer

namespace TapeMachine.Config

open Json (Value)

/-- A number as the text of a key. -/
def floatKey (x : Float) : List Char :=
  match Decimal.Kind.of x with
  | .notANumber => "nan".toList
  | .infinite negative => (if negative then "-inf" else "inf").toList
  | .finite _ _ => Json.floatText x

/-- A value as the text of a key, which a list or an object has not. -/
def keyText : Value → Except Crash String
  | .null => .ok "None"
  | .bool b => .ok (if b then "True" else "False")
  | .int i => .ok (String.ofList (Json.intText i))
  | .float x => .ok (String.ofList (floatKey x))
  | .str s => .ok s
  | .array items => .error (.notAKey (Value.array items).kindName)
  | .object members => .error (.notAKey (Value.object members).kindName)

/-- Whether a value is one of the keys of the schema. -/
def isKey : Value → Bool
  | .str s => (schema.lookup s).isSome
  | _ => false

/-- The problem with the first of some values that is not a key of the schema. -/
def unknownPart? : List Value → Option Problem
  | [] => none
  | v :: rest =>
    if isKey v then unknownPart? rest
    else
      match keyText v with
      | .ok key => some (.failure (.badConfig (ConfigFault.unknownKey key).reason))
      | .error c => some (.crash c)

/-- Whether a value is a given text. -/
def isText (text : String) : Value → Bool
  | .str s => s = text
  | _ => false

/-- The key whose value is looked up first. -/
def firstKey : String :=
  (schema.head?.map (·.1)).getD ""

/-- The problem with a value that has parts but no members. -/
def partsProblem (parts : List Value) : Problem :=
  match unknownPart? parts with
  | some p => p
  | none =>
    if parts.any (isText firstKey) then .crash .noValues
    else .failure (.badConfig (ConfigFault.missingKey firstKey).reason)

/-- The configuration that a value spells. -/
def ofValue : Value → Except Problem Config
  | .object members => (ofMembers members).mapError fun f => .failure (.badConfig f.reason)
  | .array items => .error (partsProblem items)
  | .str s => .error (partsProblem (s.toList.map fun c => .str (String.singleton c)))
  | v => .error (.crash (.noParts v.kindName))

end TapeMachine.Config
