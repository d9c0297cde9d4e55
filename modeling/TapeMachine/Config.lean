/-
Runtime configurations.

A configuration is written as a JSON object.  Every member must be known, all five
must be there, each must be of its kind, the policy must be one of those that exist,
and the limit may not be negative.

* **`Config.ofMembers`** — the configuration that members spell, or the first fault
  in that order;
* **`Config.members`** — the members that spell a configuration;
* **`Config.override`** — the defaults with some members set.
-/
import TapeMachine.Json.Value
import TapeMachine.Machine

namespace TapeMachine

/-- A configuration. -/
structure Config where
  policy : Overflow := .error
  /-- The limit on the count of steps, of which 0 is none. -/
  maxSteps : Nat := 0
  logRuns : Bool := false
  outputDirectory : String := "logs/"
  logFilePrefix : String := "alan_"
deriving DecidableEq, Repr

/-- Why members spell no configuration. -/
inductive ConfigFault where
  | unknownKey (key : String)
  | missingKey (key : String)
  | wrongKind (key expected got : String)
  | unknownPolicy
  | negativeLimit
deriving DecidableEq, Repr

/-- The wording of a fault. -/
def ConfigFault.reason : ConfigFault → String
  | .unknownKey key => s!"unknown configuration key '{key}'"
  | .missingKey key => s!"missing required configuration key '{key}'"
  | .wrongKind key expected got => s!"key '{key}' expected {expected}, got {got}"
  | .unknownPolicy =>
    "tape_overflow must be one of " ++ ", ".intercalate (Overflow.all.map Overflow.name)
  | .negativeLimit => "max_steps may not be negative"

namespace Config

open Json (Value)

/-- The keys, each with the kind of its value, in the order in which they are checked. -/
def schema : List (String × String) :=
  [("tape_overflow", "str"), ("max_steps", "int"), ("log_runs", "bool"),
   ("output_directory", "str"), ("log_file_prefix", "str")]

/-- The members that spell a configuration. -/
def members (c : Config) : List (String × Value) :=
  [("tape_overflow", .str c.policy.name), ("max_steps", .int c.maxSteps),
   ("log_runs", .bool c.logRuns), ("output_directory", .str c.outputDirectory),
   ("log_file_prefix", .str c.logFilePrefix)]

/-- The first key that is not in the schema. -/
def unknownKey? (ms : List (String × Value)) : Option String :=
  (ms.find? fun m => (schema.lookup m.1).isNone).map (·.1)

/-- The value of a key, if it is there and of the kind that the schema asks for. -/
def typed (ms : List (String × Value)) (key kind : String) : Except ConfigFault Value :=
  match ms.lookup key with
  | none => .error (.missingKey key)
  | some v => if v.kindName = kind then .ok v else .error (.wrongKind key kind v.kindName)

/-- The values of all keys of the schema, or the first fault among them. -/
def typedAll (ms : List (String × Value)) :
    List (String × String) → Except ConfigFault (List Value)
  | [] => .ok []
  | (key, kind) :: rest =>
    match typed ms key kind with
    | .error f => .error f
    | .ok v =>
      match typedAll ms rest with
      | .error f => .error f
      | .ok vs => .ok (v :: vs)

/-- The configuration of five values of the right kinds. -/
def ofValues : List Value → Except ConfigFault Config
  | [.str policy, .int limit, .bool logRuns, .str directory, .str filePrefix] =>
    match Overflow.ofName? policy with
    | none => .error .unknownPolicy
    | some policy =>
      if limit < 0 then .error .negativeLimit
      else
        .ok { policy, maxSteps := limit.toNat, logRuns, outputDirectory := directory,
              logFilePrefix := filePrefix }
  | _ => .error .unknownPolicy

/-- The configuration that members spell. -/
def ofMembers (ms : List (String × Value)) : Except ConfigFault Config :=
  match unknownKey? ms with
  | some key => .error (.unknownKey key)
  | none =>
    match typedAll ms schema with
    | .error f => .error f
    | .ok vs => ofValues vs

/-- The default configuration with some members set. -/
def override (ms : List (String × Value)) : Except ConfigFault Config :=
  ofMembers (Json.mergeMembers (({} : Config).members ++ ms))

end Config

end TapeMachine
