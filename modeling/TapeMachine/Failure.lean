/-
Failures: everything that ends a command before its time.

A **`Failure`** is reported to the user in one line.  A **`Crash`** is a mistake
in the use of the library, or an input that no part of a command is prepared for;
it passes through every handler.

* **`Failure.message`**, **`Crash.message`** — the wording, all in one place;
* **`Fault.problem`** — a failed step seen from a command.
-/
import TapeMachine.Json.Value
import TapeMachine.Machine.Run
import TapeMachine.Rule.Layout
import TapeMachine.Rule.Reader
import TapeMachine.Text.Quoted
import TapeMachine.Text.Utf8

namespace TapeMachine

/-- A failure that is reported to the user. -/
inductive Failure where
  | missingArgument (name : String)
  | unreadable (path reason : String)
  | badRule (e : RuleError)
  | emptyTape
  | underflow
  | overflow (head : Int)
  | stepLimit (limit : Int)
  | badConfig (reason : String)
  | unwritableLog (path reason : String)
  | usage (text : String)
  | other (text : String)
deriving DecidableEq, Repr

/-- A failure that nothing handles. -/
inductive Crash where
  /-- The head stands before the first cell. -/
  | noSuchCell (head : Int)
  /-- A listing has no layout. -/
  | noLayout (f : LayoutFault)
  /-- A path holds U+0000. -/
  | nullInPath
  /-- Bytes that should be text are not. -/
  | undecodable (defect : Utf8.Defect)
  /-- An integer has more digits than are read. -/
  | integerTooLong (digits : Nat)
  | unknownPolicy (name : String)
  | notAnArrow (token : String)
  /-- A configuration is asked for, but its path is gone. -/
  | noConfigPath
  /-- A value without parts is searched for keys. -/
  | noParts (kind : String)
  /-- A list or an object stands where a key should. -/
  | notAKey (kind : String)
  /-- A list is asked for the value of a key. -/
  | noValues
  /-- An array or an object stands in too many others. -/
  | nestedTooDeep (c : Json.Container)
  /-- Too many directories would have to be made on account of one another. -/
  | tooManyDirectories
  /-- A run was abandoned. -/
  | abandoned
deriving DecidableEq, Repr

/-- Either kind. -/
inductive Problem where
  | failure (f : Failure)
  | crash (c : Crash)
deriving DecidableEq, Repr

instance : Coe Failure Problem := ⟨.failure⟩

instance : Coe Crash Problem := ⟨.crash⟩

def RuleError.message : RuleError → String
  | .unexpectedEnd => "expected symbol but reached end of input"
  | .invalidStep got => "expected '->' or '<-' but got " ++ got

def Failure.message : Failure → String
  | .missingArgument name => s!"no {name} provided."
  | .unreadable path reason => s!"could not read file {path}: {reason}"
  | .badRule e => e.message
  | .emptyTape => "tape file may not be empty."
  | .underflow => "tape underflow."
  | .overflow head => s!"tape overflow at cell {head}."
  | .stepLimit limit => s!"step limit of {limit} exceeded."
  | .badConfig reason => s!"invalid configuration: {reason}"
  | .unwritableLog path reason => s!"could not write run log {path}: {reason}"
  | .usage text => text
  | .other text => text

/-- The least head that is looked up on the tape at all. -/
def leastIndex : Int := -0x8000000000000000

def LayoutFault.message : LayoutFault → String
  | .badTitle f => f.message
  | .noCut => "list index out of range"

/-- What surroundings say when they give up. -/
def tooDeep : String := "maximum recursion depth exceeded"

def Crash.message : Crash → String
  | .noSuchCell head =>
    if head < leastIndex then "cannot fit 'int' into an index-sized integer"
    else "list index out of range"
  | .noLayout f => f.message
  | .nullInPath => "embedded null byte"
  | .undecodable defect => defect.message
  | .integerTooLong digits =>
    s!"Exceeds the limit ({Json.maxIntegerDigits} digits) for integer string conversion: " ++
      s!"value has {digits} digits; use sys.set_int_max_str_digits() to increase the limit"
  | .unknownPolicy name => s!"Unknown tape overflow policy: {name}"
  | .notAnArrow token => s!"{Text.quoted token} is not a valid Step"
  | .noConfigPath => "stat: path should be string, bytes, os.PathLike or integer, not list"
  | .noParts kind => s!"'{kind}' object is not iterable"
  | .notAKey kind => s!"unhashable type: '{kind}'"
  | .noValues => "list indices must be integers or slices, not str"
  | .nestedTooDeep c => s!"{tooDeep} while decoding a JSON {c.name} from a unicode string"
  | .tooManyDirectories => tooDeep
  | .abandoned => "the run was abandoned"

/-- A failed step, as the end of a command. -/
def Fault.problem : Fault → Problem
  | .underflow => .failure .underflow
  | .overflow head => .failure (.overflow head)
  | .noSuchCell head => .crash (.noSuchCell head)

/-- How a run under a limit failed, if it did. -/
def Ending.problem? (limit : Int) : Ending → Option Problem
  | .halted => none
  | .fault f => some f.problem
  | .limitExceeded => some (.failure (.stepLimit limit))
  | .abandoned => some (.crash .abandoned)

end TapeMachine
