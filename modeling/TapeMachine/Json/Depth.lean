/-
How deep the arrays and objects of a JSON text are nested.

Values can be followed into one another so far and no further.  A text is read up to the
first array or object that stands in too many others, and what follows is not looked at.

* **`deepFrom`** — the first bracket that opens too deep, and the text in front of it;
* **`tooDeep?`** — what it opens, if reading comes to it at all.

Design notes:

* Brackets in strings do not count.  They are told apart by the quotes alone, whether or not
  the text is JSON otherwise.
* What is wrong in front of the bracket is found first.  So the bracket matters only if the
  text in front of it breaks off where a value is expected.
-/
import TapeMachine.Json.Reader

namespace TapeMachine.Json

/-- Where a character stands: outside of strings, in a string, or behind a backslash in one. -/
inductive Mode where
  | outside
  | quoted
  | escaped
deriving DecidableEq, Repr

/-- Where the next character stands. -/
def Mode.next : Mode → Char → Mode
  | .outside, c => if c = '"' then .quoted else .outside
  | .quoted, c => if c = '"' then .outside else if c = '\\' then .escaped else .quoted
  | .escaped, _ => .quoted

/-- What a character opens. -/
def opened? (c : Char) : Option Container :=
  if c = '[' then some .array else if c = '\x7b' then some .object else none

/-- What a character opens where it stands. -/
def Mode.opened? : Mode → Char → Option Container
  | .outside, c => Json.opened? c
  | _, _ => none

/-- How many arrays and objects are open behind a character. -/
def Mode.level : Mode → Nat → Char → Nat
  | .outside, level, c =>
    if (Json.opened? c).isSome then level + 1
    else if c = ']' ∨ c = '\x7d' then level - 1
    else level
  | _, level, _ => level

/-- What is opened in `room` others that are still open, and the text in front of it.  The
characters already `done` stand in reverse. -/
def deepFrom (room : Nat) (done : List Char) : Mode → Nat → List Char →
    Option (List Char × Container)
  | _, _, [] => none
  | mode, level, c :: rest =>
    match if level = room then mode.opened? c else none with
    | some k => some (done.reverse, k)
    | none => deepFrom room (c :: done) (mode.next c) (mode.level level c) rest

/-- Whether a text breaks off where a value is expected. -/
def awaitsValue (s : List Char) : Bool :=
  match read s with
  | .error (.unexpected .value []) => true
  | _ => false

/-- What stands too deep in a text, if there is room for `room` arrays and objects within one
another and reading comes to one more. -/
def tooDeep? (room : Nat) (s : List Char) : Option Container :=
  match deepFrom room [] .outside 0 s with
  | some (before, k) => if awaitsValue before then some k else none
  | none => none

end TapeMachine.Json
