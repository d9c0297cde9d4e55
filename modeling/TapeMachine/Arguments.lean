/-
The arguments of a command: operands and options in any order.

An argument is an option if it starts with a dash, unless it is a single dash, reads
as a negative number or holds a blank.  A long option may be cut short as long as
only one known option starts so, and its value may follow in the same argument after
`=`.  The first `--` divides: every argument after it is an operand.

* **`Dialect`** — the two ways in which arguments are read;
* **`Word.ofString`** — what an argument before the divider is;
* **`resolve`** — all arguments, with options joined to their values;
* **`slot`** — the operand that fills the next place.

Design notes:

* Releases of the reader differ in two points: a value `--` behind `=`, and text behind the
  letter of an option.  They agree in everything else, and in how operands are taken.

* Options that a command does not know are kept as such, and each command decides
  what becomes of them.
* Every argument is looked at before the first option takes effect, so an ambiguous
  option is found before an earlier request for help.
-/
import TapeMachine.Text.Digit
import TapeMachine.Text.Quoted

namespace TapeMachine

/-- An option with a value. -/
inductive Setting where
  | config
  | logDirectory
deriving DecidableEq, Repr

/-- An option. -/
inductive Flag where
  | help
  | setting (s : Setting)
deriving DecidableEq, Repr

/-- The long spelling of an option. -/
def Flag.long : Flag → String
  | .help => "--help"
  | .setting .config => "--config"
  | .setting .logDirectory => "--log-dir"

/-- The short spelling of an option. -/
def Flag.short? : Flag → Option String
  | .help => some "-h"
  | .setting _ => none

/-- How messages name an option. -/
def Flag.label (f : Flag) : String :=
  f.short?.elim f.long fun short => short ++ "/" ++ f.long

/-- The release that arguments are read by.  The early one loses a value `--` behind `=`, and takes
`h` behind a short option for that option again, also behind `=`.  The late one keeps the value, and
reads letters behind a short option as options of their own. -/
inductive Dialect where
  | early
  | late
deriving DecidableEq, Repr

/-- What an argument is by itself. -/
inductive Word where
  | operand (text : String)
  | divider
  /-- A known option, with the value that the same argument gives to it. -/
  | flag (f : Flag) (value : Option String)
  | unknown (text : String)
deriving DecidableEq, Repr

/-- Why arguments cannot be understood. -/
inductive Misuse where
  | ambiguous (text : String) (candidates : List Flag)
  | valueMissing (s : Setting)
  | valueRefused (f : Flag) (value : String)
deriving DecidableEq, Repr

/-- The wording of a misuse. -/
def Misuse.message : Misuse → String
  | .ambiguous text candidates =>
    s!"ambiguous option: {text} could match " ++ ", ".intercalate (candidates.map Flag.long)
  | .valueMissing s => s!"argument {(Flag.setting s).label}: expected one argument"
  | .valueRefused f value =>
    s!"argument {f.label}: ignored explicit argument {Text.quoted value}"

/-- Why a command does not start. -/
inductive Stop where
  | help
  | misuse (e : Misuse)
deriving DecidableEq, Repr

namespace Word

/-- The text before the first `=`, and the text after it, if there is one. -/
def cut (chars : List Char) : List Char × Option (List Char) :=
  match chars.dropWhile (· != '=') with
  | [] => (chars, none)
  | _ :: value => (chars.takeWhile (· != '='), some value)

/-- Whether a text reads as a negative number: a dash, digits, and digits after at most one point.
A line feed at the end does not count. -/
def isNegativeNumber (chars : List Char) : Bool :=
  match chars with
  | '-' :: number =>
    let number := if number.getLast? = some '\n' then number.dropLast else number
    match number.dropWhile Text.isDigit with
    | [] => number != []
    | '.' :: fraction => fraction != [] && fraction.all Text.isDigit
    | _ => false
  | _ => false

/-- The known option that a spelling names in full. -/
def spelled? (known : List Flag) (spelling : String) : Option Flag :=
  known.find? fun f => f.long = spelling || f.short? = some spelling

/-- The value that a text gives to a short option that takes none.  The option may be repeated in
it, which leaves nothing over. -/
def leftOver (value : List Char) : Option (List Char) :=
  if value = [] then some []
  else
    match value.dropWhile (· == 'h') with
    | [] => none
    | rest => some rest

/-- The text behind letters of short options that is refused as the value of the last one.  A letter
that is no option ends the letters, and does not matter. -/
def afterLetters : List Char → Option (List Char)
  | 'h' :: '=' :: value => some value
  | 'h' :: rest => afterLetters rest
  | '-' :: rest => some ('-' :: rest)
  | _ => none

/-- What is refused of a text behind the letter of a short option. -/
def refused : Dialect → List Char → Option (List Char)
  | .early, rest => leftOver rest
  | .late, rest => afterLetters rest

/-- What is refused of a text behind a short option and `=`. -/
def refusedValue : Dialect → List Char → Option (List Char)
  | .early, value => leftOver value
  | .late, value => some value

/-- A known option that is spelled in full, with the value after `=`. -/
def ofValue (d : Dialect) (f : Flag) (spelling : String) (value : List Char) : Word :=
  if f.short? = some spelling then .flag f ((refusedValue d value).map String.ofList)
  else .flag f (some (String.ofList value))

/-- An argument that starts with a dash and names no known option. -/
def ofUnnamed (text : String) : Word :=
  if isNegativeNumber text.toList || text.toList.contains ' ' then .operand text
  else .unknown text

/-- An argument that starts with a dash and does not spell a known option in full. -/
def ofShortened (d : Dialect) (known : List Flag) (text : String) : Except Misuse Word :=
  let (name, value) := cut text.toList
  match text.toList with
  | '-' :: '-' :: _ =>
    match known.filter fun f => name.isPrefixOf f.long.toList with
    | [] => .ok (ofUnnamed text)
    | [f] => .ok (.flag f (value.map String.ofList))
    | candidates => .error (.ambiguous text candidates)
  | '-' :: 'h' :: rest => .ok (.flag .help ((refused d rest).map String.ofList))
  | _ => .ok (ofUnnamed text)

/-- What an argument before the divider is. -/
def ofString (d : Dialect) (known : List Flag) (text : String) : Except Misuse Word :=
  if text.toList.head? ≠ some '-' ∨ text = "-" then .ok (.operand text)
  else
    match spelled? known text, cut text.toList with
    | some f, _ => .ok (.flag f none)
    | none, (_, none) => ofShortened d known text
    | none, (name, some value) =>
      match spelled? known (String.ofList name) with
      | some f => .ok (ofValue d f (String.ofList name) value)
      | none => ofShortened d known text

end Word

/-- What all arguments are. -/
def words (d : Dialect) (known : List Flag) : List String → Except Misuse (List Word)
  | [] => .ok []
  | text :: rest =>
    if text = "--" then .ok (.divider :: rest.map .operand)
    else
      match Word.ofString d known text with
      | .error e => .error e
      | .ok w =>
        match words d known rest with
        | .error e => .error e
        | .ok ws => .ok (w :: ws)

/-- Arguments with every option joined to its value. -/
inductive Item where
  | operand (text : String)
  | divider
  /-- An option and its value, which may be gone if it was spelled `--`. -/
  | setting (s : Setting) (value : Option String)
  | unknown (text : String)
deriving DecidableEq, Repr

namespace Item

/-- Whether operands may be taken from here. -/
def inRun : Item → Bool
  | .operand _ => true
  | .divider => true
  | _ => false

/-- The argument that an item leaves for a second reading. -/
def text? : Item → Option String
  | .operand text => some text
  | .divider => some "--"
  | .setting _ _ => none
  | .unknown text => some text

end Item

/-- A text that is lost if it is spelled `--`. -/
def undivided (text : String) : Option String :=
  if text = "--" then none else some text

/-- The value that stands in the same argument as its option. -/
def attached : Dialect → String → Option String
  | .early, value => undivided value
  | .late, value => some value

/-- Options joined with their values.  The leftmost request for help or misuse decides. -/
def joined (d : Dialect) : List Word → Except Stop (List Item)
  | [] => .ok []
  | .flag .help none :: _ => .error .help
  | .flag .help (some value) :: _ => .error (.misuse (.valueRefused .help value))
  | .flag (.setting s) (some value) :: rest =>
    (.setting s (attached d value) :: ·) <$> joined d rest
  | .flag (.setting s) none :: .operand value :: rest =>
    (.setting s (some value) :: ·) <$> joined d rest
  | .flag (.setting s) none :: _ => .error (.misuse (.valueMissing s))
  | .operand text :: rest => (.operand text :: ·) <$> joined d rest
  | .divider :: rest => (.divider :: ·) <$> joined d rest
  | .unknown text :: rest => (.unknown text :: ·) <$> joined d rest

/-- All arguments, understood with some options known. -/
def resolve (d : Dialect) (known : List Flag) (arguments : List String) :
    Except Stop (List Item) :=
  match words d known arguments with
  | .error e => .error (.misuse e)
  | .ok ws => joined d ws

/-- The operand that comes next, and the items after it.  A divider beside it goes with it, and
without one an operand that is spelled `--` is lost. -/
def slot : List Item → Option String × List Item
  | .divider :: .operand text :: rest => (some text, rest)
  | .operand text :: .divider :: rest => (some text, rest)
  | .operand text :: rest => (undivided text, rest)
  | rest => (none, rest)

/-- The last value that is given to a setting. -/
def lastValue? (s : Setting) (items : List Item) : Option (Option String) :=
  (items.filterMap fun
    | .setting s' value => if s' = s then some value else none
    | _ => none).getLast?

end TapeMachine
