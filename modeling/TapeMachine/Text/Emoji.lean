/-
Emoji by name.

In a text `:name:` stands for the emoji of that name.  After the name `-emoji` or
`-text` asks for one of the two ways to show it.  A name is read in either case, holds
no white space, and is left as it stands if there is no such emoji.

* **`Emoji.ofName?`** — the emoji of a name;
* **`Emoji.replace`** — the text with emoji for their names;
* **`Emoji.replace_eq_self`** — a text without colons stays as it is.

Design notes:

* The colon that closes a name opens no other, whether or not there is such an emoji.
* A tone of skin is asked for in the name, and the modifier that shows it follows the
  first character of the emoji, in the place of a selector.
-/
import TapeMachine.Text.Blank
import TapeMachine.Text.Emoji.Names
import TapeMachine.Text.Hex
import TapeMachine.Text.LowerCase
import TapeMachine.Text.Pieces

namespace TapeMachine.Text.Emoji

/-! ### The table -/

/-- The characters that code points joined by hyphens write. -/
def charsOf (code : List Char) : List Char :=
  (pieces '-' code).map fun digits => Char.ofNat (ofHex digits)

/-- Names and emoji that stand by turns. -/
def entries : List (List Char) → List (List Char × List Char)
  | name :: code :: rest => (name, charsOf code) :: entries rest
  | _ => []

/-- The names and emoji that lines write. -/
def table (lines : List String) : List (List Char × List Char) :=
  lines.flatMap fun line => entries (pieces ' ' line.toList)

/-- The emoji that have one form. -/
def plain : List (List Char × List Char) :=
  table plainNames

/-- The emoji that also come in every tone of skin. -/
def toned : List (List Char × List Char) :=
  table tonedNames

/-- How a name asks for a tone of skin, and the code point of the modifier that shows it. -/
def tones : List (String × Nat) :=
  [("_light_skin_tone", 0x1F3FB), ("_medium-light_skin_tone", 0x1F3FC),
   ("_medium_skin_tone", 0x1F3FD), ("_medium-dark_skin_tone", 0x1F3FE),
   ("_dark_skin_tone", 0x1F3FF)]

/-! ### Names -/

/-- The selector that shows the character before it as an emoji. -/
def emojiSelector : Char := '\uFE0F'

/-- The selector that shows the character before it as text. -/
def textSelector : Char := '\uFE0E'

/-- A text without an ending, if it has that ending. -/
def without? (ending : String) (chars : List Char) : Option (List Char) :=
  if ending.toList.isSuffixOf chars then some (chars.take (chars.length - ending.length)) else none

/-- An emoji in a tone of skin. -/
def inTone (modifier : Nat) : List Char → List Char
  | [] => []
  | skin :: rest =>
    let others := if rest.head? = some emojiSelector then rest.tail else rest
    skin :: Char.ofNat modifier :: others

/-- The emoji of a name in lower case. -/
def ofName? (name : List Char) : Option (List Char) :=
  match plain.lookup name with
  | some emoji => some emoji
  | none =>
    match toned.lookup name with
    | some emoji => some emoji
    | none => tones.findSome? fun (ending, modifier) =>
        (without? ending name).bind fun base => (toned.lookup base).map (inTone modifier)

/-- A name and the selector that is asked for after it, if any. -/
def splitVariant (code : List Char) : List Char × List Char :=
  match without? "-emoji" code with
  | some name => (name, [emojiSelector])
  | none =>
    match without? "-text" code with
    | some name => (name, [textSelector])
    | none => (code, [])

/-- What stands between two colons, as it is shown. -/
def shown (code : List Char) : List Char :=
  let (name, selector) := splitVariant code
  match ofName? (lowerCase name) with
  | some emoji => emoji ++ selector
  | none => ':' :: code ++ [':']

/-! ### Texts -/

/-- Whether a character may stand between the two colons. -/
def isCodeChar (c : Char) : Bool :=
  c ≠ ':' && !isBlank c

/-- The text with emoji in the place of their names. -/
def replace : List Char → List Char
  | [] => []
  | c :: rest =>
    if c = ':' then
      match _h : rest.drop (rest.takeWhile isCodeChar).length with
      | ':' :: after => shown (rest.takeWhile isCodeChar) ++ replace after
      | _ => c :: replace rest
    else c :: replace rest
termination_by chars => chars.length
decreasing_by
  · have := congrArg List.length _h
    simp only [List.length_drop, List.length_cons] at this ⊢
    omega
  all_goals simp

/-- A text without colons stays as it is. -/
theorem replace_eq_self {chars : List Char} (h : ':' ∉ chars) : replace chars = chars := by
  induction chars with
  | nil => rw [replace]
  | cons c rest ih =>
    simp only [List.mem_cons, not_or] at h
    rw [replace, if_neg (Ne.symm h.1), ih h.2]

end TapeMachine.Text.Emoji
