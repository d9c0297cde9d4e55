/-
Styles of text: how they are named, and when two names name the same style.

A style is named by words in any order: attributes such as `bold`, of which some have a
short name and every one can be denied by `not`; a colour; `on` and a colour for the
background; `link` and an address.  Of words that contradict each other the last one counts.

* **`Style.ofWords`** — the style that words name;
* **`Style.name`** — the one name that every style has;
* **`Style.normalize?`** — that name for a name of any spelling.

Design notes:

* Where a colour is mixed of three parts none of them may be missing.  Unlike a word that
  names nothing, a missing part is no name at all, and nothing goes on after it.
-/
import TapeMachine.Text.Blank
import TapeMachine.Text.Digit
import TapeMachine.Text.Hex
import TapeMachine.Text.LowerCase
import TapeMachine.Text.Pieces

namespace TapeMachine.Text

/-- A style: what is said about every attribute, the two colours and the address of a link. -/
structure Style where
  attributes : List (String × Bool) := []
  color : Option String := none
  background : Option String := none
  link : Option String := none
deriving DecidableEq, Repr

namespace Style

/-! ### Words -/

/-- The attributes, in the order in which they are listed, each with its short name. -/
def attributeNames : List (String × Option String) :=
  [("bold", some "b"), ("dim", some "d"), ("italic", some "i"), ("underline", some "u"),
   ("blink", none), ("blink2", none), ("reverse", some "r"), ("conceal", some "c"),
   ("strike", some "s"), ("underline2", some "uu"), ("frame", none), ("encircle", none),
   ("overline", some "o")]

/-- The attribute that a word names. -/
def attribute? (word : String) : Option String :=
  (attributeNames.find? fun (long, short?) => word = long ∨ some word = short?).map (·.1)

/-- The colours that have a name. -/
def colorNames : List String :=
  ["aquamarine1", "aquamarine3", "black", "blue", "blue1", "blue3", "blue_violet", "bright_black",
   "bright_blue", "bright_cyan", "bright_green", "bright_magenta", "bright_red", "bright_white",
   "bright_yellow", "cadet_blue", "chartreuse1", "chartreuse2", "chartreuse3", "chartreuse4",
   "cornflower_blue", "cornsilk1", "cyan", "cyan1", "cyan2", "cyan3", "dark_blue", "dark_cyan",
   "dark_goldenrod", "dark_green", "dark_khaki", "dark_magenta", "dark_olive_green1",
   "dark_olive_green2", "dark_olive_green3", "dark_orange", "dark_orange3", "dark_red",
   "dark_sea_green", "dark_sea_green1", "dark_sea_green2", "dark_sea_green3", "dark_sea_green4",
   "dark_slate_gray1", "dark_slate_gray2", "dark_slate_gray3", "dark_turquoise", "dark_violet",
   "deep_pink1", "deep_pink2", "deep_pink3", "deep_pink4", "deep_sky_blue1", "deep_sky_blue2",
   "deep_sky_blue3", "deep_sky_blue4", "dodger_blue1", "dodger_blue2", "dodger_blue3", "gold1",
   "gold3", "gray0", "gray100", "gray11", "gray15", "gray19", "gray23", "gray27", "gray3",
   "gray30", "gray35", "gray37", "gray39", "gray42", "gray46", "gray50", "gray53", "gray54",
   "gray58", "gray62", "gray63", "gray66", "gray69", "gray7", "gray70", "gray74", "gray78",
   "gray82", "gray84", "gray85", "gray89", "gray93", "green", "green1", "green3", "green4",
   "green_yellow", "grey0", "grey100", "grey11", "grey15", "grey19", "grey23", "grey27", "grey3",
   "grey30", "grey35", "grey37", "grey39", "grey42", "grey46", "grey50", "grey53", "grey54",
   "grey58", "grey62", "grey63", "grey66", "grey69", "grey7", "grey70", "grey74", "grey78",
   "grey82", "grey84", "grey85", "grey89", "grey93", "honeydew2", "hot_pink", "hot_pink2",
   "hot_pink3", "indian_red", "indian_red1", "khaki1", "khaki3", "light_coral", "light_cyan1",
   "light_cyan3", "light_goldenrod1", "light_goldenrod2", "light_goldenrod3", "light_green",
   "light_pink1", "light_pink3", "light_pink4", "light_salmon1", "light_salmon3",
   "light_sea_green", "light_sky_blue1", "light_sky_blue3", "light_slate_blue",
   "light_slate_gray", "light_slate_grey", "light_steel_blue", "light_steel_blue1",
   "light_steel_blue3", "light_yellow3", "magenta", "magenta1", "magenta2", "magenta3",
   "medium_orchid", "medium_orchid1", "medium_orchid3", "medium_purple", "medium_purple1",
   "medium_purple2", "medium_purple3", "medium_purple4", "medium_spring_green",
   "medium_turquoise", "medium_violet_red", "misty_rose1", "misty_rose3", "navajo_white1",
   "navajo_white3", "navy_blue", "orange1", "orange3", "orange4", "orange_red1", "orchid",
   "orchid1", "orchid2", "pale_green1", "pale_green3", "pale_turquoise1", "pale_turquoise4",
   "pale_violet_red1", "pink1", "pink3", "plum1", "plum2", "plum3", "plum4", "purple", "purple3",
   "purple4", "red", "red1", "red3", "rosy_brown", "royal_blue1", "salmon1", "sandy_brown",
   "sea_green1", "sea_green2", "sea_green3", "sky_blue1", "sky_blue2", "sky_blue3", "slate_blue1",
   "slate_blue3", "spring_green1", "spring_green2", "spring_green3", "spring_green4",
   "steel_blue", "steel_blue1", "steel_blue3", "tan", "thistle1", "thistle3", "turquoise2",
   "turquoise4", "violet", "wheat1", "wheat4", "white", "yellow", "yellow1", "yellow2", "yellow3",
   "yellow4"]

/-- The greatest number of a colour, and the greatest part of a mixed one. -/
def maxColor : Nat := 255

/-- Why words name no style. -/
inductive Fault where
  | noStyle
  /-- A part of a mixed colour is missing. -/
  | missingPart
deriving DecidableEq, Repr

/-- What stands between a word and a closing bracket, if a text starts and ends so. -/
def enclosed? (word : String) (text : List Char) : Option (List Char) :=
  if (word ++ "(").toList.isPrefixOf text ∧ text.getLast? = some ')' then
    some (text.dropLast.drop (word.length + 1))
  else none

/-- Whether a text writes a colour by six hexadecimal digits. -/
def isHexColor : List Char → Bool
  | '#' :: digits => digits.length = 6 && digits.all fun c => (hexValue? c).isSome
  | _ => false

/-- Whether a text writes a colour by its number, of at most three digits. -/
def isNumberedColor (text : List Char) : Bool :=
  match enclosed? "color" text with
  | some digits =>
    digits ≠ [] && digits.length ≤ 3 && digits.all Char.isDigit && numeralValue digits ≤ maxColor
  | none => false

/-- The parts of a text that writes a colour by its red, green and blue ones. -/
def mixedParts? (text : List Char) : Option (List (List Char)) :=
  match enclosed? "rgb" text with
  | some inside =>
    let parts := pieces ',' inside
    if (parts.all fun part => part.all isDigit) ∧ parts.length = 3 then some parts else none
  | none => none

/-- A word in lower case as the name of a colour. -/
def readColor (word : String) : Except Fault String :=
  match mixedParts? word.toList with
  | some parts =>
    if [] ∈ parts then .error .missingPart
    else if parts.all fun part => numeralValue part ≤ maxColor then .ok word
    else .error .noStyle
  | none =>
    if word = "default" ∨ colorNames.contains word ∨ isHexColor word.toList ∨
        isNumberedColor word.toList then .ok word
    else .error .noStyle

/-- A word in lower case. -/
def lowerWord (word : String) : String :=
  String.ofList (lowerCase word.toList)

/-! ### Styles -/

/-- The style with one more thing said about an attribute. -/
def say (s : Style) (name : String) (value : Bool) : Style :=
  { s with attributes := (name, value) :: s.attributes }

/-- The style `s` with what words add to it. -/
def ofWords (s : Style) : List String → Except Fault Style
  | [] => .ok s
  | word :: rest =>
    if lowerWord word = "on" then
      match rest with
      | [] => .error .noStyle
      | other :: rest =>
        match readColor (lowerWord other) with
        | .error f => .error f
        | .ok c => ofWords { s with background := some c } rest
    else if lowerWord word = "not" then
      match rest with
      | [] => .error .noStyle
      | other :: rest =>
        match attribute? other with
        | none => .error .noStyle
        | some a => ofWords (s.say a false) rest
    else if lowerWord word = "link" then
      match rest with
      | [] => .error .noStyle
      | address :: rest => ofWords { s with link := some address } rest
    else
      match attribute? (lowerWord word) with
      | some a => ofWords (s.say a true) rest
      | none =>
        match readColor (lowerWord word) with
        | .error f => .error f
        | .ok c => ofWords { s with color := some c } rest

/-- The words of the name of a style. -/
def nameWords (s : Style) : List String :=
  let attributes := attributeNames.filterMap fun (long, _) =>
    (s.attributes.lookup long).map fun value => if value then long else "not " ++ long
  attributes ++ s.color.toList ++ (s.background.map ("on " ++ ·)).toList ++
    (s.link.map ("link " ++ ·)).toList

/-- The name of a style. -/
def name (s : Style) : String :=
  if s.nameWords = [] then "none" else " ".intercalate s.nameWords

/-- The words of a text. -/
def wordsOf (chars : List Char) : List String :=
  let spaced := chars.map fun c => if isBlank c then ' ' else c
  ((pieces ' ' spaced).filter (· ≠ [])).map String.ofList

/-- The style that a name of any spelling names. -/
def ofName (spelling : List Char) : Except Fault Style :=
  if trim spelling = "none".toList then .ok {} else ofWords {} (wordsOf spelling)

/-- The one name of the style that a name of any spelling names, unless a part of a colour is
missing.  What names no style is kept, in lower case and without white space around it. -/
def normalize? (spelling : List Char) : Option (List Char) :=
  match ofName spelling with
  | .ok s => some s.name.toList
  | .error .noStyle => some (lowerCase (trim spelling))
  | .error .missingPart => none

/-- Whether a name can be looked up, whether or not it names a style. -/
def canLookUp (spelling : List Char) : Bool :=
  (normalize? spelling).isSome

end Style

end TapeMachine.Text
