/-
Marked-up text.

A tag in square brackets names a style, and the style holds up to the tag that closes
it: `[/name]` closes the last tag of that style, and `[/]` the last tag of all.  Here text
is shown without any style, so tags only leave spans.  A backslash before a bracket takes it as
it stands.  Between tags a text may name emoji.

A tag that starts with an at sign names no style but an event.  After an equals sign it names what
handles the event, with arguments that are a literal.

* **`Markup.parts`** — the texts and tags of a text;
* **`Markup.read`** — the text without tags, or the first fault among them;
* **`Markup.read_of_not_mem`** — a text without brackets has no tags.

Design notes:

* Of several backslashes before a tag every two stand for one.  Elsewhere only the backslash
  right before an opening bracket is dropped.
* A bracket opens a tag only before a small letter or one of `#`, `/` and `@`.
* A tag that is never closed is no fault.
* Arguments are read when their tag is closed.  What they are is of no use here, but they must be
  well formed.
-/
import TapeMachine.Expression.Literal
import TapeMachine.Text.Emoji
import TapeMachine.Text.Letter
import TapeMachine.Text.Marked
import TapeMachine.Text.Markup.Style
import TapeMachine.Text.Quoted

namespace TapeMachine.Text.Markup

/-- Why a text is not well marked up. -/
inductive Fault where
  /-- A closing tag at some place closes nothing. -/
  | unmatched (body : List Char) (place : Nat)
  | nothingOpen (place : Nat)
  /-- A style lacks a part of a colour. -/
  | missingPart
  /-- Parameters of an event hold arguments that are no literal. -/
  | badParameters (arguments parameters : List Char) (f : Expression.ReadFault)
deriving DecidableEq, Repr

/-- The wording of a fault. -/
def Fault.message : Fault → String
  | .unmatched body place =>
    s!"closing tag '[{String.ofList body}]' at position {place} doesn't match any open tag"
  | .nothingOpen place => s!"closing tag '[/]' at position {place} has nothing to close"
  | .missingPart => "invalid literal for int() with base 10: ''"
  | .badParameters arguments parameters f =>
    let read := quoted (String.ofList arguments)
    let whole := quoted (String.ofList parameters)
    match f with
    | .expression f => s!"error parsing {read} in {whole}; {f.message}"
    | .literal f => s!"error parsing {whole}; {f.message}"

/-- A part of a text. -/
inductive Part where
  | text (chars : List Char)
  /-- A tag at a place, and what it holds between its brackets. -/
  | tag (place : Nat) (body : List Char)
deriving DecidableEq, Repr

/-! ### Parts -/

/-- Whether a character may stand first in a tag. -/
def opensTag (c : Char) : Bool :=
  ('a' ≤ c && c ≤ 'z') || c = '#' || c = '/' || c = '@'

/-- What stands between the brackets of a tag, after the first of them, and what follows. -/
def tagBody? : List Char → Option (List Char × List Char)
  | [] => none
  | c :: rest =>
    let more := rest.takeWhile fun d => d ≠ '[' ∧ d ≠ ']'
    match rest.drop more.length with
    | ']' :: after => if opensTag c then some (c :: more, after) else none
    | _ => none

theorem length_lt_of_tagBody? {chars body after : List Char}
    (h : tagBody? chars = some (body, after)) : after.length < chars.length := by
  cases chars with
  | nil => simp [tagBody?] at h
  | cons c rest =>
    rw [tagBody?] at h
    split at h
    · next after' hd =>
      have hlen := congrArg List.length hd
      split at h
      · simp only [Option.some.injEq, Prod.mk.injEq] at h
        rw [← h.2]
        simp only [List.length_drop, List.length_cons] at hlen ⊢
        omega
      · simp at h
    · simp at h

/-- A text that stands in reverse, as a part if it is not empty. -/
def textPart (reversed : List Char) : List Part :=
  if reversed = [] then [] else [.text reversed.reverse]

/-- The parts of a text from a place on, after `plain` and `slashes` backslashes, which
stand right before it and belong to no part yet.  The former stands in reverse. -/
def partsFrom (place slashes : Nat) (plain : List Char) : List Char → List Part
  | [] => textPart (List.replicate slashes '\\' ++ plain)
  | c :: rest =>
    let all := c :: (List.replicate slashes '\\' ++ plain)
    if c = '\\' then partsFrom (place + 1) (slashes + 1) plain rest
    else if c = '[' then
      match _h : tagBody? rest with
      | none => partsFrom (place + 1) 0 all rest
      | some (body, after) =>
        let tag := if slashes % 2 = 0 then .tag place body else .text ('[' :: body ++ [']'])
        textPart plain ++ textPart (List.replicate (slashes / 2) '\\') ++
          tag :: partsFrom (place + body.length + 2) 0 [] after
    else partsFrom (place + 1) 0 all rest
termination_by chars => chars.length
decreasing_by
  · simp
  · simp
  · exact Nat.lt_succ_of_lt (length_lt_of_tagBody? _h)
  · simp

/-- The parts of a text. -/
def parts (chars : List Char) : List Part :=
  partsFrom 0 0 [] chars

/-! ### Tags -/

/-- An open tag: the name of its style, its parameters if it has any, and where it stands. -/
structure Tag where
  name : List Char
  parameters? : Option (List Char)
  start : Nat
deriving DecidableEq, Repr

/-- What a tag says. -/
def Tag.spelling (tag : Tag) : List Char :=
  match tag.parameters? with
  | none => tag.name
  | some parameters => tag.name ++ ' ' :: parameters

/-- Whether a tag names an event. -/
def Tag.isEvent (tag : Tag) : Bool :=
  tag.name.head? = some '@'

/-- The name of a style in a tag, which ends before an equals sign. -/
def styleName (body : List Char) : List Char :=
  body.takeWhile (· ≠ '=')

/-- What stands after the equals sign in a tag. -/
def parameters? (body : List Char) : Option (List Char) :=
  match body.dropWhile (· ≠ '=') with
  | _ :: parameters => some parameters
  | [] => none

/-- The arguments in the parameters of an event.  They stand in brackets after the name of what
handles it, which needs none.  Other parameters are arguments themselves. -/
def argumentsOf (parameters : List Char) : List Char :=
  match parameters.dropWhile fun c => isWordChar c || c = '.' with
  | [] => "()".toList
  | c :: rest =>
    if c = '(' ∧ rest.getLast? = some ')' ∧ '\n' ∉ rest then c :: rest else parameters

/-- The last open tag of a style and the other open tags.  The last one stands first. -/
def close? (style : List Char) : List Tag → Option (Tag × List Tag)
  | [] => none
  | tag :: others =>
    if tag.name = style then some (tag, others)
    else (close? style others).map fun (found, rest) => (found, tag :: rest)

/-! ### Reading -/

/-- What a span says: a name that is looked up where the text is shown, or nothing. -/
abbrev Mark : Type := Option (List Char)

/-- What is known in the course of reading: the text so far, and the open tags with the last one
first. -/
structure Progress where
  shown : Marked Mark := { chars := [] }
  tags : List Tag := []

/-- Reading with notes, which ends at the first fault. -/
abbrev Reading (α : Type) : Type :=
  ExceptT Fault (StateM (List Expression.Note)) α

/-- Reads the arguments of an event. -/
def readParameters (parameters : List Char) : Reading Unit := do
  let arguments := argumentsOf (trim parameters)
  let (outcome, notes) := Expression.readLiteral arguments
  modify (· ++ notes)
  if let .error f := outcome then throw (.badParameters arguments parameters f)

/-- The text with a span from a tag to its end. -/
def span (shown : Marked Mark) (tag : Tag) (mark : Mark) : Marked Mark :=
  { shown with spans := ⟨tag.start, shown.chars.length, mark⟩ :: shown.spans }

/-- Closes a tag. -/
def closeTag (p : Progress) (tag : Tag) (others : List Tag) : Reading Progress := do
  if tag.isEvent then
    let parameters := tag.parameters?.getD []
    if parameters ≠ [] then readParameters parameters
    return { shown := span p.shown tag none, tags := others }
  else return { shown := span p.shown tag (some tag.spelling), tags := others }

/-- Reads a tag at a place. -/
def readTag (p : Progress) (place : Nat) (body : List Char) : Reading Progress :=
  match styleName body with
  | '/' :: closing =>
    if closing.all isBlank then
      match p.tags with
      | [] => throw (.nothingOpen place)
      | tag :: others => closeTag p tag others
    else
      match Style.normalize? closing with
      | none => throw .missingPart
      | some style =>
        match close? style p.tags with
        | none => throw (.unmatched body place)
        | some (tag, others) => closeTag p tag others
  | opening =>
    match Style.normalize? opening with
    | none => throw .missingPart
    | some name =>
      return { p with tags := ⟨name, parameters? body, p.shown.chars.length⟩ :: p.tags }

/-- The text without the backslashes before opening brackets. -/
def unescape : List Char → List Char
  | [] => []
  | '\\' :: '[' :: rest => '[' :: unescape rest
  | c :: rest => c :: unescape rest

/-- What a text between tags shows. -/
def plainText (chars : List Char) : List Char :=
  dropControls (Emoji.replace (unescape chars))

/-- Reads a part. -/
def readPart (p : Progress) : Part → Reading Progress
  | .text chars => return { p with shown.chars := p.shown.chars ++ plainText chars }
  | .tag place body => readTag p place body

/-- The text that has been read, where open tags hold up to its end. -/
def Progress.finish (p : Progress) : Marked Mark :=
  p.tags.foldl (fun shown tag => span shown tag (some tag.spelling)) p.shown

/-- Reads a text, with notes. -/
def read (chars : List Char) : Except Fault (Marked Mark) × List Expression.Note :=
  (Progress.finish <$> (parts chars).foldlM readPart {} : Reading (Marked Mark)).run []

/-- Whether the names in a text can be looked up. -/
def canShow (m : Marked Mark) : Bool :=
  m.spans.all fun s => s.mark.all Style.canLookUp

/-! ### Texts without tags -/

theorem unescape_of_not_mem {chars : List Char} (h : '[' ∉ chars) : unescape chars = chars := by
  fun_induction unescape chars <;> simp_all

theorem partsFrom_of_not_mem (place slashes : Nat) (plain : List Char) {chars : List Char}
    (h : '[' ∉ chars) :
    partsFrom place slashes plain chars =
      textPart (chars.reverse ++ (List.replicate slashes '\\' ++ plain)) := by
  induction chars generalizing place slashes plain with
  | nil => simp [partsFrom]
  | cons c rest ih =>
    simp only [List.mem_cons, not_or] at h
    rw [partsFrom]
    split
    · next hc =>
      rw [ih _ _ _ h.2, hc, List.reverse_cons, List.append_assoc, List.replicate_succ]
      rfl
    · rw [if_neg (Ne.symm h.1), ih _ _ _ h.2]
      simp

/-- A text without brackets has no tags. -/
theorem read_of_not_mem {chars : List Char} (h : '[' ∉ chars) :
    read chars = (.ok { chars := dropControls (Emoji.replace chars) }, []) := by
  rw [read, parts, partsFrom_of_not_mem 0 0 [] h]
  simp only [List.replicate_zero, List.append_nil, textPart]
  split
  · next hn =>
    rw [List.reverse_eq_nil_iff] at hn
    subst hn
    rw [Emoji.replace]
    rfl
  · simp only [List.reverse_reverse, List.foldlM_cons, List.foldlM_nil, readPart, plainText,
      unescape_of_not_mem h]
    rfl

end TapeMachine.Text.Markup
