/-
Reading JSON as equations between parts of a text.

A reader hands back what follows a value together with a proof that it is shorter.  Here
the proofs are left off, and each reader is put as one equation: what it makes of a text,
in terms of what the readers make of shorter ones.

* **`Json.bare`** — a result of reading without the proof;
* **`Json.bare_value_string`**, **`Json.bare_value_array`**, **`Json.bare_value_object`**,
  **`Json.bare_value_scalar`** — one value, by what it opens with;
* **`Json.partFrom`**, **`Json.elementsAfter`** — what arrays and objects have in common;
* **`Json.bare_items`**, **`Json.bare_members`** — the insides of arrays and objects.
-/
import TapeMachine.Proofs.JsonReading

namespace TapeMachine.Json

variable {α β : Type} {s body rest : List Char} {x : α}

/-- What is read from a text, and what is left of it. -/
abbrev Scan (α : Type) := Except Refusal (α × List Char)

/-- A result of reading, without the proof that something was read. -/
def bare (r : Except Refusal (α × Rest s)) : Scan α :=
  r.map fun x => (x.1, x.2.1)

theorem length_of_bare {r : Except Refusal (α × Rest s)} (h : bare r = .ok (x, rest)) :
    rest.length < s.length := by
  rcases r with e | ⟨y, left⟩
  · cases h
  · cases h
    exact left.2

/-- A scan with what was read put into another form. -/
def Scan.into (f : α → β) (r : Scan α) : Scan β :=
  r.map fun x => (f x.1, x.2)

/-- A scan and then another, of what the first left. -/
def Scan.next (r : Scan α) (f : α → List Char → Scan β) : Scan β :=
  match r with
  | .error e => .error e
  | .ok (x, rest) => f x rest

/-- What follows the first character of what was left is shorter than the text. -/
theorem length_skipSpace_lt {c : Char} {after : List Char} (hrest : rest.length < s.length)
    (h : skipSpace rest = c :: after) : (skipSpace after).length < s.length := by
  have hskip := length_skipSpace_le rest
  have hle := length_skipSpace_le after
  rw [h, List.length_cons] at hskip
  omega

theorem head?_ne_some {c : Char} (h : ∀ rest, s ≠ c :: rest) : s.head? ≠ some c :=
  fun hhead => (List.head?_eq_some_iff.1 hhead).elim h

/-! ### Values -/

theorem bare_value_string (body : List Char) :
    bare (value ('"' :: body)) = Scan.into .str (stringFrom ('"' :: body) [] body) := by
  rw [value]
  split
  · next h =>
    conv => rhs; rw [h]
    rfl
  · next h =>
    conv => rhs; rw [h]
    rfl

/-- The inside of an array or an object: it closes at once, or holds elements. -/
def partFrom (close : Char) (make : List α → Value) (elements : List Char → Scan (List α))
    (s : List Char) : Scan Value :=
  if s.head? = some close then .ok (make [], s.tail) else Scan.into make (elements s)

theorem bare_value_array (body : List Char) :
    bare (value ('[' :: body)) = partFrom ']' .array (fun s => bare (items s)) (skipSpace body) := by
  rw [value]
  split
  · next h =>
    conv => rhs; rw [h]
    rfl
  · next hne =>
    rw [partFrom, if_neg (head?_ne_some hne)]
    rcases items (skipSpace body) with e | ⟨vs, left⟩ <;> rfl

theorem bare_value_object (body : List Char) :
    bare (value ('\x7b' :: body)) =
      partFrom '\x7d' (fun ms => .object (mergeMembers ms)) (fun s => bare (members s))
        (skipSpace body) := by
  rw [value]
  split
  · next h =>
    conv => rhs; rw [h]
    rfl
  · next hne =>
    rw [partFrom, if_neg (head?_ne_some hne)]
    rcases members (skipSpace body) with e | ⟨ms, left⟩ <;> rfl

theorem opensPart_cases (s : List Char) :
    (∃ body, s = '"' :: body) ∨ (∃ body, s = '[' :: body) ∨ (∃ body, s = '\x7b' :: body) ∨
      ¬OpensPart s := by
  rcases s with _ | ⟨c, body⟩
  · exact .inr (.inr (.inr fun ⟨_, hc, _⟩ => nomatch hc))
  by_cases hopen : c = '"' ∨ c = '[' ∨ c = '\x7b'
  · rcases hopen with rfl | rfl | rfl
    · exact .inl ⟨body, rfl⟩
    · exact .inr (.inl ⟨body, rfl⟩)
    · exact .inr (.inr (.inl ⟨body, rfl⟩))
  · rw [not_or, not_or] at hopen
    exact .inr (.inr (.inr (not_opensPart hopen body)))

/-- What opens no part is a word or a number. -/
theorem bare_value_scalar (hopen : ¬OpensPart s) :
    bare (value s) =
      match word? s with
      | some x => .ok x
      | none => bare (number s) := by
  rcases hword : word? s with _ | ⟨v, rest⟩
  · rw [value_of_no_word hopen hword]
  · obtain ⟨_, hvalue⟩ := value_of_word hopen hword
    rw [hvalue]
    rfl

theorem bare_number (s : List Char) :
    bare (number s) =
      let whole := integerDigits (numberSign s).2
      let fraction := fractionDigits whole.2
      let exponent := exponentPart fraction.2
      if whole.1 = [] then .error (.unexpected .value s)
      else
        (numberValue (numberSign s).1 whole.1 fraction.1 exponent.1).map fun v =>
          (v, exponent.2) := by
  rw [number]
  dsimp only
  split
  · rfl
  · split
    · next h =>
      rw [h]
      rfl
    · next h =>
      rw [h]
      rfl

/-! ### The insides of arrays and objects -/

/-- The rest of an array or an object after an element, at the character that ends the element. -/
def elementsAfter (close : Char) (elements : List Char → Scan (List α)) (x : α) (s : List Char) :
    Scan (List α) :=
  if s.head? = some close then .ok ([x], s.tail)
  else if s.head? = some ',' then Scan.into (x :: ·) (elements (skipSpace s.tail))
  else .error (.unexpected .comma s)

theorem bare_items (s : List Char) :
    bare (items s) = Scan.next (bare (value s)) fun v rest =>
      elementsAfter ']' (fun s => bare (items s)) v (skipSpace rest) := by
  rw [items]
  rcases value s with e | ⟨v, rest, hlt⟩
  · rfl
  show _ = elementsAfter ']' (fun s => bare (items s)) v (skipSpace rest)
  dsimp only
  split
  · next h =>
    conv => rhs; rw [h]
    rfl
  · next after h =>
    conv => rhs; rw [h]
    show _ = Scan.into (v :: ·) (bare (items (skipSpace after)))
    rcases items (skipSpace after) with e | ⟨vs, left⟩ <;> rfl
  · next hclose hcomma =>
    rw [elementsAfter, if_neg (head?_ne_some hclose), if_neg (head?_ne_some hcomma)]
    rfl

/-- A member after its key, at the character that ends the key. -/
def memberAfter (key : String) (s : List Char) : Scan (String × Value) :=
  if s.head? = some ':' then Scan.into (key, ·) (bare (value (skipSpace s.tail)))
  else .error (.unexpected .colon s)

/-- A member at the opening quote of its key. -/
def member (s : List Char) : Scan (String × Value) :=
  if s.head? = some '"' then
    Scan.next (stringFrom s [] s.tail) fun key rest => memberAfter key (skipSpace rest)
  else .error (.unexpected .propertyName s)

theorem length_of_member {m : String × Value} (h : member s = .ok (m, rest)) :
    rest.length < s.length := by
  rw [member] at h
  split at h
  · next hquote =>
    obtain ⟨body, rfl⟩ := List.head?_eq_some_iff.1 hquote
    rcases hkey : stringFrom ('"' :: body) [] body with e | ⟨key, afterKey⟩ <;>
      rw [List.tail_cons, hkey] at h
    · cases h
    change memberAfter key (skipSpace afterKey) = _ at h
    rw [memberAfter] at h
    split at h
    · next hcolon =>
      obtain ⟨after, hafter⟩ := List.head?_eq_some_iff.1 hcolon
      rw [hafter, List.tail_cons] at h
      rcases hvalue : bare (value (skipSpace after)) with e | ⟨v, left⟩ <;> rw [hvalue] at h
      · cases h
      cases h
      exact Nat.lt_trans (length_of_bare hvalue)
        (Nat.lt_succ_of_lt (length_skipSpace_lt (length_of_stringFrom hkey) hafter))
    · cases h
  · cases h

theorem bare_members (s : List Char) :
    bare (members s) = Scan.next (member s) fun m rest =>
      elementsAfter '\x7d' (fun s => bare (members s)) m (skipSpace rest) := by
  rw [members.eq_def]
  split
  · next body =>
    have hmember : member ('"' :: body) = Scan.next (stringFrom ('"' :: body) [] body)
      fun key rest => memberAfter key (skipSpace rest) := rfl
    rw [hmember]
    split
    · next h =>
      conv => rhs; rw [h]
      rfl
    next key afterKey hkey =>
    conv => rhs; rw [hkey]
    show _ = Scan.next (memberAfter key (skipSpace afterKey)) _
    split
    · next afterColon h =>
      conv => rhs; rw [h]
      show _ = Scan.next (Scan.into (key, ·) (bare (value (skipSpace afterColon)))) _
      rcases value (skipSpace afterColon) with e | ⟨v, rest, hlt⟩
      · rfl
      show _ = elementsAfter '\x7d' (fun s => bare (members s)) (key, v) (skipSpace rest)
      dsimp only
      split
      · next h =>
        conv => rhs; rw [h]
        rfl
      · next after h =>
        conv => rhs; rw [h]
        show _ = Scan.into ((key, v) :: ·) (bare (members (skipSpace after)))
        rcases members (skipSpace after) with e | ⟨vs, left⟩ <;> rfl
      · next hclose hcomma =>
        rw [elementsAfter, if_neg (head?_ne_some hclose), if_neg (head?_ne_some hcomma)]
        rfl
    · next hne =>
      rw [memberAfter, if_neg (head?_ne_some hne)]
      rfl
  · next hne =>
    rw [member, if_neg (head?_ne_some hne)]
    rfl

/-- A whole text is one value between blanks. -/
theorem read_eq_bare (s : List Char) :
    read s =
      if s.head? = some '\uFEFF' then .error (.unexpected .noByteOrderMark s)
      else
        match bare (value (skipSpace s)) with
        | .error e => .error e
        | .ok (v, rest) =>
          match skipSpace rest with
          | [] => .ok v
          | other => .error (.unexpected .endOfText other) := by
  rw [read]
  split
  · rfl
  · rcases value (skipSpace s) with e | ⟨v, rest, hlt⟩ <;> rfl

end TapeMachine.Json
