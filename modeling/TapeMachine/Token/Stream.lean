/-
A stream of tokens with one token of lookahead.

The stream is fed from a list of items, of which an empty item marks the end:
nothing behind it is ever seen, and once the end has been met it stays met.
The lookahead is invisible from outside.  The only thing that an operation can
tell about a stream is the list of tokens that are still to come:

* **`remaining`** — the tokens that are still to come;
* **`peek_fst`**, **`remaining_peek`** — looking ahead shows the first of them and
  changes nothing;
* **`next_fst`**, **`remaining_next`** — taking a token hands out the first of them
  and leaves the others, or fails at the end.

Design notes:

* An operation that can fail is a function to a result and a stream, so that the
  tokens taken before a failure stay taken.
-/

namespace TapeMachine

/-- Why a rule could not be read. -/
inductive RuleError where
  /-- A token was expected where the input ends. -/
  | unexpectedEnd
  /-- The fourth token of a rule is no arrow. -/
  | invalidStep (got : String)
deriving DecidableEq, Repr

/-- The place for the token that has been looked at but not taken. -/
inductive Lookahead where
  | unread
  | token (t : String)
  | ended
deriving DecidableEq, Repr

/-- Items still unread, and the token looked at last. -/
structure TokenStream where
  items : List (Option String)
  ahead : Lookahead := .unread
deriving Repr

/-- A computation that takes tokens from a stream and may fail. -/
abbrev Reading (α : Type) := ExceptT RuleError (StateM TokenStream) α

/-- Sequencing, spelled out: the second computation goes on where the first one stopped, and a
failure of the first one is the failure of both. -/
theorem Reading.bind_apply {α β : Type} (x : Reading α) (f : α → Reading β) (s : TokenStream) :
    (x >>= f) s =
      match x s with
      | (.ok a, s') => f a s'
      | (.error e, s') => (.error e, s') := by
  change (StateT.bind x (ExceptT.bindCont f) : TokenStream → _) s = _
  simp only [StateT.bind, ExceptT.bindCont]
  rcases x s with ⟨_ | a, s'⟩ <;> rfl

/-- The items before the first empty one. -/
def itemsBeforeEnd : List (Option String) → List String
  | some t :: rest => t :: itemsBeforeEnd rest
  | none :: _ => []
  | [] => []

namespace TokenStream

/-- A stream of the given tokens. -/
def ofTokens (tokens : List String) : TokenStream :=
  { items := tokens.map some }

/-- The tokens that are still to come. -/
def remaining (s : TokenStream) : List String :=
  match s.ahead with
  | .unread => itemsBeforeEnd s.items
  | .token t => t :: itemsBeforeEnd s.items
  | .ended => []

@[simp] theorem remaining_ofTokens (tokens : List String) :
    (ofTokens tokens).remaining = tokens := by
  induction tokens with
  | nil => rfl
  | cons t rest ih => simpa [ofTokens, remaining, itemsBeforeEnd] using ih

/-- The next token without taking it, or nothing at the end. -/
def peek (s : TokenStream) : Option String × TokenStream :=
  match s.ahead with
  | .token t => (some t, s)
  | .ended => (none, s)
  | .unread =>
    match s.items with
    | some t :: rest => (some t, { items := rest, ahead := .token t })
    | none :: rest => (none, { items := rest, ahead := .ended })
    | [] => (none, { items := [], ahead := .ended })

/-- Whether no token is left. -/
def atEnd (s : TokenStream) : Bool × TokenStream :=
  (s.peek.1.isNone, s.peek.2)

/-- Takes the next token. -/
def next : Reading String := fun s =>
  match s.peek with
  | (some t, s') => (.ok t, { s' with ahead := .unread })
  | (none, s') => (.error .unexpectedEnd, s')

theorem peek_fst (s : TokenStream) : s.peek.1 = s.remaining.head? := by
  rcases s with ⟨items, _ | _ | _⟩ <;> rcases items with _ | ⟨_ | _, _⟩ <;> rfl

@[simp] theorem remaining_peek (s : TokenStream) : s.peek.2.remaining = s.remaining := by
  rcases s with ⟨items, _ | _ | _⟩ <;> rcases items with _ | ⟨_ | _, _⟩ <;> rfl

@[simp] theorem remaining_atEnd (s : TokenStream) : s.atEnd.2.remaining = s.remaining :=
  remaining_peek s

theorem next_fst (s : TokenStream) :
    (next s).1 = s.remaining.head?.elim (.error .unexpectedEnd) .ok := by
  rcases s with ⟨items, _ | _ | _⟩ <;> rcases items with _ | ⟨_ | _, _⟩ <;> rfl

theorem remaining_next (s : TokenStream) : (next s).2.remaining = s.remaining.tail := by
  rcases s with ⟨items, _ | _ | _⟩ <;> rcases items with _ | ⟨_ | _, _⟩ <;> rfl

/-- Taking a token never adds one. -/
theorem length_remaining_next_le (s : TokenStream) :
    (next s).2.remaining.length ≤ s.remaining.length := by
  rw [remaining_next, List.length_tail]
  omega

/-- A token taken is a token less. -/
theorem length_remaining_next_lt {s s' : TokenStream} {t : String}
    (h : next s = (.ok t, s')) : s'.remaining.length < s.remaining.length := by
  have hfst := next_fst s
  have hsnd := remaining_next s
  rw [h] at hfst hsnd
  cases hr : s.remaining with
  | nil => simp [hr] at hfst
  | cons t' rest =>
    rw [hr] at hsnd
    simp only at hsnd
    simp [hsnd]

/-- If neither part of a computation adds tokens, the whole does not. -/
theorem length_remaining_bind_le {α β : Type} {x : Reading α} {f : α → Reading β}
    (hx : ∀ s, (x s).2.remaining.length ≤ s.remaining.length)
    (hf : ∀ a s, (f a s).2.remaining.length ≤ s.remaining.length) (s : TokenStream) :
    ((x >>= f) s).2.remaining.length ≤ s.remaining.length := by
  rw [Reading.bind_apply]
  have h := hx s
  rcases hxs : x s with ⟨_ | a, s'⟩ <;> rw [hxs] at h
  · exact h
  · exact Nat.le_trans (hf a s') h

/-- All tokens until the end. -/
def symbols (s : TokenStream) : List String × TokenStream :=
  match _h : next s with
  | (.ok t, s') =>
    let (ts, s'') := symbols s'
    (t :: ts, s'')
  | (.error _, s') => ([], s')
termination_by s.remaining.length
decreasing_by exact length_remaining_next_lt _h

end TokenStream

end TapeMachine
