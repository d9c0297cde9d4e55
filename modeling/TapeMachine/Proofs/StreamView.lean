/-
A stream seen as the list of the tokens to come.

The lookahead of a stream and the items behind its end cannot be noticed.  Whatever
is read from a stream depends on the tokens to come alone, and what is left of them
afterwards is all that the next reading depends on.

* **`Reading.ActsAs`** — a computation on streams is a function of the tokens to come;
* **`Reading.ActsAs.bind`** — computations in sequence are such functions in sequence;
* **`TokenStream.rule_actsAs`**, **`TokenStream.rules_actsAs`** — reading rules is grouping
  tokens by five.
-/
import TapeMachine.Rule.Reader

namespace TapeMachine

/-- A reading of a list of tokens: the result, and the tokens left over. -/
abbrev TokenFunction (α : Type) := List String → Except RuleError α × List String

/-- A computation on streams does what a function of the tokens to come does. -/
def Reading.ActsAs {α : Type} (x : TokenStream → Except RuleError α × TokenStream)
    (f : TokenFunction α) : Prop :=
  ∀ s, ((x s).1, (x s).2.remaining) = f s.remaining

/-- One function of tokens after the other, unless the first one fails. -/
def TokenFunction.bind {α β : Type} (f : TokenFunction α) (g : α → TokenFunction β) :
    TokenFunction β := fun tokens =>
  match f tokens with
  | (.ok a, rest) => g a rest
  | (.error e, rest) => (.error e, rest)

theorem Reading.ActsAs.bind {α β : Type} {x : Reading α} {y : α → Reading β}
    {f : TokenFunction α} {g : α → TokenFunction β} (hx : ActsAs x f)
    (hy : ∀ a, ActsAs (y a) (g a)) : ActsAs (x >>= y) (f.bind g) := by
  intro s
  have hs := hx s
  rw [Reading.bind_apply, TokenFunction.bind, ← hs]
  rcases x s with ⟨_ | a, s'⟩
  · rfl
  · exact hy a s'

theorem Reading.ActsAs.pure {α : Type} (a : α) :
    ActsAs (Pure.pure a : Reading α) fun tokens => (.ok a, tokens) :=
  fun _ => rfl

namespace TokenFunction

/-- The first token. -/
def next : TokenFunction String
  | [] => (.error .unexpectedEnd, [])
  | t :: rest => (.ok t, rest)

/-- The first token, which must be an arrow and is taken in any case. -/
def move : TokenFunction Move
  | [] => (.error .unexpectedEnd, [])
  | t :: rest =>
    match Move.ofToken? t with
    | some m => (.ok m, rest)
    | none => (.error (.invalidStep t), rest)

/-- The first five tokens as a rule.  A bad arrow is found before the last token is missed. -/
def rule : TokenFunction Rule
  | state :: read :: write :: arrow :: rest =>
    match Move.ofToken? arrow with
    | none => (.error (.invalidStep arrow), rest)
    | some move =>
      match rest with
      | [] => (.error .unexpectedEnd, [])
      | next :: rest => (.ok { state, read, write, move, next }, rest)
  | _ => (.error .unexpectedEnd, [])

/-- All rules, five tokens for each, or the first error. -/
def rules : TokenFunction (List Rule)
  | [] => (.ok [], [])
  | state :: read :: write :: arrow :: next :: rest =>
    match Move.ofToken? arrow with
    | none => (.error (.invalidStep arrow), next :: rest)
    | some move =>
      match rules rest with
      | (.ok rs, left) => (.ok ({ state, read, write, move, next } :: rs), left)
      | (.error e, left) => (.error e, left)
  | [_, _, _, arrow] =>
    match Move.ofToken? arrow with
    | none => (.error (.invalidStep arrow), [])
    | some _ => (.error .unexpectedEnd, [])
  | _ => (.error .unexpectedEnd, [])

/-- As long as there are tokens, a rule is read and then the rest. -/
theorem rules_of_ne_nil {tokens : List String} (h : tokens ≠ []) :
    rules tokens = (rule.bind fun r => rules.bind fun rs rest => (.ok (r :: rs), rest)) tokens := by
  rcases tokens with _ | ⟨state, _ | ⟨read, _ | ⟨write, _ | ⟨arrow, _ | ⟨next, rest⟩⟩⟩⟩⟩
  · exact absurd rfl h
  · rfl
  · rfl
  · rfl
  · rw [rules, TokenFunction.bind, rule]
    cases Move.ofToken? arrow <;> rfl
  · rw [rules, TokenFunction.bind, rule]
    cases Move.ofToken? arrow with
    | none => rfl
    | some move =>
      simp only [TokenFunction.bind]
      rcases rules rest with ⟨_ | rs, left⟩ <;> rfl

end TokenFunction

namespace TokenStream

open Reading

theorem next_actsAs : ActsAs next TokenFunction.next := by
  intro s
  rw [next_fst, remaining_next]
  cases s.remaining <;> rfl

theorem move_actsAs : ActsAs move TokenFunction.move := by
  have h : ActsAs move (TokenFunction.next.bind fun t tokens =>
      match Move.ofToken? t with
      | some m => (.ok m, tokens)
      | none => (.error (.invalidStep t), tokens)) := by
    refine next_actsAs.bind fun t s => ?_
    cases Move.ofToken? t <;> rfl
  intro s
  rw [h s]
  cases s.remaining <;> rfl

theorem rule_actsAs : ActsAs rule TokenFunction.rule := by
  have h : ActsAs rule (TokenFunction.next.bind fun state => TokenFunction.next.bind fun read =>
      TokenFunction.next.bind fun write => TokenFunction.move.bind fun move =>
      TokenFunction.next.bind fun next tokens => (.ok ⟨state, read, write, move, next⟩, tokens)) :=
    next_actsAs.bind fun _ => next_actsAs.bind fun _ => next_actsAs.bind fun _ =>
      move_actsAs.bind fun _ => next_actsAs.bind fun _ => ActsAs.pure _
  intro s
  rw [h s]
  -- With fewer than four tokens the end is met before any arrow.
  rcases s.remaining with _ | ⟨state, _ | ⟨read, _ | ⟨write, _ | ⟨arrow, rest⟩⟩⟩⟩
  · rfl
  · rfl
  · rfl
  · rfl
  · simp only [TokenFunction.bind, TokenFunction.next, TokenFunction.move, TokenFunction.rule]
    cases Move.ofToken? arrow with
    | none => rfl
    | some m => cases rest <;> rfl

/-- Asking for the end tells whether a token is to come, and takes none. -/
theorem remaining_of_atEnd {s s' : TokenStream} {b : Bool} (h : s.atEnd = (b, s')) :
    b = s.remaining.isEmpty ∧ s'.remaining = s.remaining := by
  have hfst : s.atEnd.1 = s.remaining.isEmpty := by
    rw [atEnd, peek_fst]
    cases s.remaining <;> rfl
  have hsnd := remaining_atEnd s
  rw [h] at hfst hsnd
  exact ⟨hfst, hsnd⟩

/-- Before the end, a rule is read from the stream and then the rest. -/
theorem rules_remaining {s s' : TokenStream} (h : s.atEnd = (false, s')) :
    TokenFunction.rules s.remaining =
      match rule s' with
      | (.ok r, s'') =>
        TokenFunction.rules.bind (fun rs rest => (.ok (r :: rs), rest)) s''.remaining
      | (.error e, s'') => (.error e, s''.remaining) := by
  obtain ⟨hempty, hs'⟩ := remaining_of_atEnd h
  have hrule := rule_actsAs s'
  rw [hs'] at hrule
  rw [TokenFunction.rules_of_ne_nil (by simpa using hempty), TokenFunction.bind, ← hrule]
  rcases rule s' with ⟨_ | r, s''⟩ <;> rfl

theorem rules_actsAs : ActsAs rules TokenFunction.rules := by
  intro s
  fun_induction rules s with
  | case1 s s' hend =>
    obtain ⟨hempty, hs'⟩ := remaining_of_atEnd hend
    rw [hs', List.isEmpty_iff.mp hempty.symm]
    rfl
  | case2 s s' hend e s'' hrule =>
    rw [rules_remaining hend, hrule]
  | case3 s s' hend r s'' hrule rs t hrules ih =>
    rw [hrules] at ih
    rw [rules_remaining hend, hrule]
    simp only [TokenFunction.bind, ← ih]
  | case4 s s' hend r s'' hrule e t hrules ih =>
    rw [hrules] at ih
    rw [rules_remaining hend, hrule]
    simp only [TokenFunction.bind, ← ih]

/-- The symbols that are read are the tokens to come. -/
theorem symbols_fst (s : TokenStream) : s.symbols.1 = s.remaining := by
  fun_induction symbols s with
  | case1 s t s' hnext ts s'' hsymbols ih =>
    have hfst := next_fst s
    have hsnd := remaining_next s
    rw [hnext] at hfst hsnd
    rw [hsymbols] at ih
    -- The token taken is the first of those to come, and the rest is read after it.
    cases hr : s.remaining with
    | nil => simp [hr] at hfst
    | cons t' rest =>
      rw [hr] at hfst hsnd
      cases hfst
      exact congrArg (t :: ·) (ih.trans hsnd)
  | case2 s e s' hnext =>
    have hfst := next_fst s
    rw [hnext] at hfst
    cases hr : s.remaining with
    | nil => rfl
    | cons t rest => simp [hr] at hfst

end TokenStream

/-- The symbols of a tape text are its tokens. -/
theorem readTape_eq (text : String) : readTape text = tokenize text := by
  rw [readTape, TokenStream.symbols_fst, TokenStream.remaining_ofTokens]

/-- The rules of a list of tokens are read five tokens at a time. -/
theorem rulesOfTokens_eq (tokens : List String) :
    rulesOfTokens tokens = (TokenFunction.rules tokens).1 := by
  have h := TokenStream.rules_actsAs (TokenStream.ofTokens tokens)
  rw [TokenStream.remaining_ofTokens] at h
  exact congrArg Prod.fst h

end TapeMachine
