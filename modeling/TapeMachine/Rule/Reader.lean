/-
Reading rule tables and tapes.

A rule table is a flat run of five-token rules `STATE READ WRITE (-> | <-) NEXT`,
and a tape is a flat run of symbols.  Both are read from one stream of tokens, so
the lines of the file mean nothing.

* **`TokenStream.rule`** — one rule: five tokens, of which the fourth is an arrow;
* **`TokenStream.rules`** — rules until the tokens run out or one is malformed;
* **`readProgram`**, **`readTape`** — the same on text.
-/
import TapeMachine.Rule
import TapeMachine.Token
import TapeMachine.Token.Stream

namespace TapeMachine

namespace TokenStream

/-- One arrow.  A token of another kind is taken all the same. -/
def move : Reading Move := do
  let token ← next
  match Move.ofToken? token with
  | some m => pure m
  | none => throw (.invalidStep token)

/-- One rule. -/
def rule : Reading Rule := do
  let state ← next
  let read ← next
  let write ← next
  let move ← move
  let next ← next
  pure { state, read, write, move, next }

/-- Reading an arrow never adds a token. -/
theorem length_remaining_move_le (s : TokenStream) :
    (move s).2.remaining.length ≤ s.remaining.length := by
  refine length_remaining_bind_le length_remaining_next_le (fun token s => ?_) s
  cases Move.ofToken? token <;> exact Nat.le_refl _

/-- A rule that was read took at least one token. -/
theorem length_remaining_rule_lt {s s' : TokenStream} {r : Rule}
    (h : rule s = (.ok r, s')) : s'.remaining.length < s.remaining.length := by
  rw [rule, Reading.bind_apply] at h
  rcases hnext : next s with ⟨_ | state, s₁⟩ <;> rw [hnext] at h
  · cases h
  · have hlt := length_remaining_next_lt hnext
    have hle := length_remaining_bind_le length_remaining_next_le (fun read =>
      length_remaining_bind_le length_remaining_next_le (fun write =>
        length_remaining_bind_le length_remaining_move_le (fun move =>
          length_remaining_bind_le length_remaining_next_le (fun next s =>
            Nat.le_of_eq (congrArg (fun p => (p.2 : TokenStream).remaining.length)
              (rfl : (pure { state, read, write, move, next } : Reading Rule) s = (.ok _, s)))))))
      s₁
    simp only at h
    rw [h] at hle
    exact Nat.lt_of_le_of_lt hle hlt

/-- All rules until the tokens run out, or the first error. -/
def rules (s : TokenStream) : Except RuleError (List Rule) × TokenStream :=
  match _hend : s.atEnd with
  | (true, s') => (.ok [], s')
  | (false, s') =>
    match _hrule : rule s' with
    | (.error e, s'') => (.error e, s'')
    | (.ok r, s'') =>
      match rules s'' with
      | (.ok rs, t) => (.ok (r :: rs), t)
      | (.error e, t) => (.error e, t)
termination_by s.remaining.length
decreasing_by
  have h₁ := length_remaining_rule_lt _hrule
  have h₂ := remaining_atEnd s
  rw [_hend] at h₂
  simp only at h₂
  rw [← h₂]
  exact h₁

end TokenStream

/-- The rules that a list of tokens spells. -/
def rulesOfTokens (tokens : List String) : Except RuleError (List Rule) :=
  (TokenStream.ofTokens tokens).rules.1

/-- The rules of a program text, in the order of the file. -/
def readProgram (text : String) : Except RuleError (List Rule) :=
  rulesOfTokens (tokenize text)

/-- The symbols of a tape text, from left to right.  There may be none. -/
def readTape (text : String) : List String :=
  (TokenStream.ofTokens (tokenize text)).symbols.1

end TapeMachine
