/-
One stream, used by many.

Whoever holds a stream may look at its first token, take tokens, and read arrows, rules
and symbols, in any order and again after a failure.  All of them together see one list of
tokens, which only loses tokens from its front: the lookahead never shows, and an item
behind the end is never met.

* **`Operation.onTokens`** — what an operation does to a plain list of tokens;
* **`Operation.inTurn`** — operations one after the other;
* **`Operation.perform_actsAs`**, **`Operation.inTurn_actsAs`** — a stream does to the tokens to
  come what one operation, and many in turn, do to a list;
* **`Operation.Serves`** — which tokens an operation takes, with success and with failure;
* **`Operation.onTokens_serves`**, **`Operation.inTurn_served`** — the tokens taken, put together
  in order, are the tokens that were there;
* **`Operation.inTurn_atEnd`** — at the end of the tokens nothing changes any more;
* **`Operation.stream_is_token_list`** — all of it for one stream from its beginning.

Design notes:

* Operations answer in one type, so that a sequence of them has one list of answers.
-/
import TapeMachine.Proofs.ProgramRefusal

namespace TapeMachine

namespace TokenStream

/-- Reading all symbols leaves no token. -/
theorem remaining_symbols (s : TokenStream) : s.symbols.2.remaining = [] := by
  fun_induction symbols s with
  | case1 s t s' hnext ts s'' hsymbols ih =>
    rw [hsymbols] at ih
    exact ih
  | case2 s e s' hnext =>
    have hfst := next_fst s
    have hsnd := remaining_next s
    rw [hnext] at hfst hsnd
    -- Taking a token fails at the end only.
    cases hr : s.remaining with
    | nil => simpa [hr] using hsnd
    | cons t rest => simp [hr] at hfst

/-- What can be done with a stream.  A symbol is any token, so taking one is taking a token. -/
inductive Operation where
  | peek
  | atEnd
  | next
  | symbol
  | move
  | rule
  | rules
  | symbols
deriving DecidableEq, Repr

/-- What an operation gives back when it does not fail. -/
inductive Answer where
  | ahead (t : Option String)
  | ended (b : Bool)
  | token (t : String)
  | move (m : Move)
  | rule (r : Rule)
  | rules (rs : List Rule)
  | symbols (ts : List String)
deriving DecidableEq, Repr

namespace Operation

open Reading

/-- A computation whose result is given back as an answer. -/
def answering {σ α : Type} (answer : α → Answer) (f : σ → Except RuleError α × σ) :
    σ → Except RuleError Answer × σ :=
  fun s => ((f s).1.map answer, (f s).2)

/-- An operation on a stream. -/
def perform : Operation → TokenStream → Except RuleError Answer × TokenStream
  | .peek => fun s => (.ok (.ahead s.peek.1), s.peek.2)
  | .atEnd => fun s => (.ok (.ended s.atEnd.1), s.atEnd.2)
  | .next => answering .token TokenStream.next
  | .symbol => answering .token TokenStream.next
  | .move => answering .move TokenStream.move
  | .rule => answering .rule TokenStream.rule
  | .rules => answering .rules TokenStream.rules
  | .symbols => fun s => (.ok (.symbols s.symbols.1), s.symbols.2)

/-- The same operation on a list of tokens. -/
def onTokens : Operation → TokenFunction Answer
  | .peek => fun tokens => (.ok (.ahead tokens.head?), tokens)
  | .atEnd => fun tokens => (.ok (.ended tokens.isEmpty), tokens)
  | .next => answering .token TokenFunction.next
  | .symbol => answering .token TokenFunction.next
  | .move => answering .move TokenFunction.move
  | .rule => answering .rule TokenFunction.rule
  | .rules => answering .rules TokenFunction.rules
  | .symbols => fun tokens => (.ok (.symbols tokens), [])

/-- Operations one after the other, whether they fail or not. -/
def inTurn {σ : Type} (serve : Operation → σ → Except RuleError Answer × σ) :
    List Operation → σ → List (Except RuleError Answer) × σ
  | [], s => ([], s)
  | o :: os, s =>
    let (result, s') := serve o s
    let (results, t) := inTurn serve os s'
    (result :: results, t)

/-! ### A stream is the list of its tokens to come -/

theorem answering_actsAs {α : Type} {x : TokenStream → Except RuleError α × TokenStream}
    {f : TokenFunction α} (answer : α → Answer) (h : ActsAs x f) :
    ActsAs (answering answer x) (answering answer f) := by
  intro s
  rw [answering, answering, ← h s]

/-- Step: an operation on a stream does to the tokens to come what it does to a list. -/
theorem perform_actsAs (o : Operation) : ActsAs o.perform o.onTokens := by
  cases o with
  | peek =>
    intro s
    simp only [perform, onTokens, peek_fst, remaining_peek]
  | atEnd =>
    intro s
    have hfst : s.atEnd.1 = s.remaining.isEmpty := (remaining_of_atEnd rfl).1
    simp only [perform, onTokens, hfst, remaining_atEnd]
  | next => exact answering_actsAs .token next_actsAs
  | symbol => exact answering_actsAs .token next_actsAs
  | move => exact answering_actsAs .move move_actsAs
  | rule => exact answering_actsAs .rule rule_actsAs
  | rules => exact answering_actsAs .rules rules_actsAs
  | symbols =>
    intro s
    simp only [perform, onTokens, symbols_fst, remaining_symbols]

/-- Run: so do operations in turn. -/
theorem inTurn_actsAs (os : List Operation) (s : TokenStream) :
    ((inTurn perform os s).1, (inTurn perform os s).2.remaining) =
      inTurn onTokens os s.remaining := by
  induction os generalizing s with
  | nil => rfl
  | cons o os ih =>
    have hstep := perform_actsAs o s
    have hrun := ih (o.perform s).2
    simp only [inTurn, ← hstep, ← hrun]

/-! ### Tokens taken -/

/-- Which tokens an operation takes, what comes of it, and what is left: `Serves o taken result
rest` is about the tokens `taken ++ rest`. -/
inductive Serves :
    Operation → List String → Except RuleError Answer → List String → Prop
  /-- Looking ahead takes nothing. -/
  | peek (rest : List String) : Serves .peek [] (.ok (.ahead rest.head?)) rest
  | atEnd (rest : List String) : Serves .atEnd [] (.ok (.ended rest.isEmpty)) rest
  | next (t : String) (rest : List String) : Serves .next [t] (.ok (.token t)) rest
  | nextMissing : Serves .next [] (.error .unexpectedEnd) []
  | symbol (t : String) (rest : List String) : Serves .symbol [t] (.ok (.token t)) rest
  | symbolMissing : Serves .symbol [] (.error .unexpectedEnd) []
  | move (m : Move) (rest : List String) : Serves .move [m.arrow] (.ok (.move m)) rest
  /-- A token that is no arrow is taken all the same. -/
  | moveBad {t : String} (ht : Move.ofToken? t = none) (rest : List String) :
      Serves .move [t] (.error (.invalidStep t)) rest
  | moveMissing : Serves .move [] (.error .unexpectedEnd) []
  /-- A rule takes its five tokens. -/
  | rule (r : Rule) (rest : List String) : Serves .rule r.spelling (.ok (.rule r)) rest
  /-- A rule with a bad arrow takes four tokens, of which that is the last. -/
  | ruleBad {before : List String} {t : String} (hbefore : before.length = 3)
      (ht : Move.ofToken? t = none) (rest : List String) :
      Serves .rule (before ++ [t]) (.error (.invalidStep t)) rest
  /-- A rule that is cut short takes everything. -/
  | ruleMissing {taken : List String} (hshort : taken.length < 5)
      (harrow : ∀ t, taken[3]? = some t → Move.ofToken? t ≠ none) :
      Serves .rule taken (.error .unexpectedEnd) []
  /-- Reading rules takes everything, -/
  | rules (rs : List Rule) : Serves .rules (rs.flatMap Rule.spelling) (.ok (.rules rs)) []
  /-- or as much as is taken by the first rule that cannot be read and by all before it. -/
  | rulesFailing (rs : List Rule) {taken rest : List String} {e : RuleError} (hne : taken ≠ [])
      (hrule : Serves .rule taken (.error e) rest) :
      Serves .rules (rs.flatMap Rule.spelling ++ taken) (.error e) rest
  | symbols (ts : List String) : Serves .symbols ts (.ok (.symbols ts)) []

/-- Fewer than four tokens are no rule. -/
theorem serves_rule_of_length {tokens : List String} (h : tokens.length ≤ 3) :
    Serves .rule tokens (.error .unexpectedEnd) [] := by
  refine .ruleMissing (by omega) fun t ht => ?_
  rw [List.getElem?_eq_none h] at ht
  cases ht

/-- Four tokens are no rule even if the last one is an arrow. -/
theorem serves_rule_of_four {state read write arrow : String} (h : Move.ofToken? arrow ≠ none) :
    Serves .rule [state, read, write, arrow] (.error .unexpectedEnd) [] := by
  refine .ruleMissing (by simp) fun t ht => ?_
  obtain rfl : arrow = t := Option.some.inj ht
  exact h

theorem serves_rule_of_bad {state read write arrow : String} (h : Move.ofToken? arrow = none)
    (rest : List String) :
    Serves .rule [state, read, write, arrow] (.error (.invalidStep arrow)) rest := by
  have hbefore : [state, read, write].length = 3 := rfl
  exact .ruleBad hbefore h rest

/-- Reading a rule from a list takes tokens from its front. -/
theorem rule_serves (tokens : List String) :
    ∃ taken, Serves .rule taken (onTokens .rule tokens).1 (onTokens .rule tokens).2 ∧
      tokens = taken ++ (onTokens .rule tokens).2 := by
  simp only [onTokens, answering]
  fun_cases TokenFunction.rule tokens with
  | case1 state read write arrow rest hbad =>
    exact ⟨[state, read, write, arrow], serves_rule_of_bad hbad rest, rfl⟩
  | case2 state read write arrow move hgood =>
    exact ⟨[state, read, write, arrow], serves_rule_of_four (by simp [hgood]), rfl⟩
  | case3 state read write arrow move hgood next rest =>
    obtain rfl := Move.ofToken?_eq_some_iff.mp hgood
    exact ⟨_, .rule ⟨state, read, write, move, next⟩ rest, rfl⟩
  | case4 tokens hmore =>
    have hshort : tokens.length ≤ 3 :=
      length_le_of_short (fun a b c d e rest => hmore a b c d (e :: rest))
        (fun a b c d => hmore a b c d [])
    exact ⟨tokens, serves_rule_of_length hshort, by simp⟩

/-- Reading rules without failure leaves nothing. -/
theorem rules_snd_of_ok {tokens left : List String} {rs : List Rule}
    (h : TokenFunction.rules tokens = (.ok rs, left)) : left = [] := by
  fun_induction TokenFunction.rules tokens generalizing rs left with
  | case1 =>
    cases h
    rfl
  | case2 => cases h
  | case3 state read write arrow next rest move hgood rs' left' hrest ih =>
    cases h
    exact ih hrest
  | case4 => cases h
  | case5 => cases h
  | case6 => cases h
  | case7 => cases h

/-- Reading rules fails at a rule that cannot be read, behind others that can. -/
theorem rules_of_error {tokens left : List String} {e : RuleError}
    (h : TokenFunction.rules tokens = (.error e, left)) :
    ∃ (rs : List Rule) (taken : List String), taken ≠ [] ∧
      Serves .rule taken (.error e) left ∧ tokens = rs.flatMap Rule.spelling ++ taken ++ left := by
  fun_induction TokenFunction.rules tokens generalizing e left with
  | case1 => cases h
  | case2 state read write arrow next rest hbad =>
    cases h
    exact ⟨[], [state, read, write, arrow], by simp, serves_rule_of_bad hbad _, rfl⟩
  | case3 => cases h
  | case4 state read write arrow next rest move hgood f left' hrest ih =>
    cases h
    obtain ⟨rs, taken, hne, hserves, htokens⟩ := ih hrest
    obtain rfl := Move.ofToken?_eq_some_iff.mp hgood
    refine ⟨⟨state, read, write, move, next⟩ :: rs, taken, hne, hserves, ?_⟩
    rw [htokens]
    rfl
  | case5 state read write arrow hbad =>
    cases h
    exact ⟨[], [state, read, write, arrow], by simp, serves_rule_of_bad hbad _, rfl⟩
  | case6 state read write arrow move hgood =>
    cases h
    exact ⟨[], [state, read, write, arrow], by simp, serves_rule_of_four (by simp [hgood]), rfl⟩
  | case7 tokens hne h₂ h₃ =>
    cases h
    exact ⟨[], tokens, hne, serves_rule_of_length (length_le_of_short h₂ h₃), by simp⟩

/-- Step: an operation takes tokens from the front of a list, and as many as it should. -/
theorem onTokens_serves (o : Operation) (tokens : List String) :
    ∃ taken, Serves o taken (o.onTokens tokens).1 (o.onTokens tokens).2 ∧
      tokens = taken ++ (o.onTokens tokens).2 := by
  cases o with
  | peek => exact ⟨[], .peek tokens, rfl⟩
  | atEnd => exact ⟨[], .atEnd tokens, rfl⟩
  | next =>
    cases tokens with
    | nil => exact ⟨[], .nextMissing, rfl⟩
    | cons t rest => exact ⟨[t], .next t rest, rfl⟩
  | symbol =>
    cases tokens with
    | nil => exact ⟨[], .symbolMissing, rfl⟩
    | cons t rest => exact ⟨[t], .symbol t rest, rfl⟩
  | move =>
    simp only [onTokens, answering]
    fun_cases TokenFunction.move tokens with
    | case1 => exact ⟨[], .moveMissing, rfl⟩
    | case2 t rest m hgood =>
      obtain rfl := Move.ofToken?_eq_some_iff.mp hgood
      exact ⟨[m.arrow], .move m rest, rfl⟩
    | case3 t rest hbad => exact ⟨[t], .moveBad hbad rest, rfl⟩
  | rule => exact rule_serves tokens
  | rules =>
    rcases hresult : TokenFunction.rules tokens with ⟨e | rs, left⟩
    · obtain ⟨rs, taken, hne, hserves, htokens⟩ := rules_of_error hresult
      simp only [onTokens, answering, hresult]
      exact ⟨rs.flatMap Rule.spelling ++ taken, .rulesFailing rs hne hserves, htokens⟩
    · obtain rfl := rules_snd_of_ok hresult
      have htokens := rules_eq_ok_iff.mp (congrArg Prod.fst hresult)
      simp only [onTokens, answering, hresult]
      exact ⟨rs.flatMap Rule.spelling, .rules rs, by rw [htokens, List.append_nil]⟩
  | symbols => exact ⟨tokens, .symbols tokens, (List.append_nil tokens).symm⟩

/-- Operations in turn, each with the tokens that it takes and with its result. -/
inductive ServedInTurn : List Operation → List (List String) →
    List (Except RuleError Answer) → List String → Prop
  | nil (rest : List String) : ServedInTurn [] [] [] rest
  | cons {o : Operation} {os : List Operation} {taken : List String}
      {takens : List (List String)} {result : Except RuleError Answer}
      {results : List (Except RuleError Answer)} {rest : List String}
      (hfirst : Serves o taken result (takens.flatten ++ rest))
      (hothers : ServedInTurn os takens results rest) :
      ServedInTurn (o :: os) (taken :: takens) (result :: results) rest

/-- Run: operations in turn take one part of the list after the other. -/
theorem inTurn_served (os : List Operation) (tokens : List String) :
    ∃ takens, ServedInTurn os takens (inTurn onTokens os tokens).1 (inTurn onTokens os tokens).2 ∧
      tokens = takens.flatten ++ (inTurn onTokens os tokens).2 := by
  induction os generalizing tokens with
  | nil => exact ⟨[], .nil tokens, rfl⟩
  | cons o os ih =>
    obtain ⟨taken, hserves, htokens⟩ := onTokens_serves o tokens
    obtain ⟨takens, hserved, hrest⟩ := ih (o.onTokens tokens).2
    refine ⟨taken :: takens, .cons ?_ hserved, ?_⟩
    · rw [hrest] at hserves
      exact hserves
    · rw [List.flatten_cons, List.append_assoc]
      exact htokens.trans (congrArg (taken ++ ·) hrest)

/-! ### The end stays the end -/

/-- What an operation gives back at the end of the tokens. -/
def atTheEnd : Operation → Except RuleError Answer
  | .peek => .ok (.ahead none)
  | .atEnd => .ok (.ended true)
  | .next | .symbol | .move | .rule => .error .unexpectedEnd
  | .rules => .ok (.rules [])
  | .symbols => .ok (.symbols [])

/-- Results that show that the end has been met. -/
inductive ShowsEnd : Except RuleError Answer → Prop
  | ahead : ShowsEnd (.ok (.ahead none))
  | ended : ShowsEnd (.ok (.ended true))
  | missing : ShowsEnd (.error .unexpectedEnd)
  | rules (rs : List Rule) : ShowsEnd (.ok (.rules rs))
  | symbols (ts : List String) : ShowsEnd (.ok (.symbols ts))

/-- An operation that shows the end leaves nothing. -/
theorem Serves.rest_eq_nil {o : Operation} {taken rest : List String}
    {result : Except RuleError Answer} (h : Serves o taken result rest) (hend : ShowsEnd result) :
    rest = [] := by
  induction h with
  | peek rest =>
    cases rest with
    | nil => rfl
    | cons => cases hend
  | atEnd rest =>
    cases rest with
    | nil => rfl
    | cons => cases hend
  | nextMissing => rfl
  | symbolMissing => rfl
  | moveMissing => rfl
  | ruleMissing => rfl
  | rules => rfl
  | rulesFailing rs hne hrule ih => exact ih hend
  | symbols => rfl
  | next => cases hend
  | symbol => cases hend
  | move => cases hend
  | moveBad => cases hend
  | rule => cases hend
  | ruleBad => cases hend

theorem remaining_of_showsEnd {o : Operation} {s : TokenStream} (h : ShowsEnd (o.perform s).1) :
    (o.perform s).2.remaining = [] := by
  obtain ⟨taken, hserves, -⟩ := onTokens_serves o s.remaining
  rw [← perform_actsAs o s] at hserves
  exact hserves.rest_eq_nil h

/-- At the end of the tokens nothing changes any more. -/
theorem inTurn_atEnd (os : List Operation) : inTurn onTokens os [] = (os.map atTheEnd, []) := by
  induction os with
  | nil => rfl
  | cons o os ih =>
    have hstep : o.onTokens [] = (o.atTheEnd, []) := by cases o <;> rfl
    simp only [inTurn, hstep, ih, List.map_cons]

/-! ### A stream from its beginning -/

/-- Operations in turn on a new stream of items. -/
def onItems (os : List Operation) (items : List (Option String)) :
    List (Except RuleError Answer) × TokenStream :=
  inTurn perform os { items }

theorem onItems_eq (os : List Operation) (items : List (Option String)) :
    ((onItems os items).1, (onItems os items).2.remaining) =
      inTurn onTokens os (itemsBeforeEnd items) :=
  inTurn_actsAs os { items }

theorem itemsBeforeEnd_append_none (items behind : List (Option String)) :
    itemsBeforeEnd (items ++ none :: behind) = itemsBeforeEnd items := by
  fun_induction itemsBeforeEnd items with
  | case1 t rest ih => exact congrArg (t :: ·) ih
  | case2 => rfl
  | case3 => rfl

/-- **However it is used, a stream is the list of the items before its end.**  Operations in turn
give the same results as on that list.  The tokens that they take, with success or with failure,
are the ones they ask for, and put together in order with those left they are the list.  Once a
result has shown the end, every later one shows it, and what stands behind an empty item shows in no
result. -/
theorem stream_is_token_list (items : List (Option String)) (os : List Operation) :
    ((onItems os items).1, (onItems os items).2.remaining) =
        inTurn onTokens os (itemsBeforeEnd items) ∧
      (∃ takens, ServedInTurn os takens (onItems os items).1 (onItems os items).2.remaining ∧
        itemsBeforeEnd items = takens.flatten ++ (onItems os items).2.remaining) ∧
      (∀ (o : Operation) (later : List Operation), ShowsEnd (o.perform (onItems os items).2).1 →
        (inTurn perform later (o.perform (onItems os items).2).2).1 = later.map atTheEnd) ∧
      ∀ behind, (onItems os (items ++ none :: behind)).1 = (onItems os items).1 := by
  refine ⟨onItems_eq os items, ?_, fun o later hend => ?_, fun behind => ?_⟩
  · have hserved := inTurn_served os (itemsBeforeEnd items)
    rw [← onItems_eq] at hserved
    exact hserved
  · have hlater := inTurn_actsAs later (o.perform (onItems os items).2).2
    rw [remaining_of_showsEnd hend, inTurn_atEnd] at hlater
    exact congrArg Prod.fst hlater
  · have hbehind := onItems_eq os (items ++ none :: behind)
    rw [itemsBeforeEnd_append_none, ← onItems_eq] at hbehind
    exact (Prod.mk.inj hbehind).1

/-- The token behind the empty item is not met, neither by looking ahead nor by reading rules. -/
theorem stream_is_token_list_of_empty_item :
    ShowsEnd (atEnd.perform (onItems [.next] [some "a", none, some "b"]).2).1 ∧
      (inTurn perform [.peek, .rules, .next]
        (atEnd.perform (onItems [.next] [some "a", none, some "b"]).2).2).1 =
          [.ok (.ahead none), .ok (.rules []), .error .unexpectedEnd] := by
  have hend : ShowsEnd (atEnd.perform (onItems [.next] [some "a", none, some "b"]).2).1 := .ended
  exact ⟨hend, (stream_is_token_list [some "a", none, some "b"] [.next]).2.2.1 .atEnd
    [.peek, .rules, .next] hend⟩

end Operation

end TokenStream

end TapeMachine
