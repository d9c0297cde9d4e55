/-
The text of a program and its rules.

A program is written by spelling its rules, five tokens each, and laying the tokens
out in any way.  Reading gives back the rules, and accepts no other text.  An arrow
is told from a symbol by its place alone, so a state may well be called `->`.

* **`rules_eq_ok_iff`** — tokens are read as rules if and only if the rules spell them;
* **`readProgram_eq_ok_iff_tokenize`** — a text is read as rules if and only if its tokens spell
  them;
* **`readProgram_eq_ok_iff`** — a text is read as rules if and only if it is a layout of their
  spelling.
-/
import TapeMachine.Proofs.StreamView
import TapeMachine.Proofs.TokenLayout

namespace TapeMachine

theorem Move.ofToken?_eq_some_iff {token : String} {m : Move} :
    Move.ofToken? token = some m ↔ token = m.arrow := by
  constructor
  · intro h
    rw [Move.ofToken?] at h
    split at h
    · cases h
      assumption
    · split at h
      · cases h
        assumption
      · cases h
  · rintro rfl
    exact Move.ofToken?_arrow m

/-- Tokens are read as rules if and only if the rules spell them. -/
theorem rules_eq_ok_iff {tokens : List String} {rs : List Rule} :
    (TokenFunction.rules tokens).1 = .ok rs ↔ tokens = rs.flatMap Rule.spelling := by
  constructor
  · intro h
    fun_induction TokenFunction.rules tokens generalizing rs with
    | case1 =>
      cases h
      rfl
    | case2 => cases h
    | case3 state read write arrow next rest move hmove rs' left hrest ih =>
      cases h
      have htail : rest = rs'.flatMap Rule.spelling := ih (by rw [hrest])
      rw [List.flatMap_cons, ← htail, Move.ofToken?_eq_some_iff.mp hmove]
      rfl
    | case4 => cases h
    | case5 => cases h
    | case6 => cases h
    | case7 => cases h
  · rintro rfl
    induction rs with
    | nil => rfl
    | cons r rest ih =>
      show (TokenFunction.rules (r.state :: r.read :: r.write :: r.move.arrow :: r.next ::
        rest.flatMap Rule.spelling)).1 = .ok (r :: rest)
      rw [TokenFunction.rules, Move.ofToken?_arrow]
      simp only
      rcases hrest : TokenFunction.rules (rest.flatMap Rule.spelling) with ⟨_ | rs, left⟩ <;>
        rw [hrest] at ih <;> cases ih
      rfl

example : (TokenFunction.rules ["->", "<-", "a", "->", "->"]).1 =
    .ok [⟨"->", "<-", "a", .right, "->"⟩] :=
  rfl

/-- The symbols of a rule that is spelled by tokens are tokens. -/
theorem isToken_of_spelling {l : Layout} {rs : List Rule}
    (h : l.tokens = rs.flatMap Rule.spelling) {r : Rule} (hr : r ∈ rs) {symbol : String}
    (hs : symbol ∈ r.spelling) : IsToken symbol := by
  have hmem : symbol ∈ l.tokens := by
    rw [h]
    exact List.mem_flatMap.mpr ⟨r, hr, hs⟩
  obtain ⟨p, hp, rfl⟩ := List.mem_map.mp hmem
  exact l.isToken p hp

/-- A text is read as rules if and only if its tokens spell the rules. -/
theorem readProgram_eq_ok_iff_tokenize {text : String} {rs : List Rule} :
    readProgram text = .ok rs ↔ tokenize text = rs.flatMap Rule.spelling := by
  rw [readProgram, rulesOfTokens_eq, rules_eq_ok_iff]

/-- The symbols of rules that have been read are tokens. -/
theorem isToken_of_readProgram {text : String} {rs : List Rule} (h : readProgram text = .ok rs)
    {r : Rule} (hr : r ∈ rs) {symbol : String} (hs : symbol ∈ r.spelling) : IsToken symbol := by
  have hmem : symbol ∈ tokenize text := by
    rw [readProgram_eq_ok_iff_tokenize.mp h]
    exact List.mem_flatMap.mpr ⟨r, hr, hs⟩
  exact isToken_of_mem_tokenize hmem

/-- **A program text is read as rules if and only if it is a layout of their spelling.**  From left
to right: nothing but a layout is accepted, and no token of it is dropped, joined, doubled or moved.
From right to left: rules whose symbols can be written at all are read back from every layout. -/
theorem readProgram_eq_ok_iff (text : String) (rules : List Rule) :
    readProgram text = .ok rules ↔
      (∀ r ∈ rules, IsToken r.state ∧ IsToken r.read ∧ IsToken r.write ∧ IsToken r.next) ∧
        ∃ l : Layout, l.tokens = rules.flatMap Rule.spelling ∧ l.text = text := by
  rw [readProgram, rulesOfTokens_eq, rules_eq_ok_iff, tokenize_eq_iff]
  constructor
  · rintro ⟨l, hl, htext⟩
    refine ⟨fun r hr => ⟨?_, ?_, ?_, ?_⟩, l, hl, htext⟩ <;>
      exact isToken_of_spelling hl hr (by simp [Rule.spelling])
  · exact fun h => h.2

end TapeMachine
