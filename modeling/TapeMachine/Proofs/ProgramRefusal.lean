/-
When tokens are no rules.

A rule is five tokens, of which the fourth is an arrow.  So tokens can fail to be rules
in two ways: a place for an arrow holds another token, or the last rule is cut short.
Where both happen, the first bad arrow is reported, however the tokens go on.

* **`MissesArrow`** — the token in the place for the arrow of a rule is none;
* **`getElem?_flatMap_spelling`** — the tokens that spell rules, by their places;
* **`rules_eq_invalidStep_iff`** — the first bad arrow is reported;
* **`exists_rules_iff`** — what misses no arrow and is not cut short is read as rules;
* **`rules_eq_unexpectedEnd_iff`** — the end comes too soon only where no arrow is missing;
* **`rules_read_or_refused`** — the three ways in which reading rules can end.
-/
import Mathlib.Data.Nat.Find
import TapeMachine.Proofs.ProgramText

namespace TapeMachine

/-- The token in the place for the arrow of the rule in place `k`, if it is no arrow. -/
def MissesArrow (tokens : List String) (k : Nat) (got : String) : Prop :=
  tokens[5 * k + 3]? = some got ∧ got ≠ "->" ∧ got ≠ "<-"

/-- The first token that should be an arrow and is none. -/
def FirstMiss (tokens : List String) (got : String) : Prop :=
  ∃ k, MissesArrow tokens k got ∧ ∀ j < k, ∀ t, ¬MissesArrow tokens j t

variable {tokens rest : List String} {a b c d e got : String} {k : Nat} {rs : List Rule}

theorem Move.ofToken?_eq_none_iff {token : String} :
    Move.ofToken? token = none ↔ token ≠ "->" ∧ token ≠ "<-" := by
  rw [Move.ofToken?]
  by_cases hright : token = "->"
  · simp [hright]
  · by_cases hleft : token = "<-"
    · simp [hleft]
    · simp [hright, hleft]

/-! ### Misses from rule to rule -/

theorem missesArrow_zero :
    MissesArrow (a :: b :: c :: d :: rest) 0 got ↔ got = d ∧ Move.ofToken? d = none := by
  rw [Move.ofToken?_eq_none_iff, MissesArrow]
  constructor
  · rintro ⟨hgot, hne⟩
    obtain rfl : d = got := Option.some.inj hgot
    exact ⟨rfl, hne⟩
  · rintro ⟨rfl, hne⟩
    exact ⟨rfl, hne⟩

theorem missesArrow_succ :
    MissesArrow (a :: b :: c :: d :: e :: rest) (k + 1) got ↔ MissesArrow rest k got := by
  rw [MissesArrow, MissesArrow, show 5 * (k + 1) + 3 = 5 * k + 3 + 5 by omega]
  rfl

/-- A token that misses an arrow stands behind three others. -/
theorem lt_length_of_missesArrow (h : MissesArrow tokens k got) : 5 * k + 3 < tokens.length :=
  (List.getElem?_eq_some_iff.mp h.1).1

theorem not_missesArrow_of_length (h : tokens.length ≤ 3) : ¬MissesArrow tokens k got := by
  intro hmiss
  have := lt_length_of_missesArrow hmiss
  omega

/-- Four tokens have one place for an arrow. -/
theorem missesArrow_four :
    MissesArrow [a, b, c, d] k got ↔ k = 0 ∧ got = d ∧ Move.ofToken? d = none := by
  constructor
  · intro h
    have hlt : 5 * k + 3 < 4 := lt_length_of_missesArrow h
    obtain rfl : k = 0 := by omega
    exact ⟨rfl, missesArrow_zero.mp h⟩
  · rintro ⟨rfl, h⟩
    exact missesArrow_zero.mpr h

/-- A bad arrow in the first rule is the first one. -/
theorem firstMiss_of_bad (hd : Move.ofToken? d = none) :
    FirstMiss (a :: b :: c :: d :: rest) got ↔ got = d := by
  constructor
  · rintro ⟨_ | k, hmiss, hfirst⟩
    · exact (missesArrow_zero.mp hmiss).1
    · exact absurd (missesArrow_zero.mpr ⟨rfl, hd⟩) (hfirst 0 (Nat.succ_pos k) d)
  · rintro rfl
    exact ⟨0, missesArrow_zero.mpr ⟨rfl, hd⟩, fun j hj => absurd hj (Nat.not_lt_zero j)⟩

/-- Behind a rule with a good arrow the search goes on. -/
theorem firstMiss_of_good (hd : Move.ofToken? d ≠ none) :
    FirstMiss (a :: b :: c :: d :: e :: rest) got ↔ FirstMiss rest got := by
  have hzero : ∀ t, ¬MissesArrow (a :: b :: c :: d :: e :: rest) 0 t :=
    fun t h => hd (missesArrow_zero.mp h).2
  constructor
  · rintro ⟨_ | k, hmiss, hfirst⟩
    · exact absurd hmiss (hzero got)
    · refine ⟨k, missesArrow_succ.mp hmiss, fun j hj t ht => ?_⟩
      exact hfirst (j + 1) (Nat.succ_lt_succ hj) t (missesArrow_succ.mpr ht)
  · rintro ⟨k, hmiss, hfirst⟩
    refine ⟨k + 1, missesArrow_succ.mpr hmiss, fun j hj t ht => ?_⟩
    cases j with
    | zero => exact hzero t ht
    | succ j => exact hfirst j (Nat.lt_of_succ_lt_succ hj) t (missesArrow_succ.mp ht)

theorem not_firstMiss_of_length (h : tokens.length ≤ 3) : ¬FirstMiss tokens got :=
  fun ⟨_, hmiss, _⟩ => not_missesArrow_of_length h hmiss

/-- Tokens that are not five or more and not four are at most three. -/
theorem length_le_of_short
    (hfive : ∀ a b c d e rest, tokens = a :: b :: c :: d :: e :: rest → False)
    (hfour : ∀ a b c d, tokens = [a, b, c, d] → False) : tokens.length ≤ 3 := by
  rcases tokens with _ | ⟨a, _ | ⟨b, _ | ⟨c, _ | ⟨d, _ | ⟨e, rest⟩⟩⟩⟩⟩
  · simp
  · simp
  · simp
  · simp
  · exact absurd rfl (hfour a b c d)
  · exact absurd rfl (hfive a b c d e rest)

/-- Reading rules fails with a bad arrow if there is one, and then with the first. -/
theorem rules_eq_invalidStep_iff :
    (TokenFunction.rules tokens).1 = .error (.invalidStep got) ↔ FirstMiss tokens got := by
  fun_induction TokenFunction.rules tokens with
  | case1 => simp [not_firstMiss_of_length]
  | case2 state read write arrow next rest hbad => simp [firstMiss_of_bad hbad, eq_comm]
  | case3 state read write arrow next rest move hgood rs' left hrest ih =>
    rw [hrest] at ih
    rw [firstMiss_of_good (by simp [hgood]), ← ih]
    simp
  | case4 state read write arrow next rest move hgood f left hrest ih =>
    rw [hrest] at ih
    rw [firstMiss_of_good (by simp [hgood]), ← ih]
  | case5 state read write arrow hbad => simp [firstMiss_of_bad hbad, eq_comm]
  | case6 state read write arrow move hgood =>
    have hnone : ¬FirstMiss [state, read, write, arrow] got := by
      rintro ⟨k, hmiss, -⟩
      have hbad := (missesArrow_four.mp hmiss).2.2
      simp [hgood] at hbad
    simp [hnone]
  | case7 tokens h₁ h₂ h₃ =>
    simp [not_firstMiss_of_length (length_le_of_short h₂ h₃)]

/-- The arrow of the second rule is reported, although the tokens end behind it. -/
example : (TokenFunction.rules ["a", "0", "1", "->", "b", "b", "0", "1", "=>"]).1 =
    .error (.invalidStep "=>") :=
  rfl

/-! ### The tokens that spell rules -/

/-- The tokens of a rule stand in five places in a row. -/
theorem getElem?_flatMap_spelling (rs : List Rule) (i : Nat) {j : Nat} (hj : j < 5) :
    (rs.flatMap Rule.spelling)[5 * i + j]? = rs[i]?.bind fun r => r.spelling[j]? := by
  induction rs generalizing i with
  | nil => rfl
  | cons r rest ih =>
    have hlength : r.spelling.length = 5 := rfl
    rw [List.flatMap_cons]
    cases i with
    | zero => rw [List.getElem?_append_left (by omega), Nat.mul_zero, Nat.zero_add]; rfl
    | succ i =>
      rw [List.getElem?_append_right (by omega), hlength,
        show 5 * (i + 1) + j - 5 = 5 * i + j by omega, ih, List.getElem?_cons_succ]

theorem length_flatMap_spelling (rs : List Rule) :
    (rs.flatMap Rule.spelling).length = 5 * rs.length := by
  induction rs with
  | nil => rfl
  | cons r rest ih =>
    have hlength : r.spelling.length = 5 := rfl
    rw [List.flatMap_cons, List.length_append, ih, List.length_cons]
    omega

/-- Rules are spelled by tokens that are five times as many and have those of each rule in its five
places. -/
theorem eq_flatMap_spelling_iff :
    tokens = rs.flatMap Rule.spelling ↔
      tokens.length = 5 * rs.length ∧
        ∀ (i : Nat) (hi : i < rs.length), ∀ j < 5, tokens[5 * i + j]? = rs[i].spelling[j]? := by
  constructor
  · rintro rfl
    refine ⟨length_flatMap_spelling rs, fun i hi j hj => ?_⟩
    rw [getElem?_flatMap_spelling rs i hj, List.getElem?_eq_getElem hi, Option.bind_some]
  · rintro ⟨hlength, hplaces⟩
    refine List.ext_getElem? fun n => ?_
    have hmod : n % 5 < 5 := Nat.mod_lt n (by decide)
    have hdiv : 5 * (n / 5) + n % 5 = n := Nat.div_add_mod n 5
    rw [← hdiv, getElem?_flatMap_spelling rs (n / 5) hmod]
    by_cases hi : n / 5 < rs.length
    · rw [hplaces (n / 5) hi (n % 5) hmod, List.getElem?_eq_getElem hi, Option.bind_some]
    · rw [List.getElem?_eq_none (by omega), List.getElem?_eq_none (by omega), Option.bind_none]

/-- No arrow is missing among the tokens that spell rules. -/
theorem not_missesArrow_spelling : ¬MissesArrow (rs.flatMap Rule.spelling) k got := by
  rintro ⟨hgot, hright, hleft⟩
  rw [getElem?_flatMap_spelling rs k (by decide)] at hgot
  obtain ⟨r, -, hr⟩ := Option.bind_eq_some_iff.mp hgot
  obtain rfl : r.move.arrow = got := Option.some.inj hr
  have hnone := Move.ofToken?_eq_none_iff.mpr ⟨hright, hleft⟩
  simp [Move.ofToken?_arrow] at hnone

/-! ### The three ends of reading rules -/

/-- Tokens end too soon only if the last rule is cut short. -/
theorem length_mod_of_unexpectedEnd
    (h : (TokenFunction.rules tokens).1 = .error .unexpectedEnd) : tokens.length % 5 ≠ 0 := by
  fun_induction TokenFunction.rules tokens with
  | case1 => cases h
  | case2 => cases h
  | case3 => cases h
  | case4 state read write arrow next rest move hgood f left hrest ih =>
    rw [hrest] at ih
    have hmod : rest.length % 5 ≠ 0 := ih h
    simp only [List.length_cons]
    omega
  | case5 => cases h
  | case6 => simp
  | case7 tokens hne h₂ h₃ =>
    have hlength := length_le_of_short h₂ h₃
    have hpos := List.length_pos_iff.mpr hne
    omega

theorem rules_ne_invalidStep (hnone : ∀ k t, ¬MissesArrow tokens k t) :
    (TokenFunction.rules tokens).1 ≠ .error (.invalidStep got) := by
  intro h
  obtain ⟨k, hmiss, -⟩ := rules_eq_invalidStep_iff.mp h
  exact hnone k got hmiss

/-- If an arrow is missing anywhere, then there is a first one. -/
theorem exists_firstMiss (h : MissesArrow tokens k got) : ∃ t, FirstMiss tokens t := by
  classical
  have hmiss : ∃ k t, MissesArrow tokens k t := ⟨k, got, h⟩
  obtain ⟨t, ht⟩ := Nat.find_spec hmiss
  exact ⟨t, Nat.find hmiss, ht, fun j hj t' ht' => Nat.find_min hmiss hj ⟨t', ht'⟩⟩

/-- Tokens that miss no arrow and are not cut short are read as rules, and no others are. -/
theorem exists_rules_iff :
    (∃ rs, (TokenFunction.rules tokens).1 = .ok rs) ↔
      (∀ k t, ¬MissesArrow tokens k t) ∧ tokens.length % 5 = 0 := by
  constructor
  · rintro ⟨rs, hrs⟩
    obtain rfl := rules_eq_ok_iff.mp hrs
    refine ⟨fun k t => not_missesArrow_spelling, ?_⟩
    rw [length_flatMap_spelling]
    omega
  · rintro ⟨hnone, hlength⟩
    cases hresult : (TokenFunction.rules tokens).1 with
    | ok rs => exact ⟨rs, rfl⟩
    | error e =>
      cases e with
      | unexpectedEnd => exact absurd hlength (length_mod_of_unexpectedEnd hresult)
      | invalidStep t => exact absurd hresult (rules_ne_invalidStep hnone)

/-- Tokens end too soon if and only if no arrow is missing and the last rule is cut short. -/
theorem rules_eq_unexpectedEnd_iff :
    (TokenFunction.rules tokens).1 = .error .unexpectedEnd ↔
      (∀ k t, ¬MissesArrow tokens k t) ∧ tokens.length % 5 ≠ 0 := by
  constructor
  · intro h
    refine ⟨fun k t hmiss => ?_, length_mod_of_unexpectedEnd h⟩
    obtain ⟨t', hfirst⟩ := exists_firstMiss hmiss
    rw [rules_eq_invalidStep_iff.mpr hfirst] at h
    cases h
  · rintro ⟨hnone, hlength⟩
    cases hresult : (TokenFunction.rules tokens).1 with
    | ok rs => exact absurd (exists_rules_iff.mp ⟨rs, hresult⟩).2 hlength
    | error e =>
      cases e with
      | unexpectedEnd => rfl
      | invalidStep t => exact absurd hresult (rules_ne_invalidStep hnone)

/-- **Tokens are read as rules unless an arrow is missing or the last rule is cut short.**  The
first token that should be an arrow and is none is reported, however many tokens follow.  If there
is none, then what counts is whether the tokens come in fives: if so, each five of them in a row are
a rule, and otherwise the end comes too soon. -/
theorem rules_read_or_refused (tokens : List String) :
    (∀ got, rulesOfTokens tokens = .error (.invalidStep got) ↔
      ∃ k, MissesArrow tokens k got ∧ ∀ j < k, ∀ t, ¬MissesArrow tokens j t) ∧
    (rulesOfTokens tokens = .error .unexpectedEnd ↔
      (∀ k t, ¬MissesArrow tokens k t) ∧ tokens.length % 5 ≠ 0) ∧
    ((∃ rs, rulesOfTokens tokens = .ok rs) ↔
      (∀ k t, ¬MissesArrow tokens k t) ∧ tokens.length % 5 = 0) ∧
    (∀ rs, rulesOfTokens tokens = .ok rs ↔
      tokens.length = 5 * rs.length ∧
        ∀ (i : Nat) (hi : i < rs.length), ∀ j < 5, tokens[5 * i + j]? = rs[i].spelling[j]?) := by
  rw [rulesOfTokens_eq]
  refine ⟨fun got => rules_eq_invalidStep_iff, rules_eq_unexpectedEnd_iff, exists_rules_iff,
    fun rs => ?_⟩
  rw [rules_eq_ok_iff, eq_flatMap_spelling_iff]

end TapeMachine
