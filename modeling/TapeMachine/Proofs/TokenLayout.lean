/-
Layouts: the ways to write a row of tokens as text.

A layout writes tokens one after the other, with a gap in front, a gap behind, and
gaps in between that are not empty.  The tokens of a text are the ones that it lays
out, and every text lays out some.

* **`Layout`** — tokens and gaps in turn, with the conditions that keep tokens apart;
* **`Layout.tokenize_text`** — the tokens of a laid out text;
* **`exists_layout`** — every text is laid out somehow;
* **`tokenize_eq_iff`** — so a text has exactly the tokens that it is a layout of.
-/
import TapeMachine.Token

namespace TapeMachine

/-- A run of separators, which may be empty. -/
def IsGap (text : String) : Prop :=
  ∀ c ∈ text.toList, isSeparator c = true

/-- A text that can stand as one token. -/
def IsToken (text : String) : Prop :=
  text ≠ "" ∧ ∀ c ∈ text.toList, isSeparator c = false

-- The characters of the text are gone through, never all characters that there are.
instance (text : String) : Decidable (IsGap text) :=
  List.decidableBAll (fun c => isSeparator c = true) text.toList

instance (text : String) : Decidable (IsToken text) :=
  have : Decidable (∀ c ∈ text.toList, isSeparator c = false) := List.decidableBAll _ _
  inferInstanceAs (Decidable (_ ∧ _))

theorem IsToken.toList_ne_nil {token : String} (h : IsToken token) : token.toList ≠ [] :=
  mt String.toList_eq_nil_iff.mp h.1

/-- A token begins with a character that is no separator. -/
theorem IsToken.exists_cons {token : String} (h : IsToken token) :
    ∃ c cs, token.toList = c :: cs ∧ isSeparator c = false := by
  obtain ⟨c, cs, hcs⟩ := List.exists_cons_of_ne_nil h.toList_ne_nil
  exact ⟨c, cs, hcs, h.2 c (by rw [hcs]; exact List.mem_cons_self)⟩

/-- A text laid out as tokens and gaps. -/
structure Layout where
  /-- The gap before the first token. -/
  lead : String
  /-- The tokens, each with the gap behind it. -/
  parts : List (String × String)
  isGap_lead : IsGap lead
  isToken : ∀ p ∈ parts, IsToken p.1
  isGap : ∀ p ∈ parts, IsGap p.2
  /-- Only the last gap may be empty. -/
  gap_ne : ∀ p ∈ parts.dropLast, p.2 ≠ ""

/-- Tokens with the gaps behind them, of which only the last one may be empty. -/
structure KeptApart (parts : List (String × String)) : Prop where
  isToken : ∀ p ∈ parts, IsToken p.1
  isGap : ∀ p ∈ parts, IsGap p.2
  gap_ne : ∀ p ∈ parts.dropLast, p.2 ≠ ""

theorem Layout.keptApart (l : Layout) : KeptApart l.parts :=
  ⟨l.isToken, l.isGap, l.gap_ne⟩

/-! ### Runs of characters -/

variable {cs gap token : List Char} {c : Char}

/-- A run is as long as it can be if what follows does not carry it on. -/
theorem takeWhile_run {p : Char → Bool} {run rest : List Char} (hrun : ∀ c ∈ run, p c = true)
    (hrest : ∀ c ∈ rest.head?, p c = false) :
    (run ++ rest).takeWhile p = run ∧ (run ++ rest).dropWhile p = rest := by
  have hstop : rest.takeWhile p = [] ∧ rest.dropWhile p = rest := by
    cases rest with
    | nil => exact ⟨rfl, rfl⟩
    | cons c rest => simp [hrest c rfl]
  rw [List.takeWhile_append_of_pos hrun, List.dropWhile_append_of_pos hrun, hstop.1, hstop.2,
    List.append_nil]
  exact ⟨rfl, rfl⟩

/-- A token that is taken as long as possible has no separator in it. -/
theorem isSeparator_of_mem_cons_takeWhile (hc : isSeparator c = false) :
    ∀ c' ∈ c :: cs.takeWhile (!isSeparator ·), isSeparator c' = false := by
  refine List.forall_mem_cons.mpr ⟨hc, fun c' hc' => ?_⟩
  simpa using List.all_eq_true.mp List.all_takeWhile c' hc'

/-- What is left then begins with a separator. -/
theorem isSeparator_of_mem_head?_dropWhile (h : c ∈ (cs.dropWhile (!isSeparator ·)).head?) :
    isSeparator c = true := by
  have hnot := List.head?_dropWhile_not (!isSeparator ·) cs
  rw [Option.mem_def.mp h] at hnot
  simpa using hnot

/-! ### From a layout to its tokens -/

theorem splitTokens_gap_append (h : ∀ c ∈ gap, isSeparator c = true) (cs : List Char) :
    splitTokens (gap ++ cs) = splitTokens cs := by
  induction gap with
  | nil => rfl
  | cons c gap ih =>
    rw [List.cons_append, splitTokens_separator _ (h c List.mem_cons_self)]
    exact ih fun c' hc' => h c' (List.mem_cons_of_mem c hc')

/-- A token in front is split off if it cannot be carried on by what follows. -/
theorem splitTokens_token_append (hne : token ≠ []) (h : ∀ c ∈ token, isSeparator c = false)
    (hcs : ∀ c ∈ cs.head?, isSeparator c = true) :
    splitTokens (token ++ cs) = token :: splitTokens cs := by
  obtain ⟨c, rest, rfl⟩ := List.exists_cons_of_ne_nil hne
  obtain ⟨htake, hdrop⟩ := @takeWhile_run (!isSeparator ·) rest cs
    (fun c' hc' => by simp [h c' (List.mem_cons_of_mem c hc')]) (fun c' hc' => by simp [hcs c' hc'])
  rw [List.cons_append, splitTokens_token _ (h c List.mem_cons_self), htake, hdrop]

namespace KeptApart

variable {p : String × String} {rest : List (String × String)}

theorem tail (h : KeptApart (p :: rest)) : KeptApart rest where
  isToken q hq := h.isToken q (List.mem_cons_of_mem p hq)
  isGap q hq := h.isGap q (List.mem_cons_of_mem p hq)
  gap_ne q hq := by
    cases rest with
    | nil => cases hq
    | cons q' rest => exact h.gap_ne q (List.mem_cons_of_mem p hq)

/-- A token is not carried on by what stands behind it. -/
theorem isSeparator_behind (h : KeptApart (p :: rest)) :
    ∀ c ∈ (p.2.toList ++ rest.flatMap fun p => p.1.toList ++ p.2.toList).head?,
      isSeparator c = true := by
  intro c hc
  cases hgap : p.2.toList with
  | nil =>
    -- An empty gap stands behind the last token only.
    cases rest with
    | nil =>
      rw [hgap] at hc
      cases hc
    | cons q rest =>
      exact absurd (String.toList_eq_nil_iff.mp hgap) (h.gap_ne p List.mem_cons_self)
  | cons c' cs =>
    rw [hgap] at hc
    cases hc
    exact h.isGap p List.mem_cons_self c (by rw [hgap]; exact List.mem_cons_self)

/-- A layout without its first gap begins with a token. -/
theorem isSeparator_head_eq_false {parts : List (String × String)} (h : KeptApart parts) :
    ∀ c ∈ (parts.flatMap fun p => p.1.toList ++ p.2.toList).head?, isSeparator c = false := by
  intro c hc
  cases parts with
  | nil => cases hc
  | cons p rest =>
    obtain ⟨c', cs, hcs, hc'⟩ := (h.isToken p List.mem_cons_self).exists_cons
    rw [List.flatMap_cons, hcs] at hc
    cases hc
    exact hc'

end KeptApart

/-- Tokens that are kept apart by gaps are split where they should be. -/
theorem splitTokens_parts {parts : List (String × String)} (h : KeptApart parts) :
    splitTokens (parts.flatMap fun p => p.1.toList ++ p.2.toList) =
      parts.map fun p => p.1.toList := by
  induction parts with
  | nil => exact splitTokens_nil
  | cons p rest ih =>
    have hp := h.isToken p List.mem_cons_self
    rw [List.flatMap_cons, List.append_assoc,
      splitTokens_token_append hp.toList_ne_nil hp.2 h.isSeparator_behind,
      splitTokens_gap_append (h.isGap p List.mem_cons_self), ih h.tail, List.map_cons]

namespace Layout

/-- The text that is laid out. -/
def text (l : Layout) : String :=
  l.lead ++ String.join (l.parts.map fun p => p.1 ++ p.2)

/-- The tokens, in order. -/
def tokens (l : Layout) : List String :=
  l.parts.map Prod.fst

theorem toList_text (l : Layout) :
    l.text.toList = l.lead.toList ++ l.parts.flatMap fun p => p.1.toList ++ p.2.toList := by
  simp only [text, String.toList_append, String.toList_join, List.flatMap_map]

/-- A text that is laid out has the tokens of its layout. -/
theorem tokenize_text (l : Layout) : tokenize l.text = l.tokens := by
  rw [tokenize, toList_text, splitTokens_gap_append l.isGap_lead,
    splitTokens_parts l.keptApart, List.map_map, tokens]
  exact List.map_congr_left fun p _ => String.ofList_toList

/-! ### From a text to its layout -/

/-- The layout of no text at all. -/
def empty : Layout :=
  ⟨"", [], by simp [IsGap], by simp, by simp, by simp⟩

/-- One more separator in front. -/
def separatorCons (c : Char) (hc : isSeparator c = true) (l : Layout) : Layout where
  lead := String.ofList (c :: l.lead.toList)
  parts := l.parts
  isGap_lead := by
    rw [IsGap, String.toList_ofList]
    exact List.forall_mem_cons.mpr ⟨hc, l.isGap_lead⟩
  isToken := l.isToken
  isGap := l.isGap
  gap_ne := l.gap_ne

/-- One more token in front, which a gap keeps apart from the next one. -/
def tokenCons (token : String) (htoken : IsToken token) (l : Layout)
    (hl : l.lead = "" → l.parts = []) : Layout where
  lead := ""
  parts := (token, l.lead) :: l.parts
  isGap_lead := by simp [IsGap]
  isToken := List.forall_mem_cons.mpr ⟨htoken, l.isToken⟩
  isGap := List.forall_mem_cons.mpr ⟨l.isGap_lead, l.isGap⟩
  gap_ne := by
    cases hparts : l.parts with
    | nil => simp
    | cons q rest =>
      rw [List.dropLast_cons_cons, ← hparts]
      exact List.forall_mem_cons.mpr ⟨fun h => by simp [hl h] at hparts, l.gap_ne⟩

theorem toList_text_separatorCons {c : Char} (hc : isSeparator c = true) (l : Layout) :
    (separatorCons c hc l).text.toList = c :: l.text.toList := by
  rw [toList_text, toList_text, separatorCons, String.toList_ofList, List.cons_append]

theorem toList_text_tokenCons {token : String} (htoken : IsToken token) (l : Layout)
    (hl : l.lead = "" → l.parts = []) :
    (tokenCons token htoken l hl).text.toList = token.toList ++ l.text.toList := by
  rw [toList_text, toList_text, tokenCons, List.flatMap_cons, List.append_assoc]
  rfl

/-- A layout of a text that does not begin with a token. -/
theorem parts_eq_nil {l : Layout} (hhead : ∀ c ∈ l.text.toList.head?, isSeparator c = true)
    (hlead : l.lead = "") : l.parts = [] := by
  cases hparts : l.parts with
  | nil => rfl
  | cons p rest =>
    have hp := l.isToken p (by rw [hparts]; exact List.mem_cons_self)
    obtain ⟨c, cs, hcs, hc⟩ := hp.exists_cons
    -- The text would begin with the first character of that token.
    have htrue := hhead c (by rw [toList_text, hlead, hparts, List.flatMap_cons, hcs]; rfl)
    rw [hc] at htrue
    cases htrue

end Layout

/-- Every text lays out its tokens. -/
theorem exists_layout (text : String) : ∃ l : Layout, l.text = text := by
  suffices h : ∀ cs : List Char, ∃ l : Layout, l.text.toList = cs by
    obtain ⟨l, hl⟩ := h text.toList
    exact ⟨l, String.toList_inj.mp hl⟩
  intro cs
  fun_induction splitTokens cs with
  | case1 => exact ⟨Layout.empty, by simp [Layout.toList_text, Layout.empty]⟩
  | case2 c cs hc ih =>
    obtain ⟨l, hl⟩ := ih
    exact ⟨Layout.separatorCons c hc l, by rw [Layout.toList_text_separatorCons, hl]⟩
  | case3 c cs hc ih =>
    obtain ⟨l, hl⟩ := ih
    have htoken : IsToken (String.ofList (c :: cs.takeWhile (!isSeparator ·))) := by
      refine ⟨by simp, ?_⟩
      rw [String.toList_ofList]
      exact isSeparator_of_mem_cons_takeWhile (by simpa using hc)
    have hhead : ∀ c ∈ l.text.toList.head?, isSeparator c = true := by
      intro c' hc'
      rw [hl] at hc'
      exact isSeparator_of_mem_head?_dropWhile hc'
    refine ⟨Layout.tokenCons _ htoken l (Layout.parts_eq_nil hhead), ?_⟩
    rw [Layout.toList_text_tokenCons, hl, String.toList_ofList, List.cons_append,
      List.takeWhile_append_dropWhile]

/-- A text has exactly the tokens that it lays out. -/
theorem tokenize_eq_iff {text : String} {tokens : List String} :
    tokenize text = tokens ↔ ∃ l : Layout, l.tokens = tokens ∧ l.text = text := by
  constructor
  · intro h
    obtain ⟨l, hl⟩ := exists_layout text
    exact ⟨l, by rw [← h, ← hl, l.tokenize_text], hl⟩
  · rintro ⟨l, rfl, rfl⟩
    exact l.tokenize_text

/-- The tokens of a text can stand as tokens. -/
theorem isToken_of_mem_tokenize {text token : String} (h : token ∈ tokenize text) :
    IsToken token := by
  obtain ⟨l, rfl⟩ := exists_layout text
  rw [l.tokenize_text] at h
  obtain ⟨p, hp, rfl⟩ := List.mem_map.mp h
  exact l.isToken p hp

end TapeMachine
