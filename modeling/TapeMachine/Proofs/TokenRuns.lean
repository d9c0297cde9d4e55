/-
The one way to take a text apart.

A gap reaches up to the next character that is no separator, and a token up to the next
one that is, so where each of them ends can be read off the text.  Every text therefore has
only one layout.  Two texts one behind the other have the tokens of both if a separator is
put in between, and otherwise the two tokens that meet become one.

* **`Layout.text_injective`** — two layouts of one text are the same;
* **`takeToken`**, **`nthTaken_eq`** — the tokens, taken from a text one by one;
* **`splitTokens_separator_between`**, **`splitTokens_joined`** — the tokens of two texts one
  behind the other;
* **`tokenize_runs`** — all of this together.
-/
import Mathlib.Data.List.Basic
import TapeMachine.Proofs.TokenLayout

namespace TapeMachine

variable {cs token rest : List Char} {c : Char} {parts parts' : List (String × String)}

/-! ### One layout for a text -/

/-- A run in front of a text is determined by the text, if the text does not carry it on. -/
theorem run_inj {p : Char → Bool} {run run' rest rest' : List Char} (hrun : ∀ c ∈ run, p c = true)
    (hrun' : ∀ c ∈ run', p c = true) (hrest : ∀ c ∈ rest.head?, p c = false)
    (hrest' : ∀ c ∈ rest'.head?, p c = false) (h : run ++ rest = run' ++ rest') :
    run = run' ∧ rest = rest' := by
  obtain ⟨htake, hdrop⟩ := takeWhile_run hrun hrest
  obtain ⟨htake', hdrop'⟩ := takeWhile_run hrun' hrest'
  rw [h] at htake hdrop
  exact ⟨htake.symm.trans htake', hdrop.symm.trans hdrop'⟩

/-- Only where there are no tokens there is no text. -/
theorem KeptApart.eq_nil (h : KeptApart parts)
    (hempty : (parts.flatMap fun p => p.1.toList ++ p.2.toList) = []) : parts = [] := by
  refine List.eq_nil_iff_forall_not_mem.mpr fun p hp => ?_
  have hp' := List.append_eq_nil_iff.mp (List.flatMap_eq_nil_iff.mp hempty p hp)
  exact (h.isToken p hp).toList_ne_nil hp'.1

/-- The tokens and the gaps behind them are determined by the text. -/
theorem KeptApart.unique (h : KeptApart parts) (h' : KeptApart parts')
    (htext : (parts.flatMap fun p => p.1.toList ++ p.2.toList) =
      parts'.flatMap fun p => p.1.toList ++ p.2.toList) : parts = parts' := by
  induction parts generalizing parts' with
  | nil => exact (h'.eq_nil htext.symm).symm
  | cons p rest ih =>
    cases parts' with
    | nil => exact h.eq_nil htext
    | cons p' rest' =>
      rw [List.flatMap_cons, List.flatMap_cons, List.append_assoc, List.append_assoc] at htext
      obtain ⟨htoken, hbehind⟩ := run_inj (p := (!isSeparator ·))
        (fun c hc => by simp [(h.isToken p List.mem_cons_self).2 c hc])
        (fun c hc => by simp [(h'.isToken p' List.mem_cons_self).2 c hc])
        (fun c hc => by simp [h.isSeparator_behind c hc])
        (fun c hc => by simp [h'.isSeparator_behind c hc]) htext
      obtain ⟨hgap, hrest⟩ := run_inj (h.isGap p List.mem_cons_self)
        (h'.isGap p' List.mem_cons_self) h.tail.isSeparator_head_eq_false
        h'.tail.isSeparator_head_eq_false hbehind
      rw [Prod.ext (String.toList_inj.mp htoken) (String.toList_inj.mp hgap),
        ih h.tail h'.tail hrest]

/-- Two layouts of one text are the same. -/
theorem Layout.text_injective : Function.Injective Layout.text := by
  intro l l' h
  have htext := congrArg String.toList h
  rw [l.toList_text, l'.toList_text] at htext
  obtain ⟨hlead, hparts⟩ := run_inj l.isGap_lead l'.isGap_lead l.keptApart.isSeparator_head_eq_false
    l'.keptApart.isSeparator_head_eq_false htext
  have hsame : l.parts = l'.parts := l.keptApart.unique l'.keptApart hparts
  cases l
  cases l'
  rw [Layout.mk.injEq]
  exact ⟨String.toList_inj.mp hlead, hsame⟩

/-! ### Token by token -/

/-- The next token of a text, and the text behind it. -/
def takeToken (cs : List Char) : Option (List Char × List Char) :=
  match cs.dropWhile isSeparator with
  | [] => none
  | c :: cs => some (c :: cs.takeWhile (!isSeparator ·), cs.dropWhile (!isSeparator ·))

/-- What taking tokens from a text, from its start on, gives the `n`-th time, counted from 0. -/
def nthTaken (cs : List Char) : Nat → Option String
  | 0 => (takeToken cs).map fun (token, _) => String.ofList token
  | n + 1 => (takeToken cs).bind fun (_, rest) => nthTaken rest n

theorem splitTokens_of_takeToken (cs : List Char) :
    splitTokens cs = (takeToken cs).elim [] fun (token, rest) => token :: splitTokens rest := by
  fun_induction splitTokens cs with
  | case1 => rfl
  | case2 c cs hc ih =>
    rw [ih, takeToken, takeToken, List.dropWhile_cons_of_pos hc]
  | case3 c cs hc ih =>
    rw [takeToken, List.dropWhile_cons_of_neg hc]
    rfl

/-- The tokens of a text are the ones that can be taken from it, one after the other. -/
theorem nthTaken_eq (text : String) (n : Nat) : nthTaken text.toList n = (tokenize text)[n]? := by
  rw [tokenize]
  generalize text.toList = cs
  induction n generalizing cs with
  | zero =>
    rw [nthTaken, splitTokens_of_takeToken]
    rcases takeToken cs with _ | ⟨token, rest⟩ <;> rfl
  | succ n ih =>
    rw [nthTaken, splitTokens_of_takeToken]
    rcases takeToken cs with _ | ⟨token, rest⟩
    · rfl
    · exact ih rest

/-! ### Two texts -/

variable {behind : List Char}

theorem cons_takeWhile_append_dropWhile (c : Char) (cs : List Char) :
    c :: cs.takeWhile (!isSeparator ·) ++ cs.dropWhile (!isSeparator ·) = c :: cs :=
  congrArg (c :: ·) List.takeWhile_append_dropWhile

/-- The first token is split off as before if what is put behind the text does not carry it on. -/
theorem splitTokens_cons_append (hc : isSeparator c = false)
    (hbehind : ∀ x ∈ (cs.dropWhile (!isSeparator ·) ++ behind).head?, isSeparator x = true) :
    splitTokens (c :: cs ++ behind) =
      (c :: cs.takeWhile (!isSeparator ·)) ::
        splitTokens (cs.dropWhile (!isSeparator ·) ++ behind) := by
  rw [← splitTokens_token_append (List.cons_ne_nil _ _) (isSeparator_of_mem_cons_takeWhile hc)
    hbehind, ← List.append_assoc, cons_takeWhile_append_dropWhile]

/-- A separator between two texts keeps their tokens apart. -/
theorem splitTokens_separator_between (hc : isSeparator c = true) (cs rest : List Char) :
    splitTokens (cs ++ c :: rest) = splitTokens cs ++ splitTokens rest := by
  fun_induction splitTokens cs with
  | case1 => exact splitTokens_separator rest hc
  | case2 c' cs hc' ih => rw [List.cons_append, splitTokens_separator _ hc', ih]
  | case3 c' cs hc' ih =>
    rw [splitTokens_cons_append (by simpa using hc'), ih, List.cons_append]
    intro x hx
    rw [List.head?_append] at hx
    rcases hhead : (cs.dropWhile (!isSeparator ·)).head? with _ | y
    · rw [hhead] at hx
      cases hx
      exact hc
    · rw [hhead] at hx
      cases hx
      exact isSeparator_of_mem_head?_dropWhile hhead

/-- Where two texts meet without a separator, their tokens are joined. -/
theorem splitTokens_joined (hne : cs ≠ []) (hlast : ∀ c ∈ cs.getLast?, isSeparator c = false)
    (htoken : ∀ c ∈ token, isSeparator c = false)
    (hrest : ∀ c ∈ rest.head?, isSeparator c = true) :
    ∃ before last, splitTokens cs = before ++ [last] ∧
      splitTokens (cs ++ (token ++ rest)) = before ++ (last ++ token) :: splitTokens rest := by
  fun_induction splitTokens cs with
  | case1 => exact absurd rfl hne
  | case2 c cs hc ih =>
    rcases cs with _ | ⟨c', cs⟩
    · have hnot := hlast c rfl
      rw [hc] at hnot
      cases hnot
    · rw [List.getLast?_cons_cons] at hlast
      rw [List.cons_append, splitTokens_separator _ hc]
      exact ih (List.cons_ne_nil _ _) hlast
  | case3 c cs hc ih =>
    have hc : isSeparator c = false := by simpa using hc
    have hsplit := cons_takeWhile_append_dropWhile c cs
    rcases hbehind : cs.dropWhile (!isSeparator ·) with _ | ⟨c', cs'⟩
    · -- There is one token, which is carried on.
      rw [hbehind, List.append_nil] at hsplit
      have hall : ∀ x ∈ c :: cs, isSeparator x = false := by
        rw [← hsplit]
        exact isSeparator_of_mem_cons_takeWhile hc
      refine ⟨[], c :: cs, by rw [hsplit, splitTokens_nil]; rfl, ?_⟩
      rw [← List.append_assoc]
      exact splitTokens_token_append (List.cons_ne_nil _ _)
        (List.forall_mem_append.mpr ⟨hall, htoken⟩) hrest
    · -- The last token stands behind the first one.
      have hlast' : ∀ x ∈ (cs.dropWhile (!isSeparator ·)).getLast?, isSeparator x = false := by
        intro x hx
        refine hlast x ?_
        rw [← hsplit]
        exact List.mem_getLast?_append_of_mem_getLast? hx
      obtain ⟨before, last, hcs, hjoined⟩ := ih (by rw [hbehind]; exact List.cons_ne_nil _ _) hlast'
      refine ⟨(c :: cs.takeWhile (!isSeparator ·)) :: before, last, ?_, ?_⟩
      · rw [← hbehind, hcs, List.cons_append]
      · rw [splitTokens_cons_append hc, hjoined, List.cons_append]
        intro x hx
        rw [hbehind] at hx
        exact isSeparator_of_mem_head?_dropWhile (by rw [hbehind]; exact hx)

/-- The tokens of two texts with a separator in between. -/
theorem tokenize_separator_between (a b : String) {c : Char} (hc : isSeparator c = true) :
    tokenize (a ++ String.singleton c ++ b) = tokenize a ++ tokenize b := by
  rw [tokenize, String.toList_append, String.toList_append, String.toList_singleton,
    List.append_assoc, List.singleton_append, splitTokens_separator_between hc, List.map_append]
  rfl

/-- The tokens of two texts without a separator where they meet. -/
theorem tokenize_joined {a b : String} (ha : a ≠ "") (hb : b ≠ "")
    (hlast : ∀ c ∈ a.toList.getLast?, isSeparator c = false)
    (hfirst : ∀ c ∈ b.toList.head?, isSeparator c = false) :
    ∃ before last first behind, tokenize a = before ++ [last] ∧ tokenize b = first :: behind ∧
      tokenize (a ++ b) = before ++ (last ++ first) :: behind := by
  obtain ⟨c, cs, hcs⟩ := List.exists_cons_of_ne_nil (mt String.toList_eq_nil_iff.mp hb)
  have hc : isSeparator c = false := hfirst c (by rw [hcs]; rfl)
  obtain ⟨before, last, hbefore, hjoined⟩ := splitTokens_joined
    (mt String.toList_eq_nil_iff.mp ha) hlast (isSeparator_of_mem_cons_takeWhile hc)
    (fun x hx => isSeparator_of_mem_head?_dropWhile hx)
  rw [cons_takeWhile_append_dropWhile, ← hcs] at hjoined
  refine ⟨before.map String.ofList, String.ofList last,
    String.ofList (c :: cs.takeWhile (!isSeparator ·)),
    (splitTokens (cs.dropWhile (!isSeparator ·))).map String.ofList, ?_, ?_, ?_⟩
  · rw [tokenize, hbefore, List.map_append, List.map_singleton]
  · rw [tokenize, hcs, splitTokens_token cs hc, List.map_cons]
  · rw [tokenize, String.toList_append, hjoined, List.map_append, List.map_cons,
      String.ofList_append]

/-- **Every text is laid out in one way only, and its tokens are the ones of this layout, each time
that they are taken from it.**  Behind a separator a text has its own tokens, and without one its
first token carries on the last one before it. -/
theorem tokenize_runs (a b : String) :
    (∃! l : Layout, l.text = a) ∧
      (∀ l : Layout, l.text = a →
        tokenize a = l.tokens ∧ ∀ n, nthTaken a.toList n = l.tokens[n]?) ∧
      (∀ c, isSeparator c = true →
        tokenize (a ++ String.singleton c ++ b) = tokenize a ++ tokenize b) ∧
      (a ≠ "" → b ≠ "" → (∀ c ∈ a.toList.getLast?, isSeparator c = false) →
        (∀ c ∈ b.toList.head?, isSeparator c = false) →
        ∃ before last first behind, tokenize a = before ++ [last] ∧ tokenize b = first :: behind ∧
          tokenize (a ++ b) = before ++ (last ++ first) :: behind) := by
  obtain ⟨l, hl⟩ := exists_layout a
  refine ⟨⟨l, hl, fun l' hl' => Layout.text_injective (hl'.trans hl.symm)⟩, fun l' hl' => ?_,
    fun c hc => tokenize_separator_between a b hc, tokenize_joined⟩
  have htokens : tokenize a = l'.tokens := by rw [← hl', l'.tokenize_text]
  exact ⟨htokens, fun n => by rw [nthTaken_eq, htokens]⟩

/-- A tab does not end a token, a line feed does, and otherwise the token is carried on. -/
theorem tokenize_runs_of_tab :
    tokenize " x\ty" = ["x\ty"] ∧
      tokenize (" x\ty" ++ String.singleton '\n' ++ "z w") = "x\ty" :: tokenize "z w" ∧
      ∃ first behind, tokenize "z w" = first :: behind ∧
        tokenize (" x\ty" ++ "z w") = ("x\ty" ++ first) :: behind := by
  obtain ⟨-, hlayout, hseparator, hjoined⟩ := tokenize_runs " x\ty" "z w"
  have htokens : tokenize " x\ty" = ["x\ty"] :=
    (hlayout ⟨" ", [("x\ty", "")], by decide, by decide, by decide, by decide⟩ (by decide)).1
  have hlast : ∀ c ∈ (" x\ty").toList.getLast?, isSeparator c = false := by
    rintro _ ⟨⟩
    rfl
  have hfirst : ∀ c ∈ ("z w").toList.head?, isSeparator c = false := by
    rintro _ ⟨⟩
    rfl
  obtain ⟨before, last, first, behind, hbefore, hbehind, hab⟩ :=
    hjoined (by decide) (by decide) hlast hfirst
  obtain ⟨rfl, hsingle⟩ : before = [] ∧ [last] = ["x\ty"] :=
    List.append_inj' (hbefore.symm.trans htokens) rfl
  obtain rfl := List.singleton_inj.mp hsingle
  refine ⟨htokens, ?_, first, behind, hbehind, hab⟩
  rw [hseparator _ (by decide), htokens]
  rfl

end TapeMachine
