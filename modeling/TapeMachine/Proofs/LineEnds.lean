/-
Line ends and tokens.

A text is respelled by giving each of its line feeds a line end of its choice.  Reading
makes the line ends uniform again, but need not give back the text: a `CR` that was chosen
for one line feed and the `LF` that was chosen for the next are read as one.  What is kept
is the text with its runs of line feeds squeezed to one, and so are the tokens.

* **`respell`** — a text with other line ends;
* **`squeeze`** — a text with single line feeds;
* **`squeeze_normalizeNewlines`** — what reading makes of a text that was respelled;
* **`tokenize_eq_of_squeeze`** — the tokens depend on no more than that;
* **`decodeText_encodeWith`** — a file with other line ends.
-/
import TapeMachine.Files.Source
import TapeMachine.Proofs.Utf8Text
import TapeMachine.Rule.Reader

namespace TapeMachine

/-! ### Other line ends -/

/-- A way to end a line. -/
inductive LineEnd where
  | lf
  | crlf
  | cr
deriving DecidableEq, Repr

def LineEnd.chars : LineEnd → List Char
  | .lf => ['\n']
  | .crlf => ['\r', '\n']
  | .cr => ['\r']

/-- A text with the line ends of a list in the place of its line feeds, one after the other.  When
the list is at its end, line feeds stay. -/
def respell (ends : List LineEnd) : List Char → List Char
  | [] => []
  | c :: rest =>
    if c = '\n' then (ends.headD .lf).chars ++ respell ends.tail rest else c :: respell ends rest

/-- A text without the line feeds that another one follows. -/
def squeeze : List Char → List Char
  | [] => []
  | c :: rest => if c = '\n' ∧ rest.head? = some '\n' then squeeze rest else c :: squeeze rest

variable {s t : List Char} {c : Char}

/-! ### Squeezing -/

theorem head?_squeeze (s : List Char) : (squeeze s).head? = s.head? := by
  induction s with
  | nil => rfl
  | cons c rest ih =>
    rw [squeeze]
    split
    · next h => rw [ih, h.1, h.2, List.head?_cons]
    · rfl

/-- What is not a line feed stays. -/
theorem squeeze_cons (h : c ≠ '\n') (s : List Char) : squeeze (c :: s) = c :: squeeze s := by
  rw [squeeze, if_neg fun hc => h hc.1]

theorem squeeze_cons_congr (c : Char) (h : squeeze s = squeeze t) :
    squeeze (c :: s) = squeeze (c :: t) := by
  have hhead : s.head? = t.head? := by rw [← head?_squeeze s, h, head?_squeeze t]
  rw [squeeze, squeeze, hhead, h]

theorem squeeze_newlines (s : List Char) :
    squeeze ('\n' :: '\n' :: s) = squeeze ('\n' :: s) :=
  if_pos ⟨rfl, rfl⟩

/-- A text that is not empty starts with the same character when it is squeezed. -/
theorem exists_squeeze_cons (c : Char) (s : List Char) : ∃ t, squeeze (c :: s) = c :: t := by
  have hhead := head?_squeeze (c :: s)
  rcases hsqueeze : squeeze (c :: s) with _ | ⟨d, t⟩ <;> rw [hsqueeze] at hhead <;> cases hhead
  exact ⟨t, rfl⟩

/-- What a text does not start with, it does not start with when it is squeezed. -/
theorem squeeze_ne_cons (h : ∀ rest, s ≠ c :: rest) (t : List Char) : squeeze s ≠ c :: t := by
  intro hsqueeze
  have hhead := head?_squeeze s
  rw [hsqueeze] at hhead
  rcases s with _ | ⟨d, rest⟩ <;> cases hhead
  exact h rest rfl

/-- The characters at the start that have a property that line feeds have not. -/
theorem takeWhile_squeeze {p : Char → Bool} (hp : p '\n' = false) (s : List Char) :
    (squeeze s).takeWhile p = s.takeWhile p := by
  induction s with
  | nil => rfl
  | cons c rest ih =>
    by_cases hc : c = '\n'
    · obtain ⟨t, ht⟩ := exists_squeeze_cons c rest
      have hpc : ¬p c = true := by rw [hc, hp]; exact Bool.false_ne_true
      rw [ht, List.takeWhile_cons_of_neg hpc, List.takeWhile_cons_of_neg hpc]
    · rw [squeeze_cons hc, List.takeWhile_cons, List.takeWhile_cons, ih]

/-- What follows the characters at the start that have a property. -/
theorem dropWhile_squeeze (p : Char → Bool) (s : List Char) :
    (squeeze s).dropWhile p = squeeze (s.dropWhile p) := by
  induction s with
  | nil => rfl
  | cons c rest ih =>
    by_cases hpc : p c = true
    · rw [List.dropWhile_cons_of_pos hpc, ← ih, squeeze]
      split
      · rfl
      · rw [List.dropWhile_cons_of_pos hpc]
    · obtain ⟨t, ht⟩ := exists_squeeze_cons c rest
      rw [List.dropWhile_cons_of_neg hpc, ht, List.dropWhile_cons_of_neg hpc]

/-! ### Uniform line ends -/

open Text

/-- What was read first stands in front. -/
theorem normalizeNewlinesFrom_append (done earlier s : List Char) :
    normalizeNewlinesFrom (done ++ earlier) s =
      earlier.reverse ++ normalizeNewlinesFrom done s := by
  fun_induction normalizeNewlinesFrom done s with
  | case1 done => rw [normalizeNewlinesFrom, List.reverse_append]
  | case2 done rest ih =>
    rw [normalizeNewlinesFrom]
    exact ih
  | case3 done rest h ih =>
    rw [normalizeNewlinesFrom]
    · exact ih
    · exact h
  | case4 done c rest h h' ih =>
    rw [normalizeNewlinesFrom]
    · exact ih
    · exact h
    · exact h'

theorem normalizeNewlinesFrom_singleton (c : Char) (s : List Char) :
    normalizeNewlinesFrom [c] s = c :: normalizeNewlines s :=
  normalizeNewlinesFrom_append [] [c] s

theorem normalizeNewlines_crlf (s : List Char) :
    normalizeNewlines ('\r' :: '\n' :: s) = '\n' :: normalizeNewlines s :=
  normalizeNewlinesFrom_singleton '\n' s

theorem normalizeNewlines_cr (h : ∀ rest, s ≠ '\n' :: rest) :
    normalizeNewlines ('\r' :: s) = '\n' :: normalizeNewlines s := by
  rw [normalizeNewlines, normalizeNewlinesFrom]
  · exact normalizeNewlinesFrom_singleton '\n' s
  · exact h

theorem normalizeNewlines_cons (h : c ≠ '\r') (s : List Char) :
    normalizeNewlines (c :: s) = c :: normalizeNewlines s := by
  rw [normalizeNewlines, normalizeNewlinesFrom]
  · exact normalizeNewlinesFrom_singleton c s
  · exact fun _ hc => absurd hc h
  · exact h

/-- Without `CR` there is nothing to make uniform. -/
theorem normalizeNewlines_eq_self (h : '\r' ∉ s) : normalizeNewlines s = s := by
  induction s with
  | nil => rfl
  | cons c rest ih =>
    rw [List.mem_cons, not_or] at h
    rw [normalizeNewlines_cons (Ne.symm h.1), ih h.2]

/-- Every line end is read as a line feed, but for a lone `CR` in front of one: the two are read as
one, and squeezing would have done the same. -/
theorem squeeze_normalizeNewlines_chars (e : LineEnd) (s : List Char) :
    squeeze (normalizeNewlines (e.chars ++ s)) = squeeze ('\n' :: normalizeNewlines s) := by
  cases e with
  | lf => exact congrArg squeeze (normalizeNewlines_cons (by decide) s)
  | crlf => exact congrArg squeeze (normalizeNewlines_crlf s)
  | cr =>
    show squeeze (normalizeNewlines ('\r' :: s)) = _
    by_cases h : ∃ rest, s = '\n' :: rest
    · obtain ⟨rest, rfl⟩ := h
      rw [normalizeNewlines_crlf, normalizeNewlines_cons (by decide), squeeze_newlines]
    · rw [normalizeNewlines_cr fun rest hrest => h ⟨rest, hrest⟩]

/-- Reading a text that was respelled gives it back up to runs of line feeds. -/
theorem squeeze_normalizeNewlines (hs : '\r' ∉ s) (ends : List LineEnd) :
    squeeze (normalizeNewlines (respell ends s)) = squeeze s := by
  induction s generalizing ends with
  | nil => rfl
  | cons c rest ih =>
    rw [List.mem_cons, not_or] at hs
    rw [respell]
    split
    · next hc =>
      rw [squeeze_normalizeNewlines_chars, hc]
      exact squeeze_cons_congr '\n' (ih hs.2 ends.tail)
    · rw [normalizeNewlines_cons (Ne.symm hs.1)]
      exact squeeze_cons_congr c (ih hs.2 ends)

/-! ### Tokens -/

theorem splitTokens_squeeze (s : List Char) : splitTokens (squeeze s) = splitTokens s := by
  fun_induction splitTokens s with
  | case1 => exact splitTokens_nil
  | case2 c rest hc ih =>
    rw [squeeze]
    split
    · exact ih
    · rw [splitTokens_separator _ hc, ih]
  | case3 c rest hc ih =>
    have hnewline : c ≠ '\n' := fun h => hc (by rw [h]; rfl)
    rw [squeeze_cons hnewline, splitTokens_token _ (Bool.eq_false_iff.mpr hc),
      takeWhile_squeeze rfl, dropWhile_squeeze, ih]

/-- Texts that are the same up to runs of line feeds have the same tokens. -/
theorem tokenize_eq_of_squeeze {p q : String} (h : squeeze p.toList = squeeze q.toList) :
    tokenize p = tokenize q := by
  rw [tokenize, tokenize, ← splitTokens_squeeze p.toList, h, splitTokens_squeeze]

theorem readProgram_eq_of_squeeze {p q : String} (h : squeeze p.toList = squeeze q.toList) :
    readProgram p = readProgram q := by
  rw [readProgram, readProgram, tokenize_eq_of_squeeze h]

theorem readTape_eq_of_squeeze {p q : String} (h : squeeze p.toList = squeeze q.toList) :
    readTape p = readTape q := by
  rw [readTape, readTape, tokenize_eq_of_squeeze h]

/-! ### Files -/

/-- The bytes of a text with other line ends. -/
def encodeWith (ends : List LineEnd) (text : String) : List UInt8 :=
  Utf8.encode (String.ofList (respell ends text.toList))

/-- A text without `CR` is read as it was written. -/
theorem decodeText_encode {p : String} (hp : '\r' ∉ p.toList) :
    decodeText (Utf8.encode p) = .ok p := by
  rw [decodeText, Utf8.decode_encode]
  dsimp only
  rw [normalizeNewlines_eq_self hp, String.ofList_toList]

/-- A file with other line ends is read as the text up to runs of line feeds. -/
theorem decodeText_encodeWith {p : String} (hp : '\r' ∉ p.toList) (ends : List LineEnd) :
    ∃ text, decodeText (encodeWith ends p) = .ok text ∧ squeeze text.toList = squeeze p.toList := by
  refine ⟨String.ofList (normalizeNewlines (respell ends p.toList)), ?_, ?_⟩
  · rw [decodeText, encodeWith, Utf8.decode_encode, String.toList_ofList]
  · rw [String.toList_ofList, squeeze_normalizeNewlines hp]

end TapeMachine
