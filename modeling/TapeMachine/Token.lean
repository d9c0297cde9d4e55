/-
Tokens: the lexical grammar that rule tables and tapes share.

A token is a maximal run of characters other than the blank (U+0020) and the
line feed (U+000A).  Tabs, carriage returns and every other character belong to
the token they stand in, so lines carry no meaning of their own.

* **`splitTokens`** — the tokens of a list of characters, in order;
* **`tokenize`** — the same on text;
* **`splitTokens_token`**, **`splitTokens_separator`** — the two equations from
  which every other fact about the decomposition follows.
-/

namespace TapeMachine

/-- The blank and the line feed separate tokens, and nothing else does. -/
def isSeparator (c : Char) : Bool :=
  c == ' ' || c == '\n'

/-- The maximal runs of characters that are not separators, from left to right. -/
def splitTokens : List Char → List (List Char)
  | [] => []
  | c :: cs =>
    if isSeparator c then splitTokens cs
    else (c :: cs.takeWhile (!isSeparator ·)) :: splitTokens (cs.dropWhile (!isSeparator ·))
termination_by cs => cs.length
decreasing_by
  · simp
  · have := (cs.dropWhile_suffix (!isSeparator ·)).length_le
    simp only [List.length_cons]
    omega

@[simp] theorem splitTokens_nil : splitTokens [] = [] := by
  rw [splitTokens]

/-- A leading separator is skipped. -/
theorem splitTokens_separator {c : Char} (cs : List Char) (h : isSeparator c = true) :
    splitTokens (c :: cs) = splitTokens cs := by
  rw [splitTokens, if_pos h]

/-- A leading character of another kind opens a token, which extends as far as it can. -/
theorem splitTokens_token {c : Char} (cs : List Char) (h : isSeparator c = false) :
    splitTokens (c :: cs) =
      (c :: cs.takeWhile (!isSeparator ·)) :: splitTokens (cs.dropWhile (!isSeparator ·)) := by
  rw [splitTokens, if_neg (by simp [h])]

/-- The tokens of a text. -/
def tokenize (text : String) : List String :=
  (splitTokens text.toList).map String.ofList

end TapeMachine
