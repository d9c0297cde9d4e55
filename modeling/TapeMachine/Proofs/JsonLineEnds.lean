/-
JSON and runs of line feeds.

Between the parts of a text a run of line feeds is a blank like any other, and inside a
string even one is refused.  So a text is read as the same value when its runs of line
feeds are squeezed, and where it is refused, it is refused at the same character.

* **`Json.Scan.squeeze`** — a scan of a text, as one of the squeezed text;
* **`Json.value_squeeze`** — every value is read as before;
* **`Json.read_squeeze`** — a whole text;
* **`Json.read_cases_of_squeeze`** — two texts that are the same when they are squeezed.
-/
import TapeMachine.Proofs.JsonRest
import TapeMachine.Proofs.LineEnds

namespace TapeMachine.Json

variable {α β : Type} {s body rest : List Char} {c : Char}

/-- A refusal of a text, as one of the squeezed text. -/
def Refusal.squeeze : Refusal → Refusal
  | .unexpected e rest => .unexpected e (TapeMachine.squeeze rest)
  | .integerTooLong n => .integerTooLong n

/-- A scan of a text, as one of the squeezed text. -/
def Scan.squeeze (r : Scan α) : Scan α :=
  match r with
  | .ok (x, rest) => .ok (x, TapeMachine.squeeze rest)
  | .error e => .error e.squeeze

theorem Scan.squeeze_into (f : α → β) (r : Scan α) :
    Scan.squeeze (Scan.into f r) = Scan.into f (Scan.squeeze r) := by
  rcases r with e | ⟨x, rest⟩ <;> rfl

theorem Scan.squeeze_next {r : Scan α} {f g : α → List Char → Scan β}
    (h : ∀ x rest, r = .ok (x, rest) →
      g x (TapeMachine.squeeze rest) = Scan.squeeze (f x rest)) :
    Scan.next (Scan.squeeze r) g = Scan.squeeze (Scan.next r f) := by
  rcases r with e | ⟨x, rest⟩
  · rfl
  · exact h x rest rfl

theorem skipSpace_squeeze (s : List Char) :
    skipSpace (squeeze s) = squeeze (skipSpace s) :=
  dropWhile_squeeze isSpace s

/-! ### Strings -/

/-- A number in some hexadecimal digits, after which at least one character has to follow. -/
def hexRun? : Nat → Nat → List Char → Option (Nat × List Char)
  | 0, value, c :: rest => some (value, c :: rest)
  | n + 1, value, c :: rest =>
    (Text.hexValue? c).bind fun d => hexRun? n (value * 16 + d) rest
  | _, _, [] => none

/-- The digits of a code unit, one after the other. -/
theorem codeUnit?_eq_hexRun? (s : List Char) : codeUnit? s = hexRun? 4 0 s := by
  rcases s with _ | ⟨a, _ | ⟨b, _ | ⟨c, _ | ⟨d, _ | ⟨e, rest⟩⟩⟩⟩⟩
  case cons.cons.cons.cons.cons =>
    simp only [codeUnit?, hexRun?]
    rcases Text.hexValue? a with _ | a
    · rfl
    rcases Text.hexValue? b with _ | b
    · rfl
    rcases Text.hexValue? c with _ | c
    · rfl
    rcases Text.hexValue? d with _ | d
    · rfl
    · simp
  -- Too few characters are no code unit, whether they are digits or not.
  all_goals simp [codeUnit?, hexRun?]

theorem hexRun?_squeeze (n value : Nat) (s : List Char) :
    hexRun? n value (squeeze s) =
      (hexRun? n value s).map fun x => (x.1, squeeze x.2) := by
  induction n generalizing value s with
  | zero =>
    rcases s with _ | ⟨c, rest⟩
    · rfl
    · obtain ⟨t, ht⟩ := exists_squeeze_cons c rest
      rw [hexRun?, ht, hexRun?, Option.map_some, ht]
  | succ n ih =>
    rcases s with _ | ⟨c, rest⟩
    · rfl
    rw [hexRun?]
    rcases hdigit : Text.hexValue? c with _ | d
    · obtain ⟨t, ht⟩ := exists_squeeze_cons c rest
      rw [ht, hexRun?, hdigit]
      rfl
    · have hc : c ≠ '\n' := by
        rintro rfl
        cases hdigit
      rw [squeeze_cons hc, hexRun?, hdigit]
      exact ih _ rest

theorem codeUnit?_squeeze (s : List Char) :
    codeUnit? (squeeze s) = (codeUnit? s).map fun x => (x.1, squeeze x.2) := by
  rw [codeUnit?_eq_hexRun?, codeUnit?_eq_hexRun?, hexRun?_squeeze]

theorem lowSurrogate?_squeeze (s : List Char) :
    lowSurrogate? (squeeze s) = (lowSurrogate? s).map fun x => (x.1, squeeze x.2) := by
  by_cases hescape : ∃ rest, s = '\\' :: 'u' :: rest
  · obtain ⟨rest, rfl⟩ := hescape
    rw [squeeze_cons (by decide), squeeze_cons (by decide), lowSurrogate?, lowSurrogate?,
      codeUnit?_squeeze]
    rcases codeUnit? rest with _ | ⟨unit, after⟩
    · rfl
    · dsimp only [Option.map_some]
      split <;> rfl
  · have hsqueeze : ∀ rest, squeeze s ≠ '\\' :: 'u' :: rest := by
      intro t ht
      rcases s with _ | ⟨c, s⟩
      · cases ht
      by_cases hc : c = '\\'
      · rw [hc, squeeze_cons (by decide), List.cons.injEq] at ht
        exact squeeze_ne_cons (fun rest hrest => hescape ⟨rest, by rw [hc, hrest]⟩) t ht.2
      · exact squeeze_ne_cons (fun rest hrest => hc (List.cons.inj hrest).1) _ ht
    rw [lowSurrogate?.eq_2 _ hsqueeze, lowSurrogate?.eq_2 _ fun rest h => hescape ⟨rest, h⟩]
    rfl

theorem unitChar_squeeze (unit : Nat) (s : List Char) :
    unitChar unit (squeeze s) = ((unitChar unit s).1, squeeze (unitChar unit s).2) := by
  unfold unitChar
  rw [lowSurrogate?_squeeze]
  split
  · rcases lowSurrogate? s with _ | ⟨low, after⟩
    · rfl
    · rw [Option.map_some]
  · split <;> rfl

theorem escape_squeeze (opening backslash s : List Char) :
    escape (squeeze opening) (squeeze backslash) (squeeze s) =
      Scan.squeeze (escape opening backslash s) := by
  rcases s with _ | ⟨c, rest⟩
  · rfl
  by_cases hu : c = 'u'
  · rw [hu, squeeze_cons (by decide), escape, escape, codeUnit?_squeeze]
    rcases codeUnit? rest with _ | ⟨unit, after⟩
    · rw [Option.map_none, ← squeeze_cons (by decide)]
      rfl
    · rw [Option.map_some]
      exact congrArg Except.ok (unitChar_squeeze unit after)
  -- Any other escape is one letter, which is no line feed.
  · rw [escape.eq_2 _ _ c rest hu]
    rcases hletter : letterEscape? c with _ | e
    · obtain ⟨t, ht⟩ := exists_squeeze_cons c rest
      rw [ht, escape.eq_2 _ _ c t hu, hletter]
      rfl
    · have hc : c ≠ '\n' := by
        rintro rfl
        cases hletter
      rw [squeeze_cons hc, escape.eq_2 _ _ c _ hu, hletter]
      rfl

theorem stringFrom_squeeze (opening done s : List Char) :
    stringFrom (squeeze opening) done (squeeze s) = Scan.squeeze (stringFrom opening done s) := by
  fun_induction stringFrom opening done s with
  | case1 =>
    rw [squeeze, stringFrom]
    rfl
  | case2 done rest =>
    rw [squeeze_cons (by decide), stringFrom, if_pos rfl]
    rfl
  | case3 done rest r _ hesc =>
    have hescape := escape_squeeze opening ('\\' :: rest) rest
    rw [squeeze_cons (by decide), hesc] at hescape
    rw [squeeze_cons (by decide), stringFrom, if_neg (by decide), if_pos rfl]
    split
    · next he =>
      cases hescape.symm.trans he
      rfl
    · next he => cases hescape.symm.trans he
  | case4 done rest _ char after hesc ih =>
    have hescape := escape_squeeze opening ('\\' :: rest) rest
    rw [squeeze_cons (by decide), hesc] at hescape
    rw [squeeze_cons (by decide), stringFrom, if_neg (by decide), if_pos rfl]
    split
    · next he => cases hescape.symm.trans he
    · next he =>
      cases hescape.symm.trans he
      exact ih
  -- A line feed is one of the characters that are refused.
  | case5 done c rest hquote hslash hlow =>
    obtain ⟨t, ht⟩ := exists_squeeze_cons c rest
    rw [ht, stringFrom, if_neg hquote, if_neg hslash, if_pos hlow, ← ht]
    rfl
  | case6 done c rest hquote hslash hlow ih =>
    have hc : c ≠ '\n' := by
      rintro rfl
      exact hlow (by decide)
    rw [squeeze_cons hc, stringFrom, if_neg hquote, if_neg hslash, if_neg hlow, ih]

theorem stringFrom_squeeze_body (body : List Char) :
    stringFrom ('"' :: squeeze body) [] (squeeze body) =
      Scan.squeeze (stringFrom ('"' :: body) [] body) := by
  rw [← squeeze_cons (by decide)]
  exact stringFrom_squeeze ('"' :: body) [] body

/-! ### Numbers and words -/

theorem digitRun_squeeze (s : List Char) :
    digitRun (squeeze s) = ((digitRun s).1, squeeze (digitRun s).2) :=
  Prod.ext (takeWhile_squeeze rfl s) (dropWhile_squeeze Char.isDigit s)

theorem numberSign_squeeze (s : List Char) :
    numberSign (squeeze s) = ((numberSign s).1, squeeze (numberSign s).2) := by
  by_cases h : ∃ rest, s = '-' :: rest
  · obtain ⟨rest, rfl⟩ := h
    rw [squeeze_cons (by decide)]
    rfl
  · have hne := not_exists.mp h
    rw [numberSign.eq_2 _ hne, numberSign.eq_2 _ (squeeze_ne_cons hne)]

theorem integerDigits_squeeze (s : List Char) :
    integerDigits (squeeze s) = ((integerDigits s).1, squeeze (integerDigits s).2) := by
  by_cases h : ∃ rest, s = '0' :: rest
  · obtain ⟨rest, rfl⟩ := h
    rw [squeeze_cons (by decide)]
    rfl
  · have hne := not_exists.mp h
    rw [integerDigits.eq_2 _ hne, integerDigits.eq_2 _ (squeeze_ne_cons hne), digitRun_squeeze]

theorem fractionDigits_squeeze (s : List Char) :
    fractionDigits (squeeze s) = ((fractionDigits s).1, squeeze (fractionDigits s).2) := by
  by_cases h : ∃ rest, s = '.' :: rest
  · obtain ⟨rest, rfl⟩ := h
    rw [squeeze_cons (by decide), fractionDigits, fractionDigits, digitRun_squeeze]
    rcases digitRun rest with ⟨_ | ⟨d, digits⟩, after⟩
    · dsimp only
      rw [squeeze_cons (by decide)]
    · rfl
  · have hne := not_exists.mp h
    rw [fractionDigits.eq_2 _ hne, fractionDigits.eq_2 _ (squeeze_ne_cons hne)]

theorem exponentSign_squeeze (s : List Char) :
    exponentSign (squeeze s) = ((exponentSign s).1, squeeze (exponentSign s).2) := by
  by_cases hminus : ∃ rest, s = '-' :: rest
  · obtain ⟨rest, rfl⟩ := hminus
    rw [squeeze_cons (by decide)]
    rfl
  by_cases hplus : ∃ rest, s = '+' :: rest
  · obtain ⟨rest, rfl⟩ := hplus
    rw [squeeze_cons (by decide)]
    rfl
  · have hminus := not_exists.mp hminus
    have hplus := not_exists.mp hplus
    rw [exponentSign.eq_3 _ hminus hplus,
      exponentSign.eq_3 _ (squeeze_ne_cons hminus) (squeeze_ne_cons hplus)]

theorem exponentPart_squeeze (s : List Char) :
    exponentPart (squeeze s) = ((exponentPart s).1, squeeze (exponentPart s).2) := by
  rcases s with _ | ⟨c, rest⟩
  · rfl
  by_cases hc : c = 'e' ∨ c = 'E'
  · have hnewline : c ≠ '\n' := by
      rcases hc with rfl | rfl <;> decide
    rw [squeeze_cons hnewline, exponentPart, exponentPart, if_pos hc, if_pos hc,
      exponentSign_squeeze]
    dsimp only
    rw [digitRun_squeeze]
    rcases digitRun (exponentSign rest).2 with ⟨_ | ⟨d, digits⟩, after⟩
    · dsimp only
      rw [squeeze_cons hnewline]
    · rfl
  · obtain ⟨t, ht⟩ := exists_squeeze_cons c rest
    rw [ht, exponentPart, exponentPart, if_neg hc, if_neg hc, ← ht]

/-- A number is refused for its digits alone. -/
theorem numberValue_refusal {negative : Bool} {whole fraction : List Char} {exponent : Option Int}
    {e : Refusal} (h : numberValue negative whole fraction exponent = .error e) :
    e.squeeze = e := by
  rw [numberValue] at h
  split at h
  · split at h
    · cases h
      rfl
    · cases h
  · cases h

theorem number_squeeze (s : List Char) :
    bare (number (squeeze s)) = Scan.squeeze (bare (number s)) := by
  rw [bare_number, bare_number]
  dsimp only
  rw [numberSign_squeeze, integerDigits_squeeze, fractionDigits_squeeze, exponentPart_squeeze]
  dsimp only
  split
  · rfl
  · generalize hvalue : numberValue (numberSign s).1 _ _ _ = result
    rcases result with e | v
    · exact congrArg Except.error (numberValue_refusal hvalue).symm
    · rfl

theorem dropWord?_squeeze {word : List Char} (hword : '\n' ∉ word) (s : List Char) :
    dropWord? word (squeeze s) = (dropWord? word s).map squeeze := by
  induction word generalizing s with
  | nil => rfl
  | cons w word ih =>
    rw [List.mem_cons, not_or] at hword
    rcases s with _ | ⟨c, rest⟩
    · rfl
    by_cases hc : w = c
    · rw [squeeze_cons (hc ▸ Ne.symm hword.1), dropWord?, dropWord?, if_pos hc, if_pos hc,
        ih hword.2]
    · obtain ⟨t, ht⟩ := exists_squeeze_cons c rest
      rw [ht, dropWord?, dropWord?, if_neg hc, if_neg hc]
      rfl

theorem word?_squeeze (s : List Char) :
    word? (squeeze s) = (word? s).map fun x => (x.1, squeeze x.2) := by
  have hwords : ∀ entry ∈ words, '\n' ∉ entry.1.toList := by
    simp only [words, List.forall_mem_cons]
    decide
  rw [word?, word?]
  generalize words = entries at hwords
  induction entries with
  | nil => rfl
  | cons entry entries ih =>
    obtain ⟨hentry, hentries⟩ := List.forall_mem_cons.mp hwords
    rw [List.findSome?_cons, List.findSome?_cons]
    dsimp only
    rw [dropWord?_squeeze hentry]
    rcases dropWord? entry.1.toList s with _ | rest
    · exact ih hentries
    · rfl

/-! ### Values -/

theorem not_opensPart_squeeze (hopen : ¬OpensPart s) : ¬OpensPart (squeeze s) := by
  rwa [OpensPart, head?_squeeze]

theorem scalar_squeeze (hopen : ¬OpensPart s) :
    bare (value (squeeze s)) = Scan.squeeze (bare (value s)) := by
  rw [bare_value_scalar hopen, bare_value_scalar (not_opensPart_squeeze hopen), word?_squeeze]
  rcases word? s with _ | x
  · exact number_squeeze s
  · rfl

/-- What follows a first character that is no line feed. -/
theorem tail_squeeze (h : s.head? = some c) (hc : c ≠ '\n') :
    (squeeze s).tail = squeeze s.tail := by
  obtain ⟨rest, rfl⟩ := List.head?_eq_some_iff.1 h
  rw [squeeze_cons hc, List.tail_cons, List.tail_cons]

theorem partFrom_squeeze {close : Char} (hclose : close ≠ '\n') {make : List α → Value}
    {elements : List Char → Scan (List α)}
    (h : elements (squeeze s) = Scan.squeeze (elements s)) :
    partFrom close make elements (squeeze s) = Scan.squeeze (partFrom close make elements s) := by
  rw [partFrom, partFrom, head?_squeeze]
  split
  · next hhead =>
    rw [tail_squeeze hhead hclose]
    rfl
  · rw [h, Scan.squeeze_into]

theorem elementsAfter_squeeze {close : Char} (hclose : close ≠ '\n')
    {elements : List Char → Scan (List α)} {x : α}
    (h : ∀ after, s = ',' :: after →
      elements (squeeze (skipSpace after)) = Scan.squeeze (elements (skipSpace after))) :
    elementsAfter close elements x (squeeze s) =
      Scan.squeeze (elementsAfter close elements x s) := by
  rw [elementsAfter, elementsAfter, head?_squeeze]
  split
  · next hhead =>
    rw [tail_squeeze hhead hclose]
    rfl
  split
  · next hcomma =>
    rw [tail_squeeze hcomma (by decide)]
    obtain ⟨after, rfl⟩ := List.head?_eq_some_iff.1 hcomma
    rw [List.tail_cons, skipSpace_squeeze, h after rfl, Scan.squeeze_into]
  · rfl

theorem memberAfter_squeeze {key : String}
    (h : ∀ after, s = ':' :: after →
      bare (value (squeeze (skipSpace after))) = Scan.squeeze (bare (value (skipSpace after)))) :
    memberAfter key (squeeze s) = Scan.squeeze (memberAfter key s) := by
  rw [memberAfter, memberAfter, head?_squeeze]
  split
  · next hcolon =>
    rw [tail_squeeze hcolon (by decide)]
    obtain ⟨after, rfl⟩ := List.head?_eq_some_iff.1 hcolon
    rw [List.tail_cons, skipSpace_squeeze, h after rfl, Scan.squeeze_into]
  · rfl

-- The induction is on the length of the text, and a text weighs one more for its items or members
-- than for its first value.
mutual

/-- Every value is read as before. -/
theorem value_squeeze (s : List Char) :
    bare (value (squeeze s)) = Scan.squeeze (bare (value s)) := by
  rcases opensPart_cases s with ⟨body, rfl⟩ | ⟨body, rfl⟩ | ⟨body, rfl⟩ | hopen
  · rw [squeeze_cons (by decide), bare_value_string, bare_value_string, Scan.squeeze_into,
      stringFrom_squeeze_body]
  · have hle := length_skipSpace_le body
    rw [squeeze_cons (by decide), bare_value_array, bare_value_array, skipSpace_squeeze]
    exact partFrom_squeeze (by decide) (items_squeeze (skipSpace body))
  · have hle := length_skipSpace_le body
    rw [squeeze_cons (by decide), bare_value_object, bare_value_object, skipSpace_squeeze]
    exact partFrom_squeeze (by decide) (members_squeeze (skipSpace body))
  · exact scalar_squeeze hopen
termination_by 2 * s.length
decreasing_by
  all_goals
    subst_vars
    simp only [List.length_cons]
    omega

theorem items_squeeze (s : List Char) :
    bare (items (squeeze s)) = Scan.squeeze (bare (items s)) := by
  rw [bare_items, bare_items, value_squeeze s]
  refine Scan.squeeze_next fun v rest hv => ?_
  rw [skipSpace_squeeze]
  refine elementsAfter_squeeze (by decide) fun after hafter => ?_
  have hlt := length_skipSpace_lt (length_of_bare hv) hafter
  exact items_squeeze (skipSpace after)
termination_by 2 * s.length + 1

theorem members_squeeze (s : List Char) :
    bare (members (squeeze s)) = Scan.squeeze (bare (members s)) := by
  rw [bare_members, bare_members, member_squeeze s]
  refine Scan.squeeze_next fun m rest hm => ?_
  rw [skipSpace_squeeze]
  refine elementsAfter_squeeze (by decide) fun after hafter => ?_
  have hlt := length_skipSpace_lt (length_of_member hm) hafter
  exact members_squeeze (skipSpace after)
termination_by 2 * s.length + 1

theorem member_squeeze (s : List Char) : member (squeeze s) = Scan.squeeze (member s) := by
  rw [member, member, head?_squeeze]
  split
  · next hquote =>
    rw [tail_squeeze hquote (by decide)]
    obtain ⟨body, rfl⟩ := List.head?_eq_some_iff.1 hquote
    rw [squeeze_cons (by decide), List.tail_cons, stringFrom_squeeze_body]
    refine Scan.squeeze_next fun key rest hkey => ?_
    rw [skipSpace_squeeze]
    refine memberAfter_squeeze fun after hafter => ?_
    have hlt := length_skipSpace_lt (length_of_stringFrom hkey) hafter
    exact value_squeeze (skipSpace after)
  · rfl
termination_by 2 * s.length
decreasing_by
  subst_vars
  simp only [List.length_cons] at hlt ⊢
  omega

end

/-- A whole text is read as before. -/
theorem read_squeeze (s : List Char) :
    read (squeeze s) = (read s).mapError Refusal.squeeze := by
  rw [read_eq_bare, read_eq_bare, head?_squeeze]
  split
  · rfl
  rw [skipSpace_squeeze, value_squeeze]
  rcases bare (value (skipSpace s)) with e | ⟨v, rest⟩
  · rfl
  dsimp only [Scan.squeeze]
  rw [skipSpace_squeeze]
  rcases skipSpace rest with _ | ⟨c, left⟩
  · rfl
  · obtain ⟨t, ht⟩ := exists_squeeze_cons c left
    rw [ht]
    show _ = Except.error (Refusal.unexpected .endOfText (squeeze (c :: left)))
    rw [ht]

/-- Texts that are the same up to runs of line feeds are one value, or are refused alike. -/
theorem read_cases_of_squeeze {t : List Char} (h : squeeze s = squeeze t) :
    (∃ v, read s = .ok v ∧ read t = .ok v) ∨
      (∃ n, read s = .error (.integerTooLong n) ∧ read t = .error (.integerTooLong n)) ∨
      ∃ e rest rest', read s = .error (.unexpected e rest) ∧
        read t = .error (.unexpected e rest') := by
  have hread : (read s).mapError Refusal.squeeze = (read t).mapError Refusal.squeeze := by
    rw [← read_squeeze, h, read_squeeze]
  generalize read s = r at hread ⊢
  generalize read t = r' at hread ⊢
  rcases r with e | v <;> rcases r' with e' | v'
  · rcases e with ⟨e, rest⟩ | n <;> rcases e' with ⟨e', rest'⟩ | n'
    · obtain ⟨rfl, -⟩ := Refusal.unexpected.inj (Except.error.inj hread)
      exact .inr (.inr ⟨e, rest, rest', rfl, rfl⟩)
    · cases hread
    · cases hread
    · cases hread
      exact .inr (.inl ⟨n, rfl, rfl⟩)
  · cases hread
  · cases hread
  · cases hread
    exact .inl ⟨v, rfl, rfl⟩

end TapeMachine.Json
