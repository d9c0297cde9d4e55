/-
Texts that are nested too deep.

A scan of single characters looks for the first bracket that opens in too many others.  The
bracket counts if the text in front of it breaks off where a value is expected.  So it matters
neither how many line feeds stand in a row, nor what comes behind the bracket.

* **`Json.eq_append_of_deepFrom`** — what a scan hands back is the text in front of a bracket;
* **`Json.tooDeep?_squeeze`** — runs of line feeds do not matter;
* **`Json.tooDeep?_replicate`** — a row of opening brackets.
-/
import TapeMachine.Json.Depth
import TapeMachine.Proofs.JsonLineEnds

namespace TapeMachine.Json

variable {room level : Nat} {done before rest s : List Char} {mode : Mode} {c : Char}
  {k : Container}

/-! ### Brackets -/

/-- The bracket that opens an array or an object. -/
def Container.bracket : Container → Char
  | .array => '['
  | .object => '\x7b'

theorem eq_bracket_of_opened? (h : opened? c = some k) : c = k.bracket := by
  rw [opened?] at h
  split at h
  · next hc =>
    cases h
    exact hc
  · split at h
    · next hc =>
      cases h
      exact hc
    · cases h

theorem Mode.opened?_of_some (h : mode.opened? c = some k) : Json.opened? c = some k := by
  cases mode with
  | outside => exact h
  | quoted => cases h
  | escaped => cases h

/-! ### The scan -/

/-- More text in front of what a scan hands back. -/
def inFront (earlier : List Char) (found : List Char × Container) : List Char × Container :=
  (earlier ++ found.1, found.2)

/-- What was scanned before stands in front. -/
theorem deepFrom_append (room : Nat) (done earlier : List Char) (mode : Mode) (level : Nat)
    (s : List Char) :
    deepFrom room (done ++ earlier) mode level s =
      (deepFrom room done mode level s).map (inFront earlier.reverse) := by
  induction s generalizing done mode level with
  | nil => rfl
  | cons c rest ih =>
    rw [deepFrom, deepFrom]
    rcases (if level = room then mode.opened? c else none) with _ | k
    · exact ih (c :: done) _ _
    · rw [List.reverse_append]
      rfl

/-- One character of a scan. -/
theorem deepFrom_cons (room : Nat) (mode : Mode) (level : Nat) (c : Char) (rest : List Char) :
    deepFrom room [] mode level (c :: rest) =
      match if level = room then mode.opened? c else none with
      | some k => some ([], k)
      | none =>
        (deepFrom room [] (mode.next c) (mode.level level c) rest).map (inFront [c]) := by
  rw [deepFrom]
  rcases (if level = room then mode.opened? c else none) with _ | k
  · exact deepFrom_append room [] [c] _ _ rest
  · rfl

/-- What a scan hands back is the text in front of a bracket. -/
theorem eq_append_of_deepFrom (h : deepFrom room [] mode level s = some (before, k)) :
    ∃ after, s = before ++ k.bracket :: after := by
  induction s generalizing mode level before with
  | nil => cases h
  | cons c rest ih =>
    rw [deepFrom_cons] at h
    rcases hopen : (if level = room then mode.opened? c else none) with _ | k' <;> rw [hopen] at h
    · obtain ⟨found, hfound, hbefore⟩ := Option.map_eq_some_iff.mp h
      cases hbefore
      obtain ⟨after, rfl⟩ := ih hfound
      exact ⟨after, rfl⟩
    · cases h
      split at hopen
      · exact ⟨rest, congrArg (· :: rest) (eq_bracket_of_opened? (Mode.opened?_of_some hopen))⟩
      · cases hopen

/-- The text in front of a bracket starts with a line feed just if the whole text does. -/
theorem head?_of_deepFrom (h : deepFrom room [] mode level s = some (before, k)) :
    before.head? = some '\n' ↔ s.head? = some '\n' := by
  obtain ⟨after, rfl⟩ := eq_append_of_deepFrom h
  cases before with
  | nil => cases k <;> simp [Container.bracket]
  | cons c before => rfl

/-! ### Line feeds -/

theorem Mode.opened?_newline (mode : Mode) : mode.opened? '\n' = none := by
  cases mode <;> rfl

theorem Mode.level_newline (mode : Mode) (level : Nat) : mode.level level '\n' = level := by
  cases mode <;> rfl

theorem Mode.next_next_newline (mode : Mode) : (mode.next '\n').next '\n' = mode.next '\n' := by
  cases mode <;> rfl

/-- A line feed is passed over. -/
theorem deepFrom_newline (room : Nat) (mode : Mode) (level : Nat) (rest : List Char) :
    deepFrom room [] mode level ('\n' :: rest) =
      (deepFrom room [] (mode.next '\n') level rest).map (inFront ['\n']) := by
  rw [deepFrom_cons, mode.opened?_newline, ite_self, mode.level_newline]

/-- A scan of a squeezed text. -/
theorem deepFrom_squeeze (room : Nat) (mode : Mode) (level : Nat) (s : List Char) :
    deepFrom room [] mode level (squeeze s) =
      (deepFrom room [] mode level s).map fun found => (squeeze found.1, found.2) := by
  induction s generalizing mode level with
  | nil => rfl
  | cons c rest ih =>
    by_cases hc : c = '\n'
    · subst hc
      rw [squeeze, deepFrom_newline]
      by_cases hrest : rest.head? = some '\n'
      · obtain ⟨t, ht⟩ : ∃ t, squeeze rest = '\n' :: t :=
          List.head?_eq_some_iff.mp ((head?_squeeze rest).trans hrest)
        have hsame : deepFrom room [] mode level (squeeze rest) =
            deepFrom room [] (mode.next '\n') level (squeeze rest) := by
          rw [ht, deepFrom_newline, deepFrom_newline, mode.next_next_newline]
        rw [if_pos ⟨rfl, hrest⟩, hsame, ih]
        rcases hfound : deepFrom room [] (mode.next '\n') level rest with _ | found
        · rfl
        · have hsqueeze : squeeze ('\n' :: found.1) = squeeze found.1 :=
            if_pos ⟨rfl, (head?_of_deepFrom hfound).mpr hrest⟩
          dsimp only [Option.map_some, inFront, List.singleton_append]
          rw [hsqueeze]
      · rw [if_neg fun h => hrest h.2, deepFrom_newline, ih]
        rcases hfound : deepFrom room [] (mode.next '\n') level rest with _ | found
        · rfl
        · have hsqueeze : squeeze ('\n' :: found.1) = '\n' :: squeeze found.1 :=
            if_neg fun h => hrest ((head?_of_deepFrom hfound).mp h.2)
          dsimp only [Option.map_some, inFront, List.singleton_append]
          rw [hsqueeze]
    · rw [squeeze_cons hc, deepFrom_cons, deepFrom_cons, ih]
      rcases (if level = room then mode.opened? c else none) with _ | k
      · dsimp only
        rw [Option.map_map, Option.map_map]
        congr 1
        funext found
        show inFront [c] (squeeze found.1, found.2) = (squeeze (c :: found.1), found.2)
        rw [squeeze_cons hc]
        rfl
      · rfl

theorem awaitsValue_iff : awaitsValue s = true ↔ read s = .error (.unexpected .value []) := by
  rw [awaitsValue]
  constructor
  · intro h
    split at h
    · next hread => exact hread
    · cases h
  · intro h
    rw [h]

/-- A text breaks off where a value is expected just if it does so when it is squeezed. -/
theorem awaitsValue_squeeze (s : List Char) : awaitsValue (squeeze s) = awaitsValue s := by
  rw [Bool.eq_iff_iff, awaitsValue_iff, awaitsValue_iff, read_squeeze]
  rcases read s with (⟨e, _ | ⟨c, rest⟩⟩ | n) | v
  · rfl
  · obtain ⟨t, ht⟩ := exists_squeeze_cons c rest
    simp [Except.mapError, Refusal.squeeze, ht]
  · rfl
  · rfl

/-- A text is nested too deep if and only if it is so when it is squeezed. -/
theorem tooDeep?_squeeze (room : Nat) (s : List Char) :
    tooDeep? room (squeeze s) = tooDeep? room s := by
  rw [tooDeep?, tooDeep?, deepFrom_squeeze]
  rcases deepFrom room [] .outside 0 s with _ | ⟨before, k⟩
  · rfl
  · dsimp only [Option.map_some]
    rw [awaitsValue_squeeze]

/-! ### A row of brackets -/

theorem skipSpace_replicate (n : Nat) :
    skipSpace (List.replicate n '[') = List.replicate n '[' := by
  cases n <;> rfl

/-- Behind opening brackets a value is expected. -/
theorem value_replicate (n : Nat) :
    bare (value (List.replicate n '[')) = .error (.unexpected .value []) := by
  induction n with
  | zero =>
    have hopen : ¬OpensPart [] := fun ⟨_, h, _⟩ => nomatch h
    rw [List.replicate_zero, bare_value_scalar hopen]
    rfl
  | succ n ih =>
    have hclose : (List.replicate n '[').head? ≠ some ']' := by
      cases n <;> simp [List.replicate_succ]
    rw [List.replicate_succ, bare_value_array, skipSpace_replicate, partFrom, if_neg hclose,
      bare_items, ih]
    rfl

theorem awaitsValue_replicate (n : Nat) : awaitsValue (List.replicate n '[') = true := by
  have hmark : (List.replicate n '[').head? ≠ some '\uFEFF' := by
    cases n <;> simp [List.replicate_succ]
  rw [awaitsValue_iff, read_eq_bare, if_neg hmark, skipSpace_replicate, value_replicate]

/-- The bracket behind a row of others, if there is room for no more. -/
theorem deepFrom_replicate (n level : Nat) (rest : List Char) :
    deepFrom (level + n) [] .outside level (List.replicate n '[' ++ '[' :: rest) =
      some (List.replicate n '[', .array) := by
  induction n generalizing level with
  | zero =>
    show deepFrom level [] .outside level ('[' :: rest) = _
    rw [deepFrom_cons, if_pos rfl]
    rfl
  | succ n ih =>
    have hroom : level + (n + 1) = level + 1 + n := by omega
    have hnext : Mode.outside.next '[' = .outside := rfl
    have hlevel : Mode.outside.level level '[' = level + 1 := rfl
    rw [List.replicate_succ, List.cons_append, deepFrom_cons, if_neg (by omega), hroom, hnext,
      hlevel, ih]
    rfl

/-- Opening brackets in a row are nested too deep, if there are more than there is room for. -/
theorem tooDeep?_replicate {room n : Nat} (h : room < n) :
    tooDeep? room (List.replicate n '[') = some .array := by
  obtain ⟨more, rfl⟩ : ∃ more, n = room + (more + 1) := ⟨n - room - 1, by omega⟩
  have hfound := deepFrom_replicate room 0 (List.replicate more '[')
  rw [Nat.zero_add] at hfound
  rw [tooDeep?, ← List.replicate_append_replicate, List.replicate_succ, hfound]
  dsimp only
  rw [awaitsValue_replicate]
  rfl

end TapeMachine.Json
