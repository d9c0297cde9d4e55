/-
The members of an object, as they are written and as they are read.

A key may be written again.  Then it keeps its first place among the keys and takes its last
value.

* **`Json.lookup_mergeMembers`** — of the values that are written for a key, the last one stands;
* **`Json.find?_keys_mergeMembers`** — keys are met in the order in which they first occur;
* **`Json.Holds`** — the members that are written in a text, repeated keys among them;
* **`Json.read_eq_object_iff`** — a text is read as an object if and only if it holds members,
  and then those are merged;
* **`Json.holds_write`** — members that are written down are held, whatever their keys are.
-/
import Mathlib.Data.List.Induction
import Mathlib.Data.List.Nodup
import TapeMachine.Proofs.JsonRest

namespace TapeMachine.Json

variable {s : List Char} {ms : List (String × Value)}

/-! ### Setting members in turn -/

theorem lookup_member_cons (key k : String) (v : Value) (ms : List (String × Value)) :
    ((k, v) :: ms).lookup key = if key = k then some v else ms.lookup key := by
  rw [List.lookup_cons]
  by_cases hkey : key = k
  · rw [if_pos hkey, beq_iff_eq.2 hkey]
  · rw [if_neg hkey, beq_eq_false_iff_ne.2 hkey]

theorem lookup_setMember (key k : String) (v : Value) (ms : List (String × Value)) :
    (setMember k v ms).lookup key = if key = k then some v else ms.lookup key := by
  induction ms with
  | nil => exact lookup_member_cons key k v []
  | cons m ms ih =>
    obtain ⟨k', old⟩ := m
    rw [setMember]
    by_cases hk : k' = k
    · rw [if_pos hk, lookup_member_cons, lookup_member_cons, hk]
      by_cases hkey : key = k
      · rw [if_pos hkey, if_pos hkey]
      · rw [if_neg hkey, if_neg hkey, if_neg hkey]
    · rw [if_neg hk, lookup_member_cons, lookup_member_cons, ih]
      by_cases hkey : key = k'
      · rw [if_pos hkey, if_pos hkey, if_neg (hkey ▸ hk)]
      · rw [if_neg hkey, if_neg hkey]

theorem mergeMembers_concat (written : List (String × Value)) (m : String × Value) :
    mergeMembers (written ++ [m]) = setMember m.1 m.2 (mergeMembers written) :=
  List.foldl_concat _ [] m written

/-- Of the values that are written for a key, the last one stands. -/
theorem lookup_mergeMembers (key : String) (written : List (String × Value)) :
    (mergeMembers written).lookup key = written.reverse.lookup key := by
  induction written using List.reverseRecOn with
  | nil => rfl
  | append_singleton written m ih =>
    obtain ⟨k, v⟩ := m
    rw [mergeMembers_concat, lookup_setMember, List.reverse_concat, lookup_member_cons, ih]

/-- A key that is set stays where it is, or comes last. -/
theorem keys_setMember (k : String) (v : Value) (ms : List (String × Value)) :
    (setMember k v ms).map (·.1) =
      if k ∈ ms.map (·.1) then ms.map (·.1) else ms.map (·.1) ++ [k] := by
  induction ms with
  | nil => rfl
  | cons m ms ih =>
    obtain ⟨k', old⟩ := m
    rw [setMember]
    by_cases hk : k' = k
    · simp [hk]
    · rw [if_neg hk, List.map_cons, ih, List.map_cons]
      by_cases hmem : k ∈ ms.map (·.1)
      · rw [if_pos hmem, if_pos (List.mem_cons_of_mem k' hmem)]
      · have hnot : k ∉ k' :: ms.map (·.1) :=
          List.not_mem_cons_of_ne_of_not_mem (Ne.symm hk) hmem
        rw [if_neg hmem, if_neg hnot, List.cons_append]

theorem nodup_keys_mergeMembers (written : List (String × Value)) :
    ((mergeMembers written).map (·.1)).Nodup := by
  induction written using List.reverseRecOn with
  | nil => exact List.nodup_nil
  | append_singleton written m ih =>
    rw [mergeMembers_concat, keys_setMember]
    by_cases hmem : m.1 ∈ (mergeMembers written).map (·.1)
    · rw [if_pos hmem]
      exact ih
    · rw [if_neg hmem]
      refine List.nodup_append.2 ⟨ih, List.nodup_singleton m.1, fun k hk k' hk' heq => ?_⟩
      rw [heq, List.mem_singleton.1 hk'] at hk
      exact hmem hk

/-- Setting a key does not change which key is met first, unless there was none. -/
theorem find?_keys_setMember (p : String → Bool) (k : String) (v : Value)
    (ms : List (String × Value)) :
    ((setMember k v ms).map (·.1)).find? p = (ms.map (·.1) ++ [k]).find? p := by
  rw [keys_setMember]
  by_cases hmem : k ∈ ms.map (·.1)
  · rw [if_pos hmem, List.find?_append]
    -- Either the key is not looked for, or one has been found before.
    by_cases hp : p k = true
    · obtain ⟨found, hfound⟩ := Option.isSome_iff_exists.1 (List.find?_isSome.2 ⟨k, hmem, hp⟩)
      rw [hfound, Option.some_or]
    · simp [hp]
  · rw [if_neg hmem]

/-- Keys are met in the order in which they first occur. -/
theorem find?_keys_mergeMembers (p : String → Bool) (written : List (String × Value)) :
    ((mergeMembers written).map (·.1)).find? p = (written.map (·.1)).find? p := by
  induction written using List.reverseRecOn with
  | nil => rfl
  | append_singleton written m ih =>
    rw [mergeMembers_concat, find?_keys_setMember, List.find?_append, ih, ← List.find?_append,
      List.map_append, List.map_singleton]

/-! ### Members of a text -/

/-- The members of an object at the first character after its brace, and what follows them. -/
def writtenMembers (s : List Char) : Scan (List (String × Value)) :=
  if s.head? = some '\x7d' then .ok ([], s.tail) else bare (members s)

/-- Whether a text is an object in which just these members are written, in this order.  A key may
be written more than once. -/
def Holds (s : List Char) (written : List (String × Value)) : Prop :=
  ∃ body rest, skipSpace s = '\x7b' :: body ∧
    writtenMembers (skipSpace body) = .ok (written, rest) ∧ skipSpace rest = []

theorem bare_value_members (body : List Char) :
    bare (value ('\x7b' :: body)) =
      Scan.into (fun ms => .object (mergeMembers ms)) (writtenMembers (skipSpace body)) := by
  rw [bare_value_object, partFrom, writtenMembers]
  split
  · rfl
  · rfl

/-- No word is an object, and neither is a number. -/
theorem not_object_of_scalar {rest : List Char} (hopen : ¬OpensPart s) :
    bare (value s) ≠ .ok (.object ms, rest) := by
  intro h
  rw [bare_value_scalar hopen] at h
  split at h
  · next x hword =>
    cases h
    obtain ⟨⟨word, w⟩, hmem, hw⟩ := List.exists_of_findSome?_eq_some hword
    obtain ⟨after, -, hafter⟩ := Option.map_eq_some_iff.1 hw
    simp only [Prod.mk.injEq] at hafter
    rw [hafter.1] at hmem
    simp [words] at hmem
  · rw [bare_number] at h
    simp only at h
    split at h
    · cases h
    · rw [numberValue] at h
      split at h
      · split at h
        · cases h
        · cases h
      · cases h

/-- A text with a brace before anything else has no mark of byte order. -/
theorem head?_ne_mark {body : List Char} (h : skipSpace s = '\x7b' :: body) :
    s.head? ≠ some '\uFEFF' := by
  intro hmark
  obtain ⟨rest, rfl⟩ := List.head?_eq_some_iff.1 hmark
  rw [skipSpace, List.dropWhile_cons_of_neg (by decide)] at h
  exact absurd (List.cons.inj h).1 (by decide)

/-- **A text is read as an object if and only if it holds members**, and then those are merged. -/
theorem read_eq_object_iff :
    read s = .ok (.object ms) ↔ ∃ written, Holds s written ∧ ms = mergeMembers written := by
  constructor
  · intro h
    rw [read_eq_bare] at h
    split at h
    · cases h
    rcases hvalue : bare (value (skipSpace s)) with e | ⟨v, rest⟩ <;> rw [hvalue] at h
    · cases h
    simp only at h
    split at h
    · next hrest =>
      cases h
      obtain ⟨body, hs⟩ | ⟨body, hs⟩ | ⟨body, hs⟩ | hopen := opensPart_cases (skipSpace s)
      · rw [hs, bare_value_string] at hvalue
        rcases hstring : stringFrom ('"' :: body) [] body with e | x <;> rw [hstring] at hvalue <;>
          cases hvalue
      · rw [hs, bare_value_array, partFrom] at hvalue
        split at hvalue
        · cases hvalue
        · rcases hitems : bare (items (skipSpace body)) with e | x <;> rw [hitems] at hvalue <;>
            cases hvalue
      · rw [hs, bare_value_members] at hvalue
        rcases hmembers : writtenMembers (skipSpace body) with e | ⟨written, left⟩ <;>
          rw [hmembers] at hvalue <;> cases hvalue
        exact ⟨written, ⟨body, _, hs, hmembers, hrest⟩, rfl⟩
      · exact absurd hvalue (not_object_of_scalar hopen)
    · cases h
  · rintro ⟨written, ⟨body, rest, hs, hmembers, hrest⟩, rfl⟩
    rw [read_eq_bare, if_neg (head?_ne_mark hs), hs, bare_value_members, hmembers]
    simp only [Scan.into, Except.map, hrest]

/-- Members that are written down are held, whatever their keys are. -/
theorem holds_write {written : List (String × Value)} (h : PlainMembers written) :
    Holds ('\x7b' :: (writeMembers written ++ ['\x7d'])) written := by
  refine ⟨writeMembers written ++ ['\x7d'], [], rfl, ?_, rfl⟩
  cases written with
  | nil => rfl
  | cons m written =>
    obtain ⟨more, hmore⟩ := writeMembers_eq_cons m written
    obtain ⟨hlt, hmembers⟩ := members_writeMembers (m :: written) (List.cons_ne_nil m written) h []
    have hskip : skipSpace (writeMembers (m :: written) ++ ['\x7d']) =
        writeMembers (m :: written) ++ ['\x7d'] := by
      rw [hmore]
      rfl
    have hquote : (writeMembers (m :: written) ++ ['\x7d']).head? ≠ some '\x7d' := by
      rw [hmore, List.cons_append, List.head?_cons]
      decide
    rw [hskip, writtenMembers, if_neg hquote, hmembers]
    rfl

end TapeMachine.Json
