/-
The characters of paths.

A path is spelled with the characters of the text that it was read from, with slashes and
with the dot.  So the path of a log holds U+0000 only if its directory or its prefix does.

* **`Throughout`** — a property of all characters of a text;
* **`throughout_date`**, **`Time.date_eq_padded`** — the characters of a date;
* **`Path.throughout_text`**, **`Path.throughout_ofString`** — a path and its spelling;
* **`RunLog.throughout_file`**, **`RunLog.hasNull_of_file`** — the path of a log;
* **`Path.hasNull_eq_false_iff`** — the property that matters for files.
-/
import Mathlib.Tactic.ByContra
import TapeMachine.Proofs.AsciiText
import TapeMachine.Proofs.Surroundings

namespace TapeMachine

variable {P Q : Char → Prop} {text : String}

/-- Whether a property holds of all characters of a text. -/
def Throughout (P : Char → Prop) (text : String) : Prop :=
  ∀ c ∈ text.toList, P c

theorem Throughout.mono (h : Throughout P text) (hsub : ∀ c, P c → Q c) : Throughout Q text :=
  fun c hc => hsub c (h c hc)

theorem throughout_ofList {chars : List Char} :
    Throughout P (String.ofList chars) ↔ ∀ c ∈ chars, P c := by
  rw [Throughout, String.toList_ofList]

theorem throughout_append {t : String} :
    Throughout P (text ++ t) ↔ Throughout P text ∧ Throughout P t := by
  rw [Throughout, String.toList_append, List.forall_mem_append]
  rfl

theorem throughout_intercalate {texts : List String} (htext : Throughout P text)
    (h : ∀ t ∈ texts, Throughout P t) : Throughout P (text.intercalate texts) := by
  induction texts with
  | nil =>
    rw [String.intercalate_nil]
    exact List.forall_mem_nil _
  | cons t rest ih =>
    obtain ⟨ht, hrest⟩ := List.forall_mem_cons.mp h
    cases rest with
    | nil => rwa [String.intercalate_singleton]
    | cons u rest =>
      rw [String.intercalate_cons_cons, throughout_append, throughout_append]
      exact ⟨⟨ht, htext⟩, ih hrest⟩

/-- The date is made of digits and dashes. -/
theorem throughout_date (hdigit : ∀ c : Char, c.isDigit = true → P c) (hdash : P '-') (t : Time) :
    Throughout P t.date := by
  have hdigits : ∀ n, ∀ c ∈ Nat.toDigits 10 n, P c := by
    intro n c hc
    exact hdigit c (Nat.isDigit_of_mem_toDigits (by decide) (by decide) hc)
  have hyear : Throughout P (toString t.year) := by
    intro c hc
    have hrepr : (toString t.year).toList = Nat.toDigits 10 t.year := Nat.toList_repr
    rw [hrepr] at hc
    exact hdigits t.year c hc
  have hpadded : ∀ n, Throughout P (padded 2 n) := by
    intro n
    refine throughout_ofList.mpr (List.forall_mem_append.mpr ⟨?_, hdigits n⟩)
    intro c hc
    rw [List.eq_of_mem_replicate hc]
    exact hdigit '0' rfl
  have hdashes : Throughout P "-" := List.forall_mem_singleton.mpr hdash
  simp only [Time.date, throughout_append]
  exact ⟨⟨⟨⟨hyear, hdashes⟩, hpadded _⟩, hdashes⟩, hpadded _⟩

theorem printable_date (t : Time) : Throughout Text.IsPrintableAscii t.date := by
  refine throughout_date (fun c hc => ?_) (by decide) t
  exact Json.printable_of_isDigit hc

theorem length_padded {width n : Nat} (h : (Nat.toDigits 10 n).length ≤ width) :
    (padded width n).length = width := by
  rw [padded, String.length_ofList, List.length_append, List.length_replicate]
  omega

/-- A date takes four digits for the year, and two each for the month and the day. -/
theorem Time.date_eq_padded {t : Time} (hyear : 1000 ≤ t.year) (hyear' : t.year ≤ 9999)
    (hmonth : t.month ≤ 12) (hday : t.day ≤ 31) :
    t.date = padded 4 t.year ++ "-" ++ padded 2 t.month ++ "-" ++ padded 2 t.day ∧
      t.date.length = 10 := by
  have hless : (Nat.toDigits 10 t.year).length ≤ 4 := by
    rw [Nat.length_toDigits_le_iff (by decide) (by decide)]
    omega
  -- The year is written without zeros in front, but it has four digits by itself.
  have hfour : toString t.year = padded 4 t.year := by
    have hmore : ¬(Nat.toDigits 10 t.year).length ≤ 3 := by
      rw [Nat.length_toDigits_le_iff (by decide) (by decide)]
      omega
    have hnone : 4 - (Nat.toDigits 10 t.year).length = 0 := by omega
    have hrepr : (toString t.year).toList = Nat.toDigits 10 t.year := Nat.toList_repr
    rw [padded, hnone, List.replicate_zero, List.nil_append, ← hrepr, String.ofList_toList]
  have hdate : t.date = padded 4 t.year ++ "-" ++ padded 2 t.month ++ "-" ++ padded 2 t.day := by
    rw [date, hfour]
  have hdash : "-".length = 1 := rfl
  refine ⟨hdate, ?_⟩
  rw [hdate]
  simp only [String.length_append, hdash]
  have htwo : ∀ n < 100, (Nat.toDigits 10 n).length ≤ 2 := by
    intro n hn
    exact (Nat.length_toDigits_le_iff (by decide) (by decide)).mpr hn
  rw [length_padded hless, length_padded (htwo _ (by omega)), length_padded (htwo _ (by omega))]

/-- Every character of a piece is one of the text. -/
theorem Text.mem_of_mem_pieces {separator c : Char} {chars piece : List Char}
    (hpiece : piece ∈ pieces separator chars) (hc : c ∈ piece) : c ∈ chars := by
  induction chars generalizing piece with
  | nil =>
    rw [pieces, List.mem_singleton] at hpiece
    exact hpiece ▸ hc
  | cons d rest ih =>
    have hrest : ∀ p ∈ pieces separator rest, c ∈ p → c ∈ d :: rest :=
      fun p hp hcp => List.mem_cons_of_mem d (ih hp hcp)
    rw [pieces] at hpiece
    split at hpiece
    · rcases List.mem_cons.mp hpiece with rfl | hpiece
      · cases hc
      · exact hrest piece hpiece hc
    · split at hpiece
      · next first more hsplit =>
        rw [hsplit] at hrest
        rcases List.mem_cons.mp hpiece with rfl | hpiece
        · rcases List.mem_cons.mp hc with rfl | hc
          · exact List.mem_cons_self
          · exact hrest first List.mem_cons_self hc
        · exact hrest piece (List.mem_cons_of_mem first hpiece) hc
      · next hnil => exact absurd hnil (pieces_ne_nil separator rest)

namespace Path

/-- Whether a property holds of all characters of a path. -/
structure Throughout (P : Char → Prop) (p : Path) : Prop where
  root : TapeMachine.Throughout P p.root
  names : ∀ name ∈ p.names, TapeMachine.Throughout P name

variable {p q : Path}

theorem Throughout.join (hp : p.Throughout P) (hq : q.Throughout P) : (p.join q).Throughout P := by
  rw [Path.join]
  split
  · exact ⟨hp.root, List.forall_mem_append.mpr ⟨hp.names, hq.names⟩⟩
  · exact hq

theorem throughout_ofString (hslash : P '/') (h : TapeMachine.Throughout P text) :
    (Path.ofString text).Throughout P := by
  refine ⟨?_, fun name hname => ?_⟩
  · show TapeMachine.Throughout P (rootOf text.toList)
    rw [rootOf]
    split
    · exact List.forall_mem_nil _
    · exact List.forall_mem_cons.mpr ⟨hslash, List.forall_mem_singleton.mpr hslash⟩
    · exact List.forall_mem_singleton.mpr hslash
  · obtain ⟨piece, hpiece, rfl⟩ := List.mem_map.mp hname
    have hpiece := (List.mem_filter.mp hpiece).1
    exact throughout_ofList.mpr fun c hc => h c (Text.mem_of_mem_pieces hpiece hc)

theorem throughout_text (hslash : P '/') (hdot : P '.') (h : p.Throughout P) :
    TapeMachine.Throughout P p.text := by
  rw [text]
  split
  · exact List.forall_mem_singleton.mpr hdot
  · exact throughout_append.mpr
      ⟨h.root, throughout_intercalate (List.forall_mem_singleton.mpr hslash) h.names⟩

/-- What makes a spelling acceptable to a file system. -/
theorem hasNull_eq_false_iff :
    hasNull text = false ↔ TapeMachine.Throughout (· ≠ '\x00') text := by
  rw [hasNull, ← Bool.not_eq_true, List.contains_iff_mem]
  exact ⟨fun h c hc hnull => h (hnull ▸ hc), fun h hmem => h _ hmem rfl⟩

end Path

namespace RunLog

/-- The path of a log is made of the characters of its directory and of its prefix. -/
theorem throughout_file (hprintable : ∀ c, Text.IsPrintableAscii c → P c)
    {directory filePrefix : String} (hdirectory : Throughout P directory)
    (hstart : Throughout P filePrefix) (t : Time) :
    Throughout P (ofDay directory filePrefix t.date).file.text := by
  have hslash : P '/' := hprintable _ (by decide)
  have hdot : P '.' := hprintable _ (by decide)
  have hname : Throughout P (filePrefix ++ t.date ++ ".jsonl") := by
    have hending : Throughout Text.IsPrintableAscii ".jsonl" :=
      Json.printable_of_all (by decide)
    rw [throughout_append, throughout_append]
    exact ⟨⟨hstart, (printable_date t).mono hprintable⟩, hending.mono hprintable⟩
  exact Path.throughout_text hslash hdot
    ((Path.throughout_ofString hslash hdirectory).join (Path.throughout_ofString hslash hname))

/-- The path of a log holds no U+0000 if its directory and its prefix hold none. -/
theorem hasNull_file_eq_false {directory filePrefix : String}
    (hdirectory : Path.hasNull directory = false) (hstart : Path.hasNull filePrefix = false)
    (t : Time) : Path.hasNull (ofDay directory filePrefix t.date).file.text = false := by
  rw [Path.hasNull_eq_false_iff] at hdirectory hstart ⊢
  refine throughout_file ?_ hdirectory hstart t
  rintro c ⟨hlow, -⟩ rfl
  exact absurd hlow (by decide)

/-- The path of a log that holds U+0000 has it from the directory or from the prefix. -/
theorem hasNull_of_file {directory filePrefix : String} {t : Time}
    (h : Path.hasNull (ofDay directory filePrefix t.date).file.text = true) :
    Path.hasNull directory = true ∨ Path.hasNull filePrefix = true := by
  by_contra hnone
  rw [not_or, Bool.not_eq_true, Bool.not_eq_true] at hnone
  cases (hasNull_file_eq_false hnone.1 hnone.2 t).symm.trans h

end RunLog

end TapeMachine
