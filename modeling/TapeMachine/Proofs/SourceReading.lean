/-
Reading a source.

A source is read if and only if its bytes are UTF-8.  It is then the text that they encode, with
line feeds as its only line ends: every CR LF is turned into one, and every CR that remains.
Otherwise the failure tells where the first defect starts and how far it extends.

* **`withLineFeeds`** — a text with uniform line ends, in two rounds of replacement;
* **`normalizeNewlines_eq`** — one pass gives the same;
* **`readSource_reads_utf8`** — every file.
-/
import TapeMachine.Proofs.ConfigLoading
import TapeMachine.Proofs.LineEnds
import TapeMachine.Proofs.Utf8Defects

namespace TapeMachine

open TapeMachine.Action World Text

/-! ### Line ends -/

/-- The characters with every CR LF replaced by a line feed. -/
def withoutPairs : List Char → List Char
  | [] => []
  | '\r' :: '\n' :: rest => '\n' :: withoutPairs rest
  | c :: rest => c :: withoutPairs rest

/-- The characters with every CR LF, and then every CR that remains, replaced by a line feed. -/
def withLineFeeds (chars : List Char) : List Char :=
  (withoutPairs chars).map fun c => if c = '\r' then '\n' else c

variable {s : List Char}

/-- Both replacements are made in one pass. -/
theorem normalizeNewlines_eq (s : List Char) : normalizeNewlines s = withLineFeeds s := by
  rw [withLineFeeds]
  fun_induction withoutPairs s with
  | case1 => rfl
  | case2 rest ih =>
    rw [normalizeNewlines_crlf, ih]
    rfl
  | case3 c rest hpair ih =>
    -- A CR here has no line feed behind it.
    by_cases hc : c = '\r'
    · subst hc
      rw [normalizeNewlines_cr fun more hmore => hpair more rfl hmore, ih]
      rfl
    · rw [normalizeNewlines_cons hc, ih, List.map_cons, if_neg hc]

theorem cr_not_mem_withLineFeeds (s : List Char) : '\r' ∉ withLineFeeds s := by
  intro h
  obtain ⟨c, -, hc⟩ := List.mem_map.mp h
  split at hc
  · cases hc
  · next hne => exact hne hc

/-- A text without CR stays as it is. -/
theorem withLineFeeds_eq_self (h : '\r' ∉ s) : withLineFeeds s = s := by
  rw [← normalizeNewlines_eq]
  induction s with
  | nil => rfl
  | cons c rest ih =>
    rw [List.mem_cons, not_or] at h
    rw [normalizeNewlines_cons (Ne.symm h.1), ih h.2]

/-! ### Files -/

theorem perform_readSource (w : World) (path : String) :
    w.perform (readSource path) =
      (if Path.hasNull path then .error (.crash .nullInPath)
      else
        match w.tree.read w.cwd (Path.ofString path).text with
        | .error e => .error (.failure (.unreadable path e.reason))
        | .ok bytes =>
          match decodeText bytes with
          | .error defect => .error (.failure (.unreadable path defect.message))
          | .ok text => .ok text, w) := by
  rw [readSource, guardPath]
  split
  · rfl
  rw [perform_bind_ok (perform_pure w ()),
    perform_bind_ok (Config.perform_readFile w (Path.ofString path).text)]
  rcases w.tree.read w.cwd (Path.ofString path).text with e | bytes
  · rfl
  dsimp only
  rcases decodeText bytes <;> rfl

/-- What the bytes of a file are read as. -/
theorem perform_readSource_of_read {w : World} {path : String} {bytes : List UInt8}
    (hnull : Path.hasNull path = false)
    (hread : w.tree.read w.cwd (Path.ofString path).text = .ok bytes) :
    w.perform (readSource path) =
      (match Utf8.decode bytes with
        | .error d => .error (.failure (.unreadable path d.message))
        | .ok chars => .ok (String.ofList (withLineFeeds chars)), w) := by
  rw [perform_readSource, hnull, if_neg Bool.false_ne_true, hread]
  dsimp only
  rw [decodeText]
  rcases Utf8.decode bytes with d | chars
  · rfl
  · dsimp only
    rw [normalizeNewlines_eq]

/-- **A source is read if and only if its bytes are UTF-8, and otherwise the first defect is
reported.**  Let a path lead to a file.

It is read if and only if its bytes encode a text, which there is only one of.  Then it is read as
that text with line feeds in the place of CR LF and of other CR, so that no CR is left and a text
without CR stays as it is.

Otherwise the failure describes the first defect: the bytes in front of it encode a text, no
character starts with it, and it is the longest run from there that a character starts with, or one
byte if there is none.  That tells where it starts and how far it extends, and the failure names its
first byte. -/
theorem readSource_reads_utf8 (w : World) (path : String) (bytes : List UInt8)
    (hnull : Path.hasNull path = false)
    (hread : w.tree.read w.cwd (Path.ofString path).text = .ok bytes) :
    ((∃ text, (w.perform (readSource path)).1 = .ok text) ↔ ∃! text, Utf8.encode text = bytes) ∧
    (∀ text, Utf8.encode text = bytes →
      w.perform (readSource path) = (.ok (String.ofList (withLineFeeds text.toList)), w) ∧
        '\r' ∉ withLineFeeds text.toList ∧
        ('\r' ∉ text.toList → String.ofList (withLineFeeds text.toList) = text)) ∧
    ((¬∃ text, Utf8.encode text = bytes) →
      ∃ d : Utf8.Defect,
        w.perform (readSource path) = (.error (.failure (.unreadable path d.message)), w) ∧
          Utf8.FirstDefect bytes d.start d.length ∧ bytes[d.start]? = some d.first ∧
          ∀ start length, Utf8.FirstDefect bytes start length →
            start = d.start ∧ length = d.length) := by
  have hperform := perform_readSource_of_read hnull hread
  have htexts : ∀ text, Utf8.encode text = bytes →
      w.perform (readSource path) = (.ok (String.ofList (withLineFeeds text.toList)), w) := by
    intro text htext
    rw [hperform, Utf8.decode_eq_ok_iff.mpr htext]
  have hdefects : ∀ d, Utf8.decode bytes = .error d →
      w.perform (readSource path) = (.error (.failure (.unreadable path d.message)), w) := by
    intro d hd
    rw [hperform, hd]
  refine ⟨⟨fun ⟨read, hok⟩ => ?_, fun ⟨text, htext, _⟩ => ?_⟩, fun text htext => ?_,
    fun hnone => ?_⟩
  · rcases hdecode : Utf8.decode bytes with d | chars
    · rw [hdefects d hdecode] at hok
      cases hok
    · rw [← String.toList_ofList (l := chars)] at hdecode
      have htext := Utf8.decode_eq_ok_iff.mp hdecode
      exact ⟨_, htext, fun text' htext' => Utf8.encode_injective (htext'.trans htext.symm)⟩
  · exact ⟨_, congrArg Prod.fst (htexts text htext)⟩
  · refine ⟨htexts text htext, cr_not_mem_withLineFeeds _, fun hcr => ?_⟩
    rw [withLineFeeds_eq_self hcr, String.ofList_toList]
  · rcases hdecode : Utf8.decode bytes with d | chars
    · obtain ⟨hdefect, hfirst⟩ := Utf8.firstDefect_of_decode hdecode
      -- Decoding would come upon any other first defect, and it comes upon one only.
      refine ⟨d, hdefects d hdecode, hdefect, hfirst, fun start length hother => ?_⟩
      obtain ⟨d', hd', rfl, rfl⟩ := Utf8.decode_of_firstDefect hother
      cases hdecode.symm.trans hd'
      exact ⟨rfl, rfl⟩
    · rw [← String.toList_ofList (l := chars)] at hdecode
      exact absurd ⟨_, Utf8.decode_eq_ok_iff.mp hdecode⟩ hnone

/-- A sequence that lacks its third byte, behind a CR LF: two bytes belong to the defect. -/
theorem readSource_reads_utf8_of_cut_sequence :
    let bytes : List UInt8 := [0x61, 0x0D, 0x0A, 0xE0, 0xA0, 0x41]
    let w : World :=
      { tree := ⟨[(["f"], .file bytes)]⟩, cwd := [], clock := ⟨2024, 5, 17, 9, 30, 0, 0⟩ }
    Path.hasNull "f" = false ∧ w.tree.read w.cwd (Path.ofString "f").text = .ok bytes ∧
      w.perform (readSource "f") = (.error (.failure (.unreadable "f"
        "'utf-8' codec can't decode bytes in position 3-4: invalid continuation byte")), w) ∧
      Utf8.FirstDefect bytes 3 2 := by
  intro bytes w
  have hnull : Path.hasNull "f" = false := by decide
  have hread : w.tree.read w.cwd (Path.ofString "f").text = .ok bytes := by decide +kernel
  have hdecode : Utf8.decode bytes = .error ⟨3, 2, 0xE0, .badContinuation⟩ := by decide +kernel
  obtain ⟨-, -, hdefective⟩ := readSource_reads_utf8 w "f" bytes hnull hread
  have hnone : ¬∃ text, Utf8.encode text = bytes := by
    rintro ⟨text, htext⟩
    cases hdecode.symm.trans (Utf8.decode_eq_ok_iff.mpr htext)
  obtain ⟨d, -, hdefect, -, honly⟩ := hdefective hnone
  obtain ⟨hstart, hlength⟩ := honly 3 2 (Utf8.firstDefect_of_decode hdecode).1
  refine ⟨hnull, hread, ?_, ?_⟩
  · rw [perform_readSource_of_read hnull hread, hdecode]
    rfl
  · rw [hstart, hlength]
    exact hdefect

end TapeMachine
