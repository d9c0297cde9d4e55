/-
How loading a configuration can end.

Either the file spells a configuration on top of the defaults, or the configuration is
reported as bad.  Three kinds of content are the exception, and end the command without a
report: bytes that are not UTF-8, an integer with more digits than are read, and an array or
an object in more others than the surroundings can follow.

* **`Config.Spells`** — what it means for a file to spell a configuration;
* **`Config.Unprepared`** — the contents that nothing handles;
* **`Config.load_classified`** — every world and every path;
* **`Config.load_crashes_on_bad_bytes`** — one file that is not reported.
-/
import TapeMachine.Proofs.JsonRefusal
import TapeMachine.Proofs.Surroundings

namespace TapeMachine

open TapeMachine.Action World

/-! ### Surrogates -/

namespace Json

/-- Whether every escape of a surrogate in a text is half of a pair.  Otherwise a string of the text
holds what no `String` can hold. -/
inductive Paired : List Char → Prop
  | nil : Paired []
  | char {c : Char} {rest : List Char} (hc : c ≠ '\\') (h : Paired rest) : Paired (c :: rest)
  | letter {c : Char} {rest : List Char} (hc : c ≠ 'u') (h : Paired rest) :
      Paired ('\\' :: c :: rest)
  | unit {digits rest : List Char} {unit : Nat} (hdigits : codeUnit? digits = some (unit, rest))
      (hunit : unit < 0xD800 ∨ 0xDFFF < unit) (h : Paired rest) : Paired ('\\' :: 'u' :: digits)
  | pair {digits rest rest' : List Char} {high low : Nat}
      (hdigits : codeUnit? digits = some (high, rest)) (hhigh : 0xD800 ≤ high ∧ high ≤ 0xDBFF)
      (hlow : lowSurrogate? rest = some (low, rest')) (h : Paired rest') :
      Paired ('\\' :: 'u' :: digits)

/-- Text without a backslash does not matter. -/
theorem Paired.append {front rest : List Char} (hfront : '\\' ∉ front) (h : Paired rest) :
    Paired (front ++ rest) := by
  induction front with
  | nil => exact h
  | cons c front ih =>
    rw [List.mem_cons, not_or] at hfront
    exact .char (Ne.symm hfront.1) (ih hfront.2)

theorem Paired.of_not_mem {s : List Char} (h : '\\' ∉ s) : Paired s := by
  have happend := Paired.append h .nil
  rwa [List.append_nil] at happend

end Json

namespace Config

/-! ### What a file spells -/

/-- The configuration of a text that was read from a file, where `room` arrays and objects may be
open within one another. -/
def ofText (room : Nat) (path text : String) : Except Problem Config :=
  match Json.tooDeep? room text.toList with
  | some k => .error (.crash (.nestedTooDeep k))
  | none =>
    match Json.read text.toList with
    | .ok (.object ms) => (override ms).mapError fun f => .failure (.badConfig f.reason)
    | .ok _ => .error (.failure (.badConfig s!"{path} must contain a JSON object"))
    | .error (.unexpected e rest) =>
      .error (.failure (.badConfig s!"could not load {path}: {e.message text.toList rest}"))
    | .error (.integerTooLong digits) => .error (.crash (.integerTooLong digits))

/-- Whether a path leads to a file, and to which bytes. -/
def Finds (w : World) (path : String) (bytes : List UInt8) : Prop :=
  Path.hasNull path = false ∧ w.tree.read w.cwd path = .ok bytes

/-- Whether a text at a path spells no surrogate that stands alone. -/
def Paired (w : World) (path : String) : Prop :=
  ∀ bytes text, Finds w path bytes → decodeText bytes = .ok text → Json.Paired text.toList

/-- Whether a configuration is the one at a path: the defaults if no path is given, and otherwise
the defaults with the members of the object in the file set, if those are accepted. -/
def Spells (w : World) : Option String → Config → Prop
  | none, c => c = {}
  | some path, c =>
    ∃ bytes text ms, Finds w path bytes ∧ decodeText bytes = .ok text ∧
      Json.tooDeep? w.depths.parts text.toList = none ∧
      Json.read text.toList = .ok (.object ms) ∧ override ms = .ok c

/-- The contents of a file that nothing handles, and how they end the command: bytes that are not
UTF-8, texts with an integer of too many digits, and texts that are nested too deep for `room`
arrays and objects. -/
inductive Unprepared (room : Nat) : List UInt8 → Crash → Prop
  | undecodable {bytes : List UInt8} {d : Utf8.Defect} (h : Utf8.decode bytes = .error d) :
      Unprepared room bytes (.undecodable d)
  | nestedTooDeep {bytes : List UInt8} {text : String} {k : Json.Container}
      (htext : decodeText bytes = .ok text) (h : Json.tooDeep? room text.toList = some k) :
      Unprepared room bytes (.nestedTooDeep k)
  | integerTooLong {bytes : List UInt8} {text : String} {n : Nat}
      (htext : decodeText bytes = .ok text) (hdepth : Json.tooDeep? room text.toList = none)
      (h : Json.read text.toList = .error (.integerTooLong n)) :
      Unprepared room bytes (.integerTooLong n)

variable {w : World} {room : Nat} {path text : String} {bytes : List UInt8} {c : Config}
  {crash : Crash}

theorem decodeText_eq_error_iff {d : Utf8.Defect} :
    decodeText bytes = .error d ↔ Utf8.decode bytes = .error d := by
  rw [decodeText]
  cases Utf8.decode bytes <;> simp

theorem paired_of_text (hread : w.tree.read w.cwd path = .ok bytes)
    (htext : decodeText bytes = .ok text) (h : Json.Paired text.toList) : Paired w path := by
  intro bytes' text' hfinds hdecode
  cases hread.symm.trans hfinds.2
  cases htext.symm.trans hdecode
  exact h

/-- Every configuration is accepted when its members are checked. -/
theorem ofMembers_members (c : Config) : ofMembers c.members = .ok c := by
  obtain ⟨policy, maxSteps, logRuns, outputDirectory, logFilePrefix⟩ := c
  cases policy <;> rfl

theorem ofText_eq_ok_iff :
    ofText room path text = .ok c ↔
      Json.tooDeep? room text.toList = none ∧
        ∃ ms, Json.read text.toList = .ok (.object ms) ∧ override ms = .ok c := by
  rw [ofText]
  constructor
  · intro h
    split at h
    · cases h
    next hdepth =>
    split at h
    · next ms hread =>
      rcases hset : override ms with f | c' <;> rw [hset] at h <;> cases h
      exact ⟨hdepth, ms, hread, hset⟩
    all_goals cases h
  · rintro ⟨hdepth, ms, hread, hset⟩
    rw [hdepth]
    dsimp only
    rw [hread]
    dsimp only
    rw [hset]
    rfl

/-- The texts that end the command without a report. -/
theorem ofText_eq_crash_iff (htext : decodeText bytes = .ok text) :
    ofText room path text = .error (.crash crash) ↔ Unprepared room bytes crash := by
  rw [ofText]
  constructor
  · intro h
    split at h
    · next k hdeep =>
      cases h
      exact .nestedTooDeep htext hdeep
    next hdepth =>
    split at h
    · next ms _ => rcases hset : override ms with f | c' <;> rw [hset] at h <;> cases h
    · cases h
    · cases h
    · next n hread =>
      cases h
      exact .integerTooLong htext hdepth hread
  · intro h
    cases h with
    | undecodable hd => cases htext.symm.trans (decodeText_eq_error_iff.2 hd)
    | nestedTooDeep htext' hdeep =>
      cases htext.symm.trans htext'
      rw [hdeep]
    | integerTooLong htext' hdepth hread =>
      cases htext.symm.trans htext'
      rw [hdepth]
      dsimp only
      rw [hread]

/-- A text that is refused is a bad configuration. -/
theorem badConfig_of_ofText {f : Failure} (h : ofText room path text = .error (.failure f)) :
    ∃ reason, f = .badConfig reason := by
  rw [ofText] at h
  split at h
  · cases h
  split at h
  · next ms _ =>
    rcases hset : override ms with e | c' <;> rw [hset] at h <;> cases h
    exact ⟨_, rfl⟩
  · cases h
    exact ⟨_, rfl⟩
  · cases h
    exact ⟨_, rfl⟩
  · cases h

/-! ### Loading -/

theorem perform_pathExists (w : World) (path : String) :
    w.perform (pathExists path) =
      (.ok (!Path.hasNull path && (w.tree.stat w.cwd path).isOk), w) := by
  rw [pathExists]
  rcases Path.hasNull path
  · rw [if_neg Bool.false_ne_true, perform_bind_ok (perform_isDirectory w path)]
    rcases w.tree.stat w.cwd path with e | node <;> rfl
  · rfl

theorem perform_readFile (w : World) (path : String) :
    w.perform (Host.readFile path) = (.ok (w.tree.read w.cwd path), w) :=
  rfl

/-- Without a file that can be read, the configuration is bad. -/
theorem perform_load_of_missing (h : ∀ bytes, ¬Finds w path bytes) :
    ∃ reason, w.perform (load (some path)) = (.error (.failure (.badConfig reason)), w) := by
  rw [load, perform_bind_ok (perform_pathExists w path)]
  rcases hexists : !Path.hasNull path && (w.tree.stat w.cwd path).isOk
  · exact ⟨_, rfl⟩
  -- Something is there, and so it is the reading that fails.
  rw [Bool.and_eq_true, Bool.not_eq_true'] at hexists
  obtain ⟨e, hread⟩ : ∃ e, w.tree.read w.cwd path = .error e := by
    rcases hread : w.tree.read w.cwd path with e | bytes
    · exact ⟨e, rfl⟩
    · exact absurd ⟨hexists.1, hread⟩ (h bytes)
  rw [Bool.not_true, if_neg Bool.false_ne_true, loadJson, bind_assoc,
    perform_bind_ok (perform_readFile w path), hread]
  exact ⟨_, rfl⟩

/-- A file that can be read is decoded, and then its text spells the configuration or not. -/
theorem perform_load_of_finds (h : Finds w path bytes) :
    w.perform (load (some path)) =
      (match decodeText bytes with
        | .error d => .error (.crash (.undecodable d))
        | .ok text => ofText w.depths.parts path text, w) := by
  obtain ⟨hnull, hread⟩ := h
  have hexists : (!Path.hasNull path && (w.tree.stat w.cwd path).isOk) = true := by
    rw [Tree.read] at hread
    rcases hstat : w.tree.stat w.cwd path with e | node <;> rw [hstat] at hread
    · cases hread
    · rw [hnull]
      rfl
  rw [load, perform_bind_ok (perform_pathExists w path), hexists, Bool.not_true,
    if_neg Bool.false_ne_true, loadJson, bind_assoc,
    perform_bind_ok (perform_readFile w path), hread]
  dsimp only
  rcases decodeText bytes with d | text
  · rfl
  dsimp only
  rw [readJson, ofText, bind_assoc, perform_bind_ok (perform_depths w)]
  rcases Json.tooDeep? w.depths.parts text.toList with _ | k
  · dsimp only
    rcases Json.read text.toList with (⟨e, rest⟩ | n) | v
    · rfl
    · rfl
    cases v with
    | object ms =>
      rw [perform_bind_ok (perform_pure w _)]
      dsimp only
      rcases override ms <;> rfl
    | _ => rfl
  · rfl

theorem load_eq_ok_iff (w : World) (path : Option String) (c : Config) :
    (w.perform (load path)).1 = .ok c ↔ Spells w path c := by
  rcases path with _ | path
  · exact ⟨fun h => (Except.ok.inj h).symm, fun h => congrArg Except.ok h.symm⟩
  by_cases hfinds : ∃ bytes, Finds w path bytes
  · obtain ⟨bytes, hfinds⟩ := hfinds
    rw [perform_load_of_finds hfinds]
    constructor
    · intro h
      rcases htext : decodeText bytes with d | text <;> rw [htext] at h
      · cases h
      · obtain ⟨hdepth, ms, hread, hset⟩ := ofText_eq_ok_iff.1 h
        exact ⟨bytes, text, ms, hfinds, htext, hdepth, hread, hset⟩
    · rintro ⟨bytes', text, ms, hfinds', htext, hdepth, hread, hset⟩
      cases hfinds.2.symm.trans hfinds'.2
      rw [htext]
      exact ofText_eq_ok_iff.2 ⟨hdepth, ms, hread, hset⟩
  · obtain ⟨reason, hload⟩ := perform_load_of_missing (not_exists.1 hfinds)
    rw [hload]
    exact ⟨fun h => (nomatch h), fun ⟨bytes, _, _, h, _⟩ => absurd ⟨bytes, h⟩ hfinds⟩

theorem load_eq_crash_iff (w : World) (path : Option String) (crash : Crash) :
    (w.perform (load path)).1 = .error (.crash crash) ↔
      ∃ p bytes, path = some p ∧ Finds w p bytes ∧ Unprepared w.depths.parts bytes crash := by
  rcases path with _ | path
  · exact ⟨fun h => (nomatch h), fun ⟨_, _, h, _⟩ => nomatch h⟩
  by_cases hfinds : ∃ bytes, Finds w path bytes
  · obtain ⟨bytes, hfinds⟩ := hfinds
    rw [perform_load_of_finds hfinds]
    constructor
    · intro h
      refine ⟨path, bytes, rfl, hfinds, ?_⟩
      rcases htext : decodeText bytes with d | text <;> rw [htext] at h
      · cases h
        exact .undecodable (decodeText_eq_error_iff.1 htext)
      · exact (ofText_eq_crash_iff htext).1 h
    · rintro ⟨path', bytes', hpath, hfinds', hbytes⟩
      cases hpath
      cases hfinds.2.symm.trans hfinds'.2
      rcases htext : decodeText bytes with d | text
      · cases hbytes with
        | undecodable hd => rw [decodeText_eq_error_iff.1 htext] at hd; cases hd; rfl
        | nestedTooDeep htext' _ => cases htext.symm.trans htext'
        | integerTooLong htext' _ _ => cases htext.symm.trans htext'
      · exact (ofText_eq_crash_iff htext).2 hbytes
  · obtain ⟨reason, hload⟩ := perform_load_of_missing (not_exists.1 hfinds)
    rw [hload]
    refine ⟨fun h => (nomatch h), fun ⟨path', bytes, hpath, h, _⟩ => ?_⟩
    cases hpath
    exact absurd ⟨bytes, h⟩ hfinds

theorem badConfig_of_load {path : Option String} {f : Failure}
    (h : (w.perform (load path)).1 = .error (.failure f)) : ∃ reason, f = .badConfig reason := by
  rcases path with _ | path
  · cases h
  by_cases hfinds : ∃ bytes, Finds w path bytes
  · obtain ⟨bytes, hfinds⟩ := hfinds
    rw [perform_load_of_finds hfinds] at h
    rcases htext : decodeText bytes with d | text <;> rw [htext] at h
    · cases h
    · exact badConfig_of_ofText h
  · obtain ⟨reason, hload⟩ := perform_load_of_missing (not_exists.1 hfinds)
    rw [hload] at h
    cases h
    exact ⟨reason, rfl⟩

/-- A text that is not nested too deep, and in which no run of digits is too long, is handled. -/
theorem not_unprepared (htext : decodeText bytes = .ok text)
    (hdepth : Json.tooDeep? room text.toList = none)
    (hdigits : ∀ n, Json.HasDigitRun n text.toList → n ≤ Json.maxIntegerDigits) :
    ¬Unprepared room bytes crash := by
  rintro (hd | ⟨htext', hdeep⟩ | ⟨htext', -, hread⟩)
  · cases htext.symm.trans (decodeText_eq_error_iff.2 hd)
  · cases htext.symm.trans htext'
    cases hdepth.symm.trans hdeep
  · cases htext.symm.trans htext'
    obtain ⟨hlong, hrun⟩ := Json.within_of_read hread
    exact absurd (hdigits _ hrun) (Nat.not_le.2 hlong)

/-- **Loading a configuration is total but for three kinds of content.**  In every world and for
every path, loading changes nothing, and ends in one of three ways.

It hands back a configuration if and only if the file spells one on top of the defaults, which is
then accepted by the check of its members.  It crashes if and only if the file is there and holds
bytes that are not UTF-8, a text that is nested deeper than the world can follow, or a text with an
integer of too many digits; so it does not crash on a text that is not nested too deep and in which
no run of digits is longer than what is read.  In all other cases the configuration is reported as
bad. -/
theorem load_classified (w : World) (path : Option String) :
    (w.perform (load path)).2 = w ∧
      (∀ c, (w.perform (load path)).1 = .ok c ↔ Spells w path c) ∧
      (∀ c, (w.perform (load path)).1 = .ok c → ofMembers c.members = .ok c) ∧
      (∀ f, (w.perform (load path)).1 = .error (.failure f) → ∃ reason, f = .badConfig reason) ∧
      (∀ crash, (w.perform (load path)).1 = .error (.crash crash) ↔
        ∃ p bytes, path = some p ∧ Finds w p bytes ∧ Unprepared w.depths.parts bytes crash) ∧
      ((∀ p bytes, path = some p → Finds w p bytes → ∃ text, decodeText bytes = .ok text ∧
          Json.tooDeep? w.depths.parts text.toList = none ∧
          ∀ n, Json.HasDigitRun n text.toList → n ≤ Json.maxIntegerDigits) →
        ∀ crash, (w.perform (load path)).1 ≠ .error (.crash crash)) := by
  refine ⟨(looks_load path w).1, load_eq_ok_iff w path, fun c _ => ofMembers_members c,
    fun f => badConfig_of_load, load_eq_crash_iff w path, fun hprepared crash hcrash => ?_⟩
  obtain ⟨p, bytes, hpath, hfinds, hbytes⟩ := (load_eq_crash_iff w path crash).1 hcrash
  obtain ⟨text, htext, hdepth, hdigits⟩ := hprepared p bytes hpath hfinds
  exact not_unprepared htext hdepth hdigits hbytes

/-- A file that sets two keys. -/
theorem load_classified_of_two_keys :
    let v : Json.Value := .object [("max_steps", .int 5), ("log_runs", .bool true)]
    let text := String.ofList (Json.write v)
    let w : World :=
      { tree := ⟨[(["c"], .file (Utf8.encode text))]⟩, cwd := []
        clock := ⟨2024, 5, 17, 9, 30, 0, 0⟩ }
    w.perform (load (some "c")) = (.ok { maxSteps := 5, logRuns := true }, w) ∧
      ∀ crash, (w.perform (load (some "c"))).1 ≠ .error (.crash crash) := by
  intro v text w
  obtain ⟨hworld, hok, -, -, -, hprepared⟩ := load_classified w (some "c")
  have hfinds : Finds w "c" (Utf8.encode text) := ⟨by decide +kernel, rfl⟩
  have htext : decodeText (Utf8.encode text) = .ok text := by decide +kernel
  have hdepth : Json.tooDeep? w.depths.parts text.toList = none := by decide +kernel
  have hread : Json.read text.toList = .ok v := by
    have hfive : (Nat.toDigits 10 5).length ≤ Json.maxIntegerDigits := by decide +kernel
    rw [String.toList_ofList]
    exact Json.read_write ⟨by decide, hfive, trivial, trivial⟩
  refine ⟨Prod.ext ((hok _).2 ?_) hworld, hprepared fun p bytes hpath hfinds' => ?_⟩
  · exact ⟨_, _, _, hfinds, htext, hdepth, hread, by decide +kernel⟩
  · cases hpath
    cases hfinds.2.symm.trans hfinds'.2
    refine ⟨_, htext, hdepth, fun n hrun => ?_⟩
    -- No run of digits is longer than the text.
    obtain ⟨digits, hlength, -, hinfix⟩ := hrun
    have hshort : text.toList.length ≤ Json.maxIntegerDigits := by decide +kernel
    rw [← hlength]
    exact hinfix.length_le.trans hshort

/-- A byte that starts no character: the configuration is neither loaded nor reported as bad. -/
theorem load_crashes_on_bad_bytes :
    let w : World :=
      { tree := ⟨[(["c"], .file [0xFF])]⟩, cwd := [], clock := ⟨2024, 5, 17, 9, 30, 0, 0⟩ }
    (∀ c, (w.perform (load (some "c"))).1 ≠ .ok c) ∧
      ∀ reason, (w.perform (load (some "c"))).1 ≠ .error (.failure (.badConfig reason)) := by
  intro w
  have hcrash : (w.perform (load (some "c"))).1 =
      .error (.crash (.undecodable ⟨0, 1, 0xFF, .badStart⟩)) := by
    decide +kernel
  rw [hcrash]
  exact ⟨nofun, nofun⟩

end Config

end TapeMachine
