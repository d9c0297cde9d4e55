/-
The file of a log: calls, one after the other, and what can be read in it afterwards.

Any number of logs may be open on the same file, and each call may go through any of
them.  A call adds one line at the end, whoever made the call before.  The line is
printable ASCII whatever text the run is about, so its only line feed is the last
character, and the entry is read back from it.

* **`RunLog.Call`**, **`RunLog.performAll`** — calls, each at its own point of time;
* **`RunLog.grown_of_perform`**, **`RunLog.grown_of_performAll`** — what one call and what
  several calls do to the file;
* **`RunLog.plain_entry`** — every entry is a value that reads back;
* **`RunLog.readLines_lines`** — the entries that lines of a log hold;
* **`RunLog.performAll_read_back`** — nothing is lost, merged or reordered.
-/
import Mathlib.Data.List.Basic
import TapeMachine.Proofs.AsciiText
import TapeMachine.Proofs.FileTree
import TapeMachine.Proofs.JsonReading
import TapeMachine.Proofs.Surroundings

namespace TapeMachine.RunLog

/-- A call that logs a run, through some log at some point of time. -/
structure Call where
  log : RunLog
  time : Time
  program : String
  tape : String
  machine : Machine
  steps : Int
  failure : Option Failure

/-- The entry that a call is for. -/
def Call.entry (c : Call) : Json.Value :=
  RunLog.entry c.time c.program c.tape c.machine c.steps c.failure

/-- What a call hands back in a world, and the world that it leaves. -/
def Call.perform (c : Call) (w : World) : Except Problem Json.Value × World :=
  { w with clock := c.time }.perform
    (c.log.writeRun c.program c.tape c.machine c.steps c.failure)

/-- What calls hand back that are made one after the other, and the world that they leave. -/
def performAll : List Call → World → List (Except Problem Json.Value) × World
  | [], w => ([], w)
  | c :: calls, w =>
    let rest := performAll calls (c.perform w).2
    ((c.perform w).1 :: rest.1, rest.2)

/-- The bytes of some entries, each on a line of its own. -/
def linesOf (entries : List Json.Value) : List UInt8 :=
  entries.flatMap fun v => Utf8.encode (line v)

/-- The entries that text holds, if it consists of lines that each hold one. -/
def readLines (chars : List Char) : Option (List Json.Value) :=
  let pieces := Text.pieces '\n' chars
  if pieces.getLast? = some [] then pieces.dropLast.mapM fun piece => (Json.read piece).toOption
  else none

variable {w w' : World} {calls : List Call} {c : Call} {v : Json.Value} {entries : List Json.Value}

/-! ### The file -/

/-- One call adds one line, and changes nothing else. -/
theorem grown_of_perform (h : c.perform w = (.ok v, w')) :
    v = c.entry ∧ w.tree.Grown w.cwd c.log.file.text (Utf8.encode (line v)) w'.tree ∧
      w'.cwd = w.cwd ∧ w'.out = w.out ∧ w'.err = w.err := by
  obtain ⟨hv, tree, happend, rfl⟩ := World.perform_writeRun_eq_ok h
  exact ⟨hv, Tree.grown_of_append happend, rfl, rfl, rfl⟩

/-- Calls through logs of one file add their lines in the order of the calls. -/
theorem grown_of_performAll {path : String} (hlogs : ∀ c ∈ calls, c.log.file.text = path)
    (h : performAll calls w = (entries.map .ok, w')) :
    entries = calls.map Call.entry ∧ w.tree.Grown w.cwd path (linesOf entries) w'.tree ∧
      w'.cwd = w.cwd ∧ w'.out = w.out ∧ w'.err = w.err := by
  induction calls generalizing w entries with
  | nil =>
    obtain ⟨hentries, rfl⟩ := Prod.mk.inj h
    obtain rfl := List.map_eq_nil_iff.mp hentries.symm
    exact ⟨rfl, Tree.Grown.refl _ _ _, rfl, rfl, rfl⟩
  | cons c calls ih =>
    obtain ⟨hpath, hpaths⟩ := List.forall_mem_cons.mp hlogs
    obtain ⟨hentries, hworld⟩ := Prod.mk.inj h
    obtain ⟨v, rest, rfl, hv, hrest⟩ := List.map_eq_cons_iff.mp hentries.symm
    obtain ⟨hentry, hgrown, hcwd, hout, herr⟩ := grown_of_perform (Prod.ext hv.symm rfl)
    obtain ⟨hentries', hgrown', hcwd', hout', herr'⟩ :=
      ih hpaths (Prod.ext hrest.symm hworld)
    -- The first call leaves the working directory, so the path leads to the same file.
    rw [hcwd] at hgrown'
    rw [hpath] at hgrown
    refine ⟨?_, hgrown.trans hgrown', hcwd'.trans hcwd, hout'.trans hout, herr'.trans herr⟩
    rw [hentry, hentries', List.map_cons]

/-! ### The entries -/

theorem plainItems_map_str (texts : List String) : Json.PlainItems (texts.map .str) := by
  induction texts with
  | nil => trivial
  | cons text texts ih => exact ⟨trivial, ih⟩

/-- An entry is a value that reads back, if the count of steps and the head do. -/
theorem plain_entry (time : Time) (program tape : String) {machine : Machine} {steps : Int}
    (failure : Option Failure) (hsteps : Json.Plain (.int steps))
    (hhead : Json.Plain (.int machine.head)) :
    Json.Plain (entry time program tape machine steps failure) := by
  have herror : Json.Plain (failure.elim .null fun f => .str f.message) := by
    cases failure <;> trivial
  have hkeys : ["timestamp", "program", "tape", "steps", "outcome", "error", "final_state",
      "head", "final_tape"].Nodup := by
    decide
  refine ⟨hkeys, ?_⟩
  exact ⟨trivial, trivial, trivial, hsteps, trivial, herror, trivial, hhead,
    plainItems_map_str machine.tape, trivial⟩

/-! ### The lines -/

/-- The text of some entries, each on a line of its own. -/
def textOf (entries : List Json.Value) : List Char :=
  (entries.map Json.write).flatMap (· ++ ['\n'])

theorem ascii_textOf (entries : List Json.Value) : ∀ c ∈ textOf entries, c.toNat < 0x80 := by
  intro c hc
  obtain ⟨text, htext, hc⟩ := List.mem_flatMap.mp hc
  obtain ⟨v, -, rfl⟩ := List.mem_map.mp htext
  rcases List.mem_append.mp hc with hc | hc
  · exact Nat.lt_trans (Json.printable_write v c hc).2 (by decide)
  · rw [List.mem_singleton.mp hc]
    decide

/-- The bytes of lines are those of their text. -/
theorem linesOf_eq (entries : List Json.Value) :
    linesOf entries = (textOf entries).map Utf8.asciiByte := by
  rw [linesOf, textOf, List.flatMap_map, List.map_flatMap]
  refine List.flatMap_congr fun v _ => ?_
  have hascii := ascii_textOf [v]
  rw [textOf, List.map_singleton, List.flatMap_singleton] at hascii
  exact Utf8.encode_ascii hascii

theorem lineFeed_not_mem_write (v : Json.Value) : '\n' ∉ Json.write v := by
  intro h
  exact absurd (Json.printable_write v '\n' h).1 (by decide)

theorem mapM_read_write (hplain : ∀ v ∈ entries, Json.Plain v) :
    (entries.map Json.write).mapM (fun piece => (Json.read piece).toOption) = some entries := by
  induction entries with
  | nil => rfl
  | cons v entries ih =>
    obtain ⟨hv, hentries⟩ := List.forall_mem_cons.mp hplain
    rw [List.map_cons, List.mapM_cons, Json.read_write hv, ih hentries]
    rfl

/-- The lines of entries that read back hold those entries. -/
theorem readLines_textOf (hplain : ∀ v ∈ entries, Json.Plain v) :
    readLines (textOf entries) = some entries := by
  have hpieces : Text.pieces '\n' (textOf entries) = entries.map Json.write ++ [[]] := by
    refine Text.pieces_lines fun text htext => ?_
    obtain ⟨v, -, rfl⟩ := List.mem_map.mp htext
    exact lineFeed_not_mem_write v
  rw [readLines, hpieces, if_pos List.getLast?_concat, List.dropLast_concat]
  exact mapM_read_write hplain

/-- A line without its line feed. -/
def bodyOf (v : Json.Value) : List UInt8 :=
  (Json.write v).map Utf8.asciiByte

theorem lineFeed_not_mem_bodyOf (v : Json.Value) : ∀ b ∈ bodyOf v, (b == 10) = false := by
  intro b hb
  obtain ⟨c, hc, rfl⟩ := List.mem_map.mp hb
  obtain ⟨hlow, hhigh⟩ := Json.printable_write v c hc
  refine beq_eq_false_iff_ne.mpr fun h => ?_
  have hten : (Utf8.asciiByte c).toNat = 10 := congrArg UInt8.toNat h
  rw [Utf8.toNat_asciiByte (Nat.lt_trans hhigh (by decide))] at hten
  omega

/-- Every entry has a line of its own. -/
theorem splitOn_linesOf (entries : List Json.Value) :
    (linesOf entries).splitOn 10 = entries.map bodyOf ++ [[]] := by
  induction entries with
  | nil => rfl
  | cons v entries ih =>
    have hline : linesOf (v :: entries) = bodyOf v ++ 10 :: linesOf entries := by
      rw [linesOf_eq, linesOf_eq, textOf, List.map_cons, List.flatMap_cons, List.append_assoc,
        List.map_append, List.singleton_append, List.map_cons]
      rfl
    rw [List.splitOn] at ih
    rw [hline, List.splitOn,
      List.splitOnP_append_cons_of_forall_mem (lineFeed_not_mem_bodyOf v) 10 rfl, ih, List.map_cons,
      List.cons_append]

/-- After bytes that end with a line feed come lines of their own. -/
theorem splitOn_append {old added : List UInt8} (h : old = [] ∨ old.getLast? = some 10) :
    (old ++ added).splitOn 10 = (old.splitOn 10).dropLast ++ added.splitOn 10 := by
  have hnil : (([] : List UInt8).splitOn 10) = [[]] := rfl
  rcases h with rfl | h
  · rfl
  · obtain ⟨lines, rfl⟩ : ∃ lines, old = lines ++ [10] := List.getLast?_eq_some_iff.mp h
    have hsplit : ∀ more : List UInt8,
        (lines ++ 10 :: more).splitOn 10 = lines.splitOn 10 ++ more.splitOn 10 :=
      fun more => List.splitOnP_append_cons lines more rfl
    rw [List.append_assoc, List.singleton_append, hsplit, hsplit, hnil, List.dropLast_concat]

/-! ### Many calls -/

/-- The file of a log that was opened on a day. -/
theorem file_of_openIn {directory filePrefix : String} {log : RunLog}
    (h : w.perform (openIn directory filePrefix) = (.ok log, w')) :
    log = ofDay directory filePrefix w.clock.date := by
  obtain ⟨result, tree, hopen, -, hresult⟩ := w.perform_openIn directory filePrefix
  obtain ⟨rfl, -⟩ := Prod.mk.inj (h.symm.trans hopen)
  cases hresult with
  | opened => rfl

/-- Calls succeed if their file can be added to. -/
theorem performAll_of_walk {path : String} {place : Place} (hnull : Path.hasNull path = false)
    (hlogs : ∀ c ∈ calls, c.log.file.text = path) (hwalk : w.tree.walk w.cwd path = .ok place)
    (hdir : w.tree.find? place ≠ some .dir) :
    ∃ w', performAll calls w = ((calls.map Call.entry).map .ok, w') := by
  induction calls generalizing w with
  | nil => exact ⟨w, rfl⟩
  | cons c calls ih =>
    obtain ⟨hpath, hpaths⟩ := List.forall_mem_cons.mp hlogs
    let added := Utf8.encode (line c.entry)
    let tree := w.tree.set place (.file (w.tree.contents w.cwd path ++ added))
    have happend : w.tree.append w.cwd path added = .ok tree :=
      Tree.append_eq_ok_iff.mpr ⟨place, hwalk, hdir, rfl⟩
    have hperform : c.perform w = (.ok c.entry, { w with tree, clock := c.time }) :=
      World.perform_writeRun_of_append (by rw [hpath, hnull]) (by rw [hpath]; exact happend)
    -- The file is there now, and the path still leads to it.
    have hfind : tree.find? place ≠ some .dir := by
      rw [Tree.find?_set (Tree.ne_nil_of_find? hdir), if_pos rfl]
      exact fun h => Node.noConfusion (Option.some.inj h)
    obtain ⟨w', hrest⟩ := ih (w := { w with tree, clock := c.time }) hpaths
      (Tree.walk_set hdir hwalk) hfind
    refine ⟨w', ?_⟩
    rw [performAll, hperform, hrest]
    rfl

/-- **A log loses, merges and reorders nothing.**  Calls are made one after the other, through any
logs that were opened with the same directory and prefix on the same day, and all succeed.

Then the file holds what it held before and one line for each call, in the order of the calls.  Each
line is printable ASCII up to its line feed, and the lines read back as the entries that were handed
back, in order.  If the file was missing or empty or ended with a line feed, its lines are the ones
from before and these.  Nothing else in the tree has changed, and nothing was written elsewhere. -/
theorem performAll_read_back {directory filePrefix day : String}
    (hlogs : ∀ c ∈ calls, ∃ v v' : World, v.clock.date = day ∧
      v.perform (openIn directory filePrefix) = (.ok c.log, v'))
    (hdigits : ∀ c ∈ calls,
      (Nat.toDigits 10 c.steps.natAbs).length ≤ Json.maxIntegerDigits ∧
        (Nat.toDigits 10 c.machine.head.natAbs).length ≤ Json.maxIntegerDigits)
    (h : performAll calls w = (entries.map .ok, w')) :
    let path := (fileOf (Path.ofString directory) filePrefix day).text
    let old := w.tree.contents w.cwd path
    entries = calls.map Call.entry ∧
    w'.tree.contents w.cwd path = old ++ linesOf entries ∧
    (∀ v ∈ entries, ∃ text, (line v).toList = text ++ ['\n'] ∧
      ∀ c ∈ text, Text.IsPrintableAscii c) ∧
    (∃ text, Utf8.decode (linesOf entries) = .ok text ∧ readLines text = some entries) ∧
    (old = [] ∨ old.getLast? = some 10 →
      (w'.tree.contents w.cwd path).splitOn 10 =
        (old.splitOn 10).dropLast ++ entries.map bodyOf ++ [[]]) ∧
    (∀ place, w.tree.walk w.cwd path ≠ .ok place → w'.tree.find? place = w.tree.find? place) ∧
    w'.cwd = w.cwd ∧ w'.out = w.out ∧ w'.err = w.err := by
  intro path old
  have hpaths : ∀ c ∈ calls, c.log.file.text = path := by
    intro c hc
    obtain ⟨v, v', rfl, hopen⟩ := hlogs c hc
    rw [file_of_openIn hopen]
    rfl
  obtain ⟨hentries, hgrown, hcwd, hout, herr⟩ := grown_of_performAll hpaths h
  have hplain : ∀ v ∈ entries, Json.Plain v := by
    intro v hv
    rw [hentries] at hv
    obtain ⟨c, hc, rfl⟩ := List.mem_map.mp hv
    exact plain_entry c.time c.program c.tape c.failure (hdigits c hc).1 (hdigits c hc).2
  -- The file has grown by the lines, whose text is ASCII and splits at its line feeds alone.
  have hcontents := hgrown.contents
  refine ⟨hentries, hcontents, fun v _ => ⟨Json.write v, ?_, Json.printable_write v⟩,
    ⟨textOf entries, ?_, readLines_textOf hplain⟩, fun hold => ?_, hgrown.others, hcwd, hout, herr⟩
  · rw [line, String.toList_ofList]
  · rw [linesOf_eq]
    exact Utf8.decode_ascii (ascii_textOf entries)
  · rw [hcontents, splitOn_append hold, splitOn_linesOf, List.append_assoc]

/-- Two calls on one day, the second for a run that failed, in a directory without a log. -/
theorem performAll_read_back_of_two_calls :
    let time : Time := ⟨2024, 5, 17, 9, 30, 0, 0⟩
    let log := ofDay "log" "run-" "2024-05-17"
    let w : World := { tree := ⟨[(["log"], .dir)]⟩, cwd := [], clock := time }
    let calls : List Call :=
      [⟨log, time, "p", "t", .onTape ["\n"] .extend, 1, none⟩,
        ⟨log, time, "p", "t", .onTape ["\""] .error, -1, some .underflow⟩]
    ∃ w', performAll calls w = ((calls.map Call.entry).map .ok, w') ∧
      ∃ text, Utf8.decode (w'.tree.contents [] log.file.text) = .ok text ∧
        readLines text = some (calls.map Call.entry) := by
  intro time log w calls
  have hopen : w.perform (openIn "log" "run-") = (.ok log, w) := by decide +kernel
  have hsame : ∀ c ∈ calls, c.log = log := by
    simp [calls]
  have hlogs : ∀ c ∈ calls, ∃ v v' : World, v.clock.date = "2024-05-17" ∧
      v.perform (openIn "log" "run-") = (.ok c.log, v') := by
    intro c hc
    rw [hsame c hc]
    exact ⟨w, w, by decide +kernel, hopen⟩
  have hwalk : w.tree.walk w.cwd log.file.text = .ok ["log", "run-2024-05-17.jsonl"] := by
    decide +kernel
  obtain ⟨w', hcalls⟩ : ∃ w', performAll calls w = ((calls.map Call.entry).map .ok, w') :=
    performAll_of_walk (by decide +kernel) (fun c hc => by rw [hsame c hc]) hwalk
      (by decide +kernel)
  have hempty : w.tree.contents [] log.file.text = [] := by decide +kernel
  obtain ⟨-, hcontents, -, ⟨text, hdecode, hread⟩, -⟩ :=
    performAll_read_back hlogs (by decide +kernel) hcalls
  refine ⟨w', hcalls, text, ?_, hread⟩
  have hcontents' : w'.tree.contents [] log.file.text = [] ++ linesOf (calls.map Call.entry) := by
    rw [← hempty]
    exact hcontents
  rw [hcontents', List.nil_append]
  exact hdecode

end TapeMachine.RunLog
