/-
Which file a log writes to.

The file of a log is an entry of its directory, whose name is the prefix and the day, just if
the prefix holds no slash.  A prefix with a slash is a path of its own, and leads elsewhere.

Without one, everything that a log does happens in its directory.  Opening it makes directories
at most.  A call that succeeds adds to one file there, and a call that fails changes nothing.
So a run of any number of calls, through any logs of the directory, changes nothing but such
files, and logs with different prefixes have different ones.

* **`RunLog.fileOf_eq_child_iff`** — when the file is an entry of the directory;
* **`RunLog.directoryAt_of_openIn`** — an open log has its directory;
* **`RunLog.Call.addsTo_or_error`** — what one call does;
* **`RunLog.changedIn_performAll`** — what any number of calls do;
* **`RunLog.log_stays_in_directory`** — both, and how files differ;
* **`RunLog.log_leaves_directory`** — a prefix with a slash.
-/
import TapeMachine.Proofs.ConfigLoading
import TapeMachine.Proofs.LogFile
import TapeMachine.Proofs.PathText
import TapeMachine.Proofs.PathWalk

namespace TapeMachine

namespace RunLog

open TapeMachine.Action World
open TapeMachine.Path (IsEntryName)

variable {directory filePrefix day : String} {log : RunLog} {w w' w'' : World} {c : Call}
  {calls : List Call} {place parent : Place} {name : String} {names names' : String → Prop}

/-! ### The name of the file -/

/-- The name of the file of a day. -/
def fileName (filePrefix day : String) : String :=
  filePrefix ++ day ++ ".jsonl"

theorem slash_not_mem_fileName (t : Time) :
    '/' ∉ (fileName filePrefix t.date).toList ↔ '/' ∉ filePrefix.toList := by
  have hdate : '/' ∉ t.date.toList := by
    intro hmem
    exact throughout_date (P := (· ≠ '/')) (by rintro c hc rfl; cases hc) (by decide) t '/' hmem rfl
  simp [fileName, hdate]

/-- The name of a file is too long for the names that mean something else. -/
theorem five_lt_length_fileName (filePrefix day : String) :
    5 < (fileName filePrefix day).toList.length := by
  have hending : ".jsonl".length = 6 := rfl
  rw [String.length_toList, fileName, String.length_append, hending]
  omega

theorem isEntryName_fileName (hslash : '/' ∉ filePrefix.toList) (t : Time) :
    IsEntryName (fileName filePrefix t.date) := by
  have hlength := five_lt_length_fileName filePrefix t.date
  refine ⟨⟨(slash_not_mem_fileName t).mpr hslash, ?_⟩, ?_⟩
  · generalize (fileName filePrefix t.date).toList = chars at hlength
    rw [Path.isName, Bool.and_eq_true, bne_iff_ne, bne_iff_ne]
    constructor
    · rintro rfl
      cases hlength
    · rintro rfl
      simp at hlength
  · intro h
    rw [h] at hlength
    exact absurd hlength (by decide)

theorem fileName_inj {filePrefix' : String} :
    fileName filePrefix day = fileName filePrefix' day ↔ filePrefix = filePrefix' := by
  rw [fileName, fileName, String.append_left_inj, String.append_left_inj]

/-- The file of a log is an entry of its directory just if the prefix holds no slash. -/
theorem fileOf_eq_child_iff (directory filePrefix : String) (t : Time) :
    fileOf (Path.ofString directory) filePrefix t.date =
        (Path.ofString directory).child (fileName filePrefix t.date) ↔
      '/' ∉ filePrefix.toList := by
  constructor
  · intro h
    -- No name of a path holds a slash, whatever the path was joined from.
    have htidy : (fileOf (Path.ofString directory) filePrefix t.date).Tidy :=
      (Path.tidy_ofString directory).join (Path.tidy_ofString _)
    rw [h] at htidy
    have hname := htidy.names (fileName filePrefix t.date) (List.mem_append_right _ (by simp))
    exact (slash_not_mem_fileName t).mp hname.slash
  · intro hslash
    have hfile := Path.ofString_of_isName (isEntryName_fileName hslash t).toIsName
    rw [fileName] at hfile
    rw [fileOf, hfile]
    rfl

/-! ### The directory -/

/-- Whether the path that a text writes leads to a directory of a world, and to which place. -/
structure DirectoryAt (w : World) (directory : String) (place : Place) : Prop where
  walk : w.tree.walk w.cwd (Path.ofString directory).text = .ok place
  find : w.tree.find? place = some .dir

/-- The directory of a log that was opened is there. -/
theorem directoryAt_of_openIn (h : w.perform (openIn directory filePrefix) = (.ok log, w')) :
    ∃ place, DirectoryAt w' directory place := by
  by_cases hnull : Path.hasNull directory = true
  · rw [openIn, guardPath, if_pos hnull, perform_bind_error (perform_crash w _)] at h
    cases h
  rw [openIn, guardPath, if_neg hnull, perform_bind_ok (perform_pure w ()),
    perform_bind_ok (perform_depths w), perform_bind] at h
  have hleaves := leavesDirectory_makeDirectories (Path.ofString directory) w.depths.directories w
  rcases hmade : w.perform (makeDirectories (Path.ofString directory) w.depths.directories)
    with ⟨problem | e | _, w₁⟩ <;> rw [hmade] at h
  · cases h
  · cases h
  · cases h
    obtain ⟨place, hwalk, hfind⟩ := Tree.stat_eq_ok_iff.mp (hleaves w' hmade)
    exact ⟨place, hwalk, hfind⟩

/-! ### One call -/

/-- Whether a call succeeds by adding its line to the file at a place, or in a new file there, and
changes nothing else. -/
def Call.AddsTo (c : Call) (w : World) (place : Place) : Prop :=
  ∃ old, (w.tree.find? place = some (.file old) ∨ w.tree.find? place = none ∧ old = []) ∧
    c.perform w = (.ok c.entry,
      { w with
        clock := c.time
        tree := w.tree.set place (.file (old ++ Utf8.encode (line c.entry))) })

/-- A call succeeds if its file can be added to. -/
theorem Call.addsTo (hnull : Path.hasNull c.log.file.text = false)
    (hwalk : w.tree.walk w.cwd c.log.file.text = .ok place)
    (hdir : w.tree.find? place ≠ some .dir) : c.AddsTo w place := by
  have hcontents := Tree.contents_of_walk hwalk
  have hperform : c.perform w = (.ok c.entry, { w with
      clock := c.time
      tree := w.tree.set place
        (.file (w.tree.contents w.cwd c.log.file.text ++ Utf8.encode (line c.entry))) }) :=
    perform_writeRun_of_append hnull (Tree.append_eq_ok_iff.mpr ⟨place, hwalk, hdir, rfl⟩)
  refine ⟨_, ?_, hperform⟩
  rcases hfind : w.tree.find? place with _ | _ | old <;> rw [hfind] at hcontents hdir
  · exact .inr ⟨rfl, hcontents⟩
  · exact absurd rfl hdir
  · exact .inl (congrArg (fun bytes => some (Node.file bytes)) hcontents.symm)

/-- A call adds to the file that its path leads to, or it fails and changes nothing. -/
theorem Call.addsTo_or_error (c : Call) (w : World) :
    (∃ place, w.tree.walk w.cwd c.log.file.text = .ok place ∧ c.AddsTo w place) ∨
      ∃ p, c.perform w = (.error p, { w with clock := c.time }) := by
  have hwrite : c.perform w = { w with clock := c.time }.perform (c.log.write c.entry) :=
    perform_writeRun _ c.log c.program c.tape c.machine c.steps c.failure
  rw [perform_write] at hwrite
  by_cases hnull : Path.hasNull c.log.file.text = true
  · rw [if_pos hnull] at hwrite
    exact .inr ⟨_, hwrite⟩
  rw [if_neg hnull] at hwrite
  rcases happend : w.tree.append w.cwd c.log.file.text (Utf8.encode (line c.entry)) with e | tree
  · rw [happend] at hwrite
    exact .inr ⟨_, hwrite⟩
  · obtain ⟨place, hwalk, hdir, -⟩ := Tree.append_eq_ok_iff.mp happend
    exact .inl ⟨place, hwalk, Call.addsTo (Bool.eq_false_iff.mpr hnull) hwalk hdir⟩

/-- What a call through a log of a directory does: it adds to an entry of that directory, or it
fails and changes nothing. -/
theorem Call.addsTo_child_or_error (hname : IsEntryName name)
    (hfile : c.log.file = (Path.ofString directory).child name) (w : World) :
    (∃ parent, DirectoryAt w directory parent ∧ c.AddsTo w (parent ++ [name])) ∨
      ∃ p, c.perform w = (.error p, { w with clock := c.time }) := by
  refine (c.addsTo_or_error w).imp_left ?_
  rintro ⟨place, hwalk, hadds⟩
  rw [hfile] at hwalk
  obtain ⟨-, -, parent, hparent, hdir, rfl⟩ :=
    (Tree.walk_child_eq_ok_iff (Path.tidy_ofString directory) hname).mp hwalk
  exact ⟨parent, ⟨hparent, hdir⟩, hadds⟩

/-- A call through a log of a directory succeeds, if neither the path nor the name of its file is
too long and no directory is in the place of the file. -/
theorem Call.addsTo_child (hname : IsEntryName name)
    (hfile : c.log.file = (Path.ofString directory).child name)
    (hnull : Path.hasNull c.log.file.text = false) (hparent : DirectoryAt w directory parent)
    (hdir : w.tree.find? (parent ++ [name]) ≠ some .dir)
    (hpath : c.log.file.text.utf8ByteSize ≤ Tree.maxPathBytes)
    (hshort : name.utf8ByteSize ≤ Tree.maxNameBytes) : c.AddsTo w (parent ++ [name]) := by
  refine Call.addsTo hnull ?_ hdir
  rw [hfile] at hpath ⊢
  exact (Tree.walk_child_eq_ok_iff (Path.tidy_ofString directory) hname).mpr
    ⟨hpath, hshort, parent, hparent.walk, hparent.find, rfl⟩

/-! ### Many calls -/

/-- Whether nothing has changed from one world to another but files that are entries of a directory,
with certain names. -/
def ChangedIn (directory : String) (names : String → Prop) (w w' : World) : Prop :=
  ∀ place, w'.tree.find? place ≠ w.tree.find? place →
    ∃ parent name bytes, DirectoryAt w directory parent ∧ names name ∧ place = parent ++ [name] ∧
      w'.tree.find? place = some (.file bytes)

theorem ChangedIn.refl (directory : String) (names : String → Prop) (w : World) :
    ChangedIn directory names w w :=
  fun _ h => absurd rfl h

theorem ChangedIn.mono (h : ChangedIn directory names w w')
    (hsub : ∀ name, names name → names' name) : ChangedIn directory names' w w' := by
  intro place hplace
  obtain ⟨parent, name, bytes, hparent, hname, hchanged⟩ := h place hplace
  exact ⟨parent, name, bytes, hparent, hsub name hname, hchanged⟩

/-- Directories are where they were before. -/
theorem ChangedIn.directoryAt (h : ChangedIn directory names w w') (hcwd : w'.cwd = w.cwd)
    (hparent : DirectoryAt w' directory parent) : DirectoryAt w directory parent := by
  have hdirs : ∀ place, w'.tree.find? place = some .dir → w.tree.find? place = some .dir := by
    intro place hdir
    by_contra hnot
    obtain ⟨-, -, bytes, -, -, -, hfile⟩ := h place fun hsame => hnot (hsame ▸ hdir)
    cases hdir.symm.trans hfile
  have hwalk := hparent.walk
  rw [hcwd] at hwalk
  exact ⟨Tree.walk_mono hdirs hwalk, hdirs parent hparent.find⟩

theorem ChangedIn.trans (h : ChangedIn directory names w w') (hcwd : w'.cwd = w.cwd)
    (h' : ChangedIn directory names w' w'') : ChangedIn directory names w w'' := by
  intro place hplace
  by_cases hsame : w''.tree.find? place = w'.tree.find? place
  · rw [hsame] at hplace ⊢
    exact h place hplace
  · obtain ⟨parent, name, bytes, hparent, hchanged⟩ := h' place hsame
    exact ⟨parent, name, bytes, h.directoryAt hcwd hparent, hchanged⟩

/-- One call changes one file at most. -/
theorem Call.changedIn (hname : IsEntryName name)
    (hfile : c.log.file = (Path.ofString directory).child name) (w : World) :
    ChangedIn directory (· = name) w (c.perform w).2 ∧ (c.perform w).2.cwd = w.cwd := by
  rcases c.addsTo_child_or_error hname hfile w with ⟨parent, hparent, old, -, hadds⟩ | ⟨p, herror⟩
  · rw [hadds]
    refine ⟨fun place hplace => ?_, rfl⟩
    dsimp only at hplace ⊢
    rw [Tree.find?_set (by simp)] at hplace ⊢
    by_cases hother : place = parent ++ [name]
    · exact ⟨parent, name, _, hparent, rfl, hother, if_pos hother⟩
    · rw [if_neg hother] at hplace
      exact absurd rfl hplace
  · rw [herror]
    exact ⟨fun place hplace => absurd rfl hplace, rfl⟩

/-- Whether a log was opened with a directory, and with a prefix that holds no slash. -/
def OpenedIn (directory : String) (log : RunLog) : Prop :=
  ∃ (filePrefix : String) (w w' : World), '/' ∉ filePrefix.toList ∧
    w.perform (openIn directory filePrefix) = (.ok log, w')

/-- The file of such a log is an entry of the directory. -/
theorem OpenedIn.exists_name (h : OpenedIn directory log) :
    ∃ name, IsEntryName name ∧ log.file = (Path.ofString directory).child name := by
  obtain ⟨filePrefix, w, w', hslash, hopen⟩ := h
  refine ⟨fileName filePrefix w.clock.date, isEntryName_fileName hslash _, ?_⟩
  rw [file_of_openIn hopen]
  exact (fileOf_eq_child_iff directory filePrefix w.clock).mpr hslash

/-- Calls through logs of a directory change the files of these logs at most. -/
theorem changedIn_performAll (hlogs : ∀ c ∈ calls, OpenedIn directory c.log) (w : World) :
    ChangedIn directory (fun name => ∃ c ∈ calls, c.log.file = (Path.ofString directory).child name)
      w (performAll calls w).2 := by
  induction calls generalizing w with
  | nil => exact .refl _ _ w
  | cons c calls ih =>
    obtain ⟨hlog, hrest⟩ := List.forall_mem_cons.mp hlogs
    obtain ⟨name, hname, hfile⟩ := hlog.exists_name
    obtain ⟨hfirst, hcwd⟩ := Call.changedIn hname hfile w
    rw [performAll]
    refine (hfirst.mono ?_).trans hcwd ((ih hrest (c.perform w).2).mono ?_)
    · rintro _ rfl
      exact ⟨c, List.mem_cons_self, hfile⟩
    · rintro other ⟨d, hd, hother⟩
      exact ⟨d, List.mem_cons_of_mem c hd, hother⟩

/-! ### Logs of one directory -/

/-- Another prefix on the same day gives another file, wherever the directory is. -/
theorem walk_other_ne {t t' : Tree} {cwd cwd' : Place} {otherPrefix : String} {clock : Time}
    (hslash : '/' ∉ filePrefix.toList) (hslash' : '/' ∉ otherPrefix.toList)
    (hne : otherPrefix ≠ filePrefix)
    (hwalk : t.walk cwd (ofDay directory filePrefix clock.date).file.text = .ok place) :
    t'.walk cwd' (ofDay directory otherPrefix clock.date).file.text ≠ .ok place := by
  have hfile := (fileOf_eq_child_iff directory filePrefix clock).mpr hslash
  have hother := (fileOf_eq_child_iff directory otherPrefix clock).mpr hslash'
  have hdiff : fileName filePrefix clock.date ≠ fileName otherPrefix clock.date :=
    fun hsame => hne (fileName_inj.mp hsame).symm
  rw [ofDay, hfile] at hwalk
  rw [ofDay, hother]
  exact Tree.walk_child_ne (Path.tidy_ofString directory)
    (isEntryName_fileName hslash clock) (isEntryName_fileName hslash' clock) hdiff hwalk

/-- **A log stays in its directory if its prefix holds no slash.**  A log was opened with a
directory and a prefix.  Its file is an entry of the directory, named by the prefix and the day, just
if the prefix holds no slash.  A date has four digits for the year, and two each for the month and
the day.  Opening a log, also in vain, makes directories at most.  The directory of an open log is
there, and where the text for it leads anywhere, it leads to that directory.

Let the prefix hold no slash.  Then a call through the log adds to the entry with that name of the
directory, or it fails and changes nothing.  It does not fail if there is no U+0000 in the directory
and in the prefix, if neither the path nor the name is too long, and if there is no directory in the
place of the file.  Another such prefix on the same day gives another file.  And calls through any
logs of the directory with such prefixes, however many, change nothing but the files of these logs,
which are entries of the directory. -/
theorem log_stays_in_directory (hopen : w.perform (openIn directory filePrefix) = (.ok log, w')) :
    let name := filePrefix ++ w.clock.date ++ ".jsonl"
    (log.file = (Path.ofString directory).child name ↔ '/' ∉ filePrefix.toList) ∧
    (1000 ≤ w.clock.year → w.clock.year ≤ 9999 → w.clock.month ≤ 12 → w.clock.day ≤ 31 →
      w.clock.date = padded 4 w.clock.year ++ "-" ++ padded 2 w.clock.month ++ "-" ++
        padded 2 w.clock.day ∧ w.clock.date.length = 10) ∧
    ((∀ v : World, v.tree.MadeDirectories (v.perform (openIn directory filePrefix)).2.tree) ∧
      (∃ place, DirectoryAt w' directory place) ∧
      ∀ v parent place, DirectoryAt v directory parent → v.tree.walk v.cwd directory = .ok place →
        place = parent) ∧
    ('/' ∉ filePrefix.toList →
      (∀ (c : Call) (v : World), c.log = log →
        (∃ parent, DirectoryAt v directory parent ∧ c.AddsTo v (parent ++ [name])) ∨
          ∃ p, c.perform v = (.error p, { v with clock := c.time })) ∧
      (∀ (c : Call) (v : World) (parent : Place), c.log = log →
        Path.hasNull directory = false → Path.hasNull filePrefix = false →
        DirectoryAt v directory parent → v.tree.find? (parent ++ [name]) ≠ some .dir →
        log.file.text.utf8ByteSize ≤ Tree.maxPathBytes → name.utf8ByteSize ≤ Tree.maxNameBytes →
          c.AddsTo v (parent ++ [name])) ∧
      ∀ (u u' : World) (other : RunLog) (otherPrefix : String), '/' ∉ otherPrefix.toList →
        otherPrefix ≠ filePrefix → u.clock.date = w.clock.date →
        u.perform (openIn directory otherPrefix) = (.ok other, u') →
          ∀ (v v' : World) (place : Place), v.tree.walk v.cwd log.file.text = .ok place →
            v'.tree.walk v'.cwd other.file.text ≠ .ok place) ∧
    ∀ (calls : List Call) (v : World), (∀ c ∈ calls, OpenedIn directory c.log) →
      ChangedIn directory
        (fun name => ∃ c ∈ calls, c.log.file = (Path.ofString directory).child name)
        v (performAll calls v).2 := by
  intro name
  have hlog := file_of_openIn hopen
  have hfile_iff : log.file = (Path.ofString directory).child name ↔ '/' ∉ filePrefix.toList := by
    rw [hlog]
    exact fileOf_eq_child_iff directory filePrefix w.clock
  refine ⟨hfile_iff, Time.date_eq_padded, ⟨?_, directoryAt_of_openIn hopen, ?_⟩, ?_, ?_⟩
  · intro v
    obtain ⟨result, tree, hperform, hmade, -⟩ := v.perform_openIn directory filePrefix
    rw [hperform]
    exact hmade
  · intro v parent place hparent hwalk
    exact Tree.walk_ofString hwalk hparent.walk hparent.find
  · intro hslash
    have hfile := hfile_iff.mpr hslash
    have hname : IsEntryName name := isEntryName_fileName hslash w.clock
    refine ⟨?_, ?_, ?_⟩
    · rintro c v rfl
      exact c.addsTo_child_or_error hname hfile v
    · rintro c v parent rfl hnull hnull' hparent hdir hpath hshort
      refine Call.addsTo_child hname hfile ?_ hparent hdir hpath hshort
      rw [hlog]
      exact hasNull_file_eq_false hnull hnull' w.clock
    · intro u u' other otherPrefix hslash' hne hday hopen' v v' place hwalk
      rw [hlog] at hwalk
      rw [file_of_openIn hopen', hday]
      exact walk_other_ne hslash hslash' hne hwalk
  · intro calls v hlogs
    exact changedIn_performAll hlogs v

/-- A log is opened in a new directory, and a run is added. -/
theorem log_stays_in_directory_of_new_directory :
    let w : World := { tree := ⟨[]⟩, cwd := [], clock := ⟨2024, 2, 29, 12, 30, 45, 0⟩ }
    let log := ofDay "out/" "run_" "2024-02-29"
    let c : Call := ⟨log, w.clock, "p", "t", .onTape ["0"] .error, 1, none⟩
    ∃ w', w.perform (openIn "out/" "run_") = (.ok log, w') ∧
      log.file = (Path.ofString "out/").child "run_2024-02-29.jsonl" ∧
      c.AddsTo w' ["out", "run_2024-02-29.jsonl"] := by
  intro w log c
  let w' : World := { w with tree := ⟨[(["out"], .dir)]⟩ }
  have hopen : w.perform (openIn "out/" "run_") = (.ok log, w') := by decide +kernel
  have hname : "run_" ++ w.clock.date ++ ".jsonl" = "run_2024-02-29.jsonl" := by decide +kernel
  have hdirectory : DirectoryAt w' "out/" ["out"] := ⟨by decide +kernel, by decide +kernel⟩
  obtain ⟨hfile, -, -, hcalls, -⟩ := log_stays_in_directory hopen
  obtain ⟨-, hadds, -⟩ := hcalls (by decide)
  rw [hname] at hfile hadds
  refine ⟨w', hopen, hfile.mpr (by decide), ?_⟩
  exact hadds c w' ["out"] rfl (by decide) (by decide) hdirectory (by decide +kernel)
    (by decide +kernel) (by decide +kernel)

/-- A configuration that is accepted, although its prefix leads out of the directory of the log: a
run is added to a file outside.  And two prefixes that only differ in a path give one file. -/
theorem log_leaves_directory :
    let config : Config := { logRuns := true, outputDirectory := "d", logFilePrefix := "../x" }
    let w : World := { tree := ⟨[]⟩, cwd := [], clock := ⟨2024, 2, 29, 12, 30, 45, 0⟩ }
    let w' : World := { w with tree := ⟨[(["d"], .dir)]⟩ }
    let log := ofDay "d" "../x" "2024-02-29"
    Config.ofMembers config.members = .ok config ∧
      Path.hasNull config.outputDirectory = false ∧ Path.hasNull config.logFilePrefix = false ∧
      w.perform (openIn config.outputDirectory config.logFilePrefix) = (.ok log, w') ∧
      DirectoryAt w' config.outputDirectory ["d"] ∧
      (∀ c : Call, c.log = log → c.AddsTo w' ["x2024-02-29.jsonl"]) ∧
      (ofDay "d" "./x" "2024-02-29").file = (ofDay "d" "x" "2024-02-29").file := by
  intro config w w' log
  refine ⟨Config.ofMembers_members config, by decide, by decide, by decide +kernel,
    ⟨by decide +kernel, by decide +kernel⟩, ?_, by decide +kernel⟩
  rintro c hlog
  have hwalk : w'.tree.walk w'.cwd log.file.text = .ok ["x2024-02-29.jsonl"] := by decide +kernel
  refine Call.addsTo ?_ ?_ (by decide +kernel)
  · rw [hlog]
    decide +kernel
  · rw [hlog]
    exact hwalk

end RunLog

end TapeMachine
