/-
Commands in a world: what they hand back, and what they leave behind.

* **`World.perform`** — an action in a world;
* **`World.perform_bind_ok`**, **`World.perform_bind_error`** — one action after another;
* **`Action.Looks`** — the actions that only look: sources and configurations are read by
  such actions;
* **`Action.MakesDirectories`**, **`Action.LeavesDirectory`** — the actions that make
  directories, and those after which there is one;
* **`World.perform_openIn`** — a log that was opened, and that directories were made at most;
* **`World.perform_writeRun`** — what an entry in a log does;
* **`World.finish_eq`** — the end of a command.
-/
import TapeMachine.Command
import TapeMachine.Config.Load
import TapeMachine.Proofs.FileTree
import TapeMachine.RunLog

namespace TapeMachine

/-- What an action hands back in a world, and the world that it leaves. -/
def World.perform {α : Type} (w : World) (a : Action (StateM World) α) :
    Except Problem α × World :=
  a.run w

/-- A crash on account of bytes that are no text, of an integer that is too long, or of U+0000 in a
path. -/
def Crash.IsValueError : Crash → Prop
  | .undecodable _ => True
  | .integerTooLong _ => True
  | .nullInPath => True
  | _ => False

/-- Whether an action leaves every world as it is, and crashes in certain ways only. -/
def Action.Looks {α : Type} (P : Crash → Prop) (a : Action (StateM World) α) : Prop :=
  ∀ w : World, (w.perform a).2 = w ∧ ∀ c, (w.perform a).1 = .error (.crash c) → P c

/-- Whether an action makes directories at most, and fails in certain ways only. -/
def Action.MakesDirectories {α : Type} (P : Problem → Prop) (a : Action (StateM World) α) : Prop :=
  ∀ w : World, ∃ result tree, w.perform a = (result, { w with tree }) ∧
    w.tree.MadeDirectories tree ∧ ∀ p, result = .error p → P p

/-- Whether an action that hands back no error leaves a directory at a path. -/
def Action.LeavesDirectory (path : String)
    (a : Action (StateM World) (Except FileError Unit)) : Prop :=
  ∀ w w' : World, w.perform a = (.ok (.ok ()), w') → w'.tree.stat w'.cwd path = .ok .dir

variable {α β : Type} {w w' : World} {p : Problem} {x : α}

/-! ### One action after another -/

namespace World

theorem perform_pure (w : World) (x : α) : w.perform (pure x) = (.ok x, w) :=
  rfl

theorem perform_crash (w : World) (c : Crash) :
    w.perform (Action.crash c : Action (StateM World) α) = (.error (.crash c), w) :=
  rfl

theorem perform_bind (w : World) (a : Action (StateM World) α) (f : α → Action (StateM World) β) :
    w.perform (a >>= f) =
      match w.perform a with
      | (.ok x, w') => w'.perform (f x)
      | (.error p, w') => (.error p, w') := by
  have hbind : w.perform (a >>= f) =
      (ExceptT.bindCont f (w.perform a).1 : StateM World _) (w.perform a).2 := rfl
  rw [hbind]
  rcases w.perform a with ⟨p | x, w'⟩ <;> rfl

variable {a : Action (StateM World) α} {f : α → Action (StateM World) β}

/-- After an action that hands back something comes the next. -/
theorem perform_bind_ok (h : w.perform a = (.ok x, w')) :
    w.perform (a >>= f) = w'.perform (f x) := by
  rw [perform_bind, h]

/-- An action that fails is the last. -/
theorem perform_bind_error (h : w.perform a = (.error p, w')) :
    w.perform (a >>= f) = (.error p, w') := by
  rw [perform_bind, h]

theorem perform_isDirectory (w : World) (path : String) :
    w.perform (Host.isDirectory path) = (.ok ((w.tree.stat w.cwd path).map (· = .dir)), w) :=
  rfl

theorem perform_now (w : World) : w.perform Host.now = (.ok w.clock, w) :=
  rfl

theorem perform_depths (w : World) : w.perform Host.depths = (.ok w.depths, w) :=
  rfl

theorem perform_print (w : World) (text : String) :
    w.perform (Host.print text) = (.ok (), { w with out := w.out ++ text }) :=
  rfl

theorem perform_appendFile (w : World) (path : String) (bytes : List UInt8) :
    w.perform (Host.appendFile path bytes) =
      match w.tree.append w.cwd path bytes with
      | .error e => (.ok (.error e), w)
      | .ok tree => (.ok (.ok ()), { w with tree }) := by
  have happend : w.perform (Host.appendFile path bytes) =
      (.ok (change (fun v => v.tree.append v.cwd path bytes) w).1,
        (change (fun v => v.tree.append v.cwd path bytes) w).2) := rfl
  rw [happend, change]
  cases w.tree.append w.cwd path bytes <;> rfl

theorem perform_makeDirectory (w : World) (path : String) :
    w.perform (Host.makeDirectory path) =
      match w.tree.makeDir w.cwd path with
      | .error e => (.ok (.error e), w)
      | .ok tree => (.ok (.ok ()), { w with tree }) := by
  have hmake : w.perform (Host.makeDirectory path) =
      (.ok (change (fun v => v.tree.makeDir v.cwd path) w).1,
        (change (fun v => v.tree.makeDir v.cwd path) w).2) := rfl
  rw [hmake, change]
  cases w.tree.makeDir w.cwd path <;> rfl

end World

/-! ### Actions that only look -/

namespace Action

variable {P : Crash → Prop} {a : Action (StateM World) α} {f : α → Action (StateM World) β}

theorem looks_pure (x : α) : Looks P (pure x) :=
  fun _ => ⟨rfl, fun _ h => nomatch h⟩

theorem looks_fail (f : Failure) : Looks P (fail f : Action (StateM World) α) :=
  fun _ => ⟨rfl, fun _ h => nomatch h⟩

theorem looks_crash {c : Crash} (h : P c) : Looks P (crash c : Action (StateM World) α) := by
  refine fun _ => ⟨rfl, fun c' hc => ?_⟩
  cases hc
  exact h

theorem looks_readFile (path : String) :
    Looks P (Host.readFile path : Action (StateM World) (Except FileError (List UInt8))) :=
  fun _ => ⟨rfl, fun _ h => nomatch h⟩

theorem looks_depths : Looks P (Host.depths : Action (StateM World) Depths) :=
  fun _ => ⟨rfl, fun _ h => nomatch h⟩

theorem looks_isDirectory (path : String) :
    Looks P (Host.isDirectory path : Action (StateM World) (Except FileError Bool)) :=
  fun _ => ⟨rfl, fun _ h => nomatch h⟩

theorem Looks.bind (ha : Looks P a) (hf : ∀ x, Looks P (f x)) : Looks P (a >>= f) := by
  intro w
  obtain ⟨hw, hcrash⟩ := ha w
  rw [World.perform_bind]
  rcases h : w.perform a with ⟨p | x, w'⟩ <;> rw [h] at hw hcrash
  · refine ⟨hw, fun c hc => hcrash c ?_⟩
    cases hc
    rfl
  · cases hw
    exact hf x _

theorem Looks.perform_eq (ha : Looks P a) (w : World) : w.perform a = ((w.perform a).1, w) :=
  Prod.ext rfl (ha w).1

theorem looks_guardPath (path : String) :
    Looks Crash.IsValueError (guardPath path : Action (StateM World) Unit) := by
  rw [guardPath]
  split
  · exact looks_crash trivial
  · exact looks_pure ()

end Action

open TapeMachine.Action

/-- Reading a source changes nothing. -/
theorem looks_readSource (path : String) :
    Looks Crash.IsValueError (readSource path : Action (StateM World) String) := by
  refine (looks_guardPath path).bind fun _ => (looks_readFile _).bind fun result => ?_
  split
  · exact looks_fail _
  · split
    · exact looks_fail _
    · exact looks_pure _

namespace Config

theorem looks_readJson (path text : String) :
    Looks (fun _ => True) (readJson path text : Action (StateM World) Json.Value) := by
  refine looks_depths.bind fun depths => ?_
  split
  · exact looks_crash trivial
  · split
    · exact looks_pure _
    · exact looks_fail _
    · exact looks_crash trivial

theorem looks_loadJson (path : String) :
    Looks (fun _ => True) (loadJson path : Action (StateM World) Json.Value) := by
  refine (looks_readFile path).bind fun result => ?_
  split
  · exact looks_fail _
  · split
    · exact looks_crash trivial
    · exact looks_readJson path _

theorem looks_pathExists (path : String) :
    Looks (fun _ => True) (pathExists path : Action (StateM World) Bool) := by
  rw [pathExists]
  split
  · exact looks_pure _
  · exact (looks_isDirectory path).bind fun _ => looks_pure _

/-- Loading a configuration changes nothing. -/
theorem looks_load (path : Option String) :
    Looks (fun _ => True) (load path : Action (StateM World) Config) := by
  cases path with
  | none => exact looks_pure _
  | some path =>
    refine (looks_pathExists path).bind fun found => ?_
    split
    · exact looks_fail _
    · refine (looks_loadJson path).bind fun v => ?_
      split
      · split
        · exact looks_pure _
        · exact looks_fail _
      · exact looks_fail _

end Config

/-! ### Actions that make directories -/

namespace Action

variable {P Q : Problem → Prop} {a : Action (StateM World) α} {f : α → Action (StateM World) β}

theorem makesDirectories_pure (x : α) : MakesDirectories P (pure x) :=
  fun w => ⟨.ok x, w.tree, rfl, .refl _, fun _ h => nomatch h⟩

theorem makesDirectories_crash {c : Crash} (h : P (.crash c)) :
    MakesDirectories P (crash c : Action (StateM World) α) := by
  refine fun w => ⟨_, w.tree, w.perform_crash c, .refl _, fun p hp => ?_⟩
  cases hp
  exact h

theorem MakesDirectories.bind (ha : MakesDirectories P a) (hf : ∀ x, MakesDirectories P (f x)) :
    MakesDirectories P (a >>= f) := by
  intro w
  obtain ⟨result, tree, h, hmade, hP⟩ := ha w
  rcases result with p | x
  · refine ⟨_, tree, World.perform_bind_error h, hmade, fun q hq => hP q ?_⟩
    cases hq
    rfl
  · obtain ⟨result', tree', h', hmade', hP'⟩ := hf x { w with tree }
    exact ⟨result', tree', (World.perform_bind_ok h).trans h', hmade.trans hmade', hP'⟩

theorem MakesDirectories.mono (ha : MakesDirectories P a) (h : ∀ p, P p → Q p) :
    MakesDirectories Q a := by
  intro w
  obtain ⟨result, tree, hperform, hmade, hP⟩ := ha w
  exact ⟨result, tree, hperform, hmade, fun p hp => h p (hP p hp)⟩

theorem makesDirectories_isDirectory (path : String) :
    MakesDirectories P (Host.isDirectory path : Action (StateM World) (Except FileError Bool)) :=
  fun w => ⟨_, w.tree, World.perform_isDirectory w path, .refl _, fun _ h => nomatch h⟩

theorem makesDirectories_makeDirectory (path : String) :
    MakesDirectories P
      (Host.makeDirectory path : Action (StateM World) (Except FileError Unit)) := by
  intro w
  rw [World.perform_makeDirectory]
  rcases hmake : w.tree.makeDir w.cwd path with e | tree
  · exact ⟨_, w.tree, rfl, .refl _, fun _ h => nomatch h⟩
  · exact ⟨_, tree, rfl, Tree.madeDirectories_of_makeDir hmake, fun _ h => nomatch h⟩

theorem makesDirectories_unlessDirectory (path : Path) (e : FileError) :
    MakesDirectories P (makeDirectories.unlessDirectory (m := StateM World) path e) := by
  refine (makesDirectories_isDirectory path.text).bind fun result => ?_
  split
  · exact makesDirectories_pure _
  · exact makesDirectories_pure _

theorem makesDirectories_again (path : Path) :
    MakesDirectories P (makeDirectories.again (m := StateM World) path) := by
  refine (makesDirectories_makeDirectory path.text).bind fun result => ?_
  split
  · exact makesDirectories_pure _
  · exact makesDirectories_pure _
  · exact makesDirectories_unlessDirectory path _

/-- However far it gets, making directories is no more than that.  It crashes only if there is room
for no more directories than the path has names. -/
theorem makesDirectories_makeDirectories (path : Path) (room : Nat) :
    MakesDirectories (fun p => p = .crash .tooManyDirectories ∧ room ≤ path.names.length)
      (makeDirectories (m := StateM World) path room) := by
  induction room generalizing path with
  | zero => exact makesDirectories_crash ⟨rfl, Nat.zero_le _⟩
  | succ room ih =>
    refine (makesDirectories_makeDirectory path.text).bind fun result => ?_
    split
    · exact makesDirectories_pure _
    · split
      · exact makesDirectories_pure _
      · next hnames =>
        -- The path to the parent has one name less.
        have hparent : path.parent.names.length + 1 = path.names.length := by
          have hpos := List.length_pos_iff.mpr hnames
          rw [Path.parent, List.length_dropLast]
          omega
        have hfirst := (ih path.parent).mono
          (Q := fun p => p = .crash .tooManyDirectories ∧ room + 1 ≤ path.names.length)
          fun p ⟨hp, hroom⟩ => ⟨hp, by omega⟩
        refine hfirst.bind fun made => ?_
        split
        · exact makesDirectories_pure _
        · exact makesDirectories_again path
    · exact makesDirectories_unlessDirectory path _

end Action

/-! ### Actions that leave a directory -/

namespace Action

open World

variable {path : String} {a : Action (StateM World) (Except FileError Unit)}
  {b : Action (StateM World) α} {p : Path}

theorem leavesDirectory_error (path : String) (e : FileError) :
    LeavesDirectory path (pure (.error e)) := by
  intro w w' h
  cases h

/-- What comes before does not matter. -/
theorem leavesDirectory_bind {f : α → Action (StateM World) (Except FileError Unit)}
    (hf : ∀ x, LeavesDirectory path (f x)) : LeavesDirectory path (b >>= f) := by
  intro w w' h
  rw [perform_bind] at h
  rcases hb : w.perform b with ⟨e | x, w₁⟩ <;> rw [hb] at h
  · cases h
  · exact hf x w₁ w' h

/-- A second try after an error. -/
theorem LeavesDirectory.orElse
    {f : Except FileError Unit → Action (StateM World) (Except FileError Unit)}
    (ha : LeavesDirectory path a) (hdone : f (.ok ()) = pure (.ok ()))
    (hf : ∀ e, LeavesDirectory path (f (.error e))) : LeavesDirectory path (a >>= f) := by
  intro w w' h
  rw [perform_bind] at h
  rcases hperform : w.perform a with ⟨problem | e | _, w₁⟩ <;> rw [hperform] at h
  · cases h
  · exact hf e w₁ w' h
  · dsimp only at h
    rw [hdone, perform_pure] at h
    cases h
    exact ha w w' hperform

theorem leavesDirectory_makeDirectory (path : String) :
    LeavesDirectory path (Host.makeDirectory path) := by
  intro w w' h
  rw [perform_makeDirectory] at h
  rcases hmake : w.tree.makeDir w.cwd path with e | tree <;> rw [hmake] at h
  · cases h
  · cases h
    exact Tree.stat_of_makeDir hmake

theorem leavesDirectory_unlessDirectory (p : Path) (e : FileError) :
    LeavesDirectory p.text (makeDirectories.unlessDirectory p e) := by
  intro w w' h
  rw [makeDirectories.unlessDirectory, perform_bind_ok (perform_isDirectory w p.text)] at h
  rcases hstat : w.tree.stat w.cwd p.text with e | _ | bytes <;> rw [hstat] at h
  · cases h
  · cases h
    exact hstat
  · cases h

theorem leavesDirectory_again (p : Path) : LeavesDirectory p.text (makeDirectories.again p) := by
  refine (leavesDirectory_makeDirectory p.text).orElse rfl fun e => ?_
  split
  · next h => cases h
  · exact leavesDirectory_error _ _
  · exact leavesDirectory_unlessDirectory p _

/-- Directories that were made, or that were there, are there. -/
theorem leavesDirectory_makeDirectories (p : Path) (room : Nat) :
    LeavesDirectory p.text (makeDirectories p room) := by
  cases room with
  | zero =>
    intro w w' h
    cases h
  | succ room =>
    refine (leavesDirectory_makeDirectory p.text).orElse rfl fun e => ?_
    split
    · next h => cases h
    · split
      · exact leavesDirectory_error _ _
      · refine leavesDirectory_bind fun made => ?_
        split
        · exact leavesDirectory_error _ _
        · exact leavesDirectory_again p
    · exact leavesDirectory_unlessDirectory p _

end Action

/-! ### The log -/

namespace RunLog

/-- The log of a day in a directory. -/
def ofDay (directory filePrefix day : String) : RunLog :=
  { directory := Path.ofString directory, today := day
    file := fileOf (Path.ofString directory) filePrefix day }

end RunLog

namespace World

open RunLog

/-- The ways in which opening a log can go. -/
inductive Opened (w : World) (directory filePrefix : String) : Except Problem RunLog → Prop
  | opened : Opened w directory filePrefix (.ok (ofDay directory filePrefix w.clock.date))
  | refused (path reason : String) :
      Opened w directory filePrefix (.error (.failure (.unwritableLog path reason)))
  | null (h : Path.hasNull directory = true) :
      Opened w directory filePrefix (.error (.crash .nullInPath))
  | tooMany (h : w.depths.directories ≤ (Path.ofString directory).names.length) :
      Opened w directory filePrefix (.error (.crash .tooManyDirectories))

/-- A log that was opened is that of the day, and nothing has changed but that there are new
directories. -/
theorem perform_openIn (w : World) (directory filePrefix : String) :
    ∃ result tree, w.perform (openIn directory filePrefix) = (result, { w with tree }) ∧
      w.tree.MadeDirectories tree ∧ Opened w directory filePrefix result := by
  rw [openIn]
  by_cases hnull : Path.hasNull directory = true
  · refine ⟨_, w.tree, ?_, .refl _, .null hnull⟩
    exact perform_bind_error (by rw [guardPath, if_pos hnull, perform_crash])
  have hguard : w.perform (guardPath directory) = (.ok (), w) := by
    rw [guardPath, if_neg hnull, perform_pure]
  obtain ⟨result, tree, hperform, hmade, hcrash⟩ := makesDirectories_makeDirectories
    (Path.ofString directory) w.depths.directories w
  rw [perform_bind_ok hguard, perform_bind_ok (perform_depths w)]
  rcases result with p | e | _
  · obtain ⟨rfl, hroom⟩ := hcrash p rfl
    exact ⟨_, tree, perform_bind_error hperform, hmade, .tooMany hroom⟩
  · exact ⟨_, tree, perform_bind_ok hperform, hmade, .refused _ _⟩
  · exact ⟨_, tree, perform_bind_ok hperform, hmade, .opened⟩

/-- An entry that was added stands at the end of the log's file.  Otherwise nothing has changed. -/
theorem perform_write (w : World) (log : RunLog) (entry : Json.Value) :
    w.perform (log.write entry) =
      if Path.hasNull log.file.text then (.error (.crash .nullInPath), w)
      else
        match w.tree.append w.cwd log.file.text (Utf8.encode (line entry)) with
        | .error e => (.error (.failure (.unwritableLog log.file.text e.reason)), w)
        | .ok tree => (.ok entry, { w with tree }) := by
  rw [write]
  by_cases hnull : Path.hasNull log.file.text = true
  · rw [if_pos hnull]
    exact perform_bind_error (by rw [guardPath, if_pos hnull, perform_crash])
  rw [if_neg hnull]
  have hguard : w.perform (guardPath log.file.text) = (.ok (), w) := by
    rw [guardPath, if_neg hnull, perform_pure]
  rw [perform_bind_ok hguard, perform_bind, perform_appendFile]
  cases w.tree.append w.cwd log.file.text (Utf8.encode (line entry)) <;> rfl

theorem perform_writeRun (w : World) (log : RunLog) (program tape : String) (machine : Machine)
    (steps : Int) (failure : Option Failure) :
    w.perform (log.writeRun program tape machine steps failure) =
      w.perform (log.write (entry w.clock program tape machine steps failure)) :=
  perform_bind_ok (perform_now w)

/-- Logging a run changes the tree at most, and crashes on a path with U+0000 alone. -/
theorem exists_perform_writeRun (w : World) (log : RunLog) (program tape : String)
    (machine : Machine) (steps : Int) (failure : Option Failure) :
    ∃ result tree, w.perform (log.writeRun program tape machine steps failure) =
        (result, { w with tree }) ∧
      ∀ c, result = .error (.crash c) → c = .nullInPath := by
  rw [perform_writeRun, perform_write]
  split
  · refine ⟨_, w.tree, rfl, fun c hc => ?_⟩
    cases hc
    rfl
  · split
    · exact ⟨_, w.tree, rfl, fun c hc => nomatch hc⟩
    · next tree _ => exact ⟨_, tree, rfl, fun c hc => nomatch hc⟩

section Logged

variable {log : RunLog} {program tape : String} {machine : Machine} {steps : Int}
  {failure : Option Failure} {v : Json.Value} {tree : Tree}

/-- A run is logged if its line can be added. -/
theorem perform_writeRun_of_append (hnull : Path.hasNull log.file.text = false)
    (happend : w.tree.append w.cwd log.file.text
      (Utf8.encode (line (entry w.clock program tape machine steps failure))) = .ok tree) :
    w.perform (log.writeRun program tape machine steps failure) =
      (.ok (entry w.clock program tape machine steps failure), { w with tree }) := by
  rw [perform_writeRun, perform_write, hnull, happend]
  rfl

/-- A run that was logged has a line of its own at the end of the log's file. -/
theorem perform_writeRun_eq_ok
    (h : w.perform (log.writeRun program tape machine steps failure) = (.ok v, w')) :
    v = entry w.clock program tape machine steps failure ∧
      ∃ tree, w.tree.append w.cwd log.file.text (Utf8.encode (line v)) = .ok tree ∧
        w' = { w with tree } := by
  rw [perform_writeRun, perform_write] at h
  split at h
  · cases h
  · split at h
    · cases h
    · next tree happend =>
      cases h
      exact ⟨rfl, tree, happend, rfl⟩

end Logged

/-! ### The end of a command -/

/-- A failure is reported and gives the status 1, and a crash is handed on. -/
theorem finish_eq (w : World) (a : Action (StateM World) α) :
    finish a w =
      match w.perform a with
      | (.ok _, w') => (.ok (.finished 0), w')
      | (.error (.failure f), w') =>
        (.ok (.finished 1), { w' with err := w'.err ++ Report.error f.message })
      | (.error (.crash c), w') => (.error c, w') := by
  have hbind : ∀ f : Except Problem α → StateM World (Except Crash Exit),
      (a.run >>= f) w = f (w.perform a).1 (w.perform a).2 := fun _ => rfl
  rw [finish, hbind]
  rcases w.perform a with ⟨(f | c) | _, w'⟩ <;> rfl

end World

end TapeMachine
