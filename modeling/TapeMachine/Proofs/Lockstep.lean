/-
Commands in two worlds that differ in the contents of files.

Once everything that a run needs was read, a command only asks what kinds of entries there
are.  So if two worlds have directories and files at the same places, the command goes on
in the same way in both: it hands back the same, prints the same and reports the same.

* **`Tree.Related`**, **`World.Related`** — entries that are related place by place, and
  worlds that differ in nothing else;
* **`Tree.Related.walk_eq`** — the walks in trees of one shape;
* **`Action.InStep`** — the actions that go in the same way in related worlds;
* **`Simulator.inStep_openLog`**, **`Simulator.inStep_runLogged`** — what is left of the
  command after its preparation.

Design notes:

* Reading a file is the one operation that is not in step, since it shows what is in the
  file.
-/
import TapeMachine.Proofs.Simulation

namespace TapeMachine

/-- Whether two entries are of one kind. -/
inductive Node.SameKind : Node → Node → Prop
  | dir : SameKind .dir .dir
  | file (bytes bytes' : List UInt8) : SameKind (.file bytes) (.file bytes')

variable {R S : Node → Node → Prop}

/-! ### Trees -/

namespace Tree

/-- Whether two trees have entries at the same places, and the two at a place are related. -/
def Related (R : Node → Node → Prop) (t t' : Tree) : Prop :=
  ∀ place, Option.Rel R (t.find? place) (t'.find? place)

variable {t t' : Tree} {cwd place : Place} {path name : String} {node node' : Node}
  {bytes : List UInt8}

/-- What there is at a place in related trees. -/
theorem Related.none_or_some (h : t.Related R t') (place : Place) :
    (t.find? place = none ∧ t'.find? place = none) ∨
      ∃ node node', t.find? place = some node ∧ t'.find? place = some node' ∧ R node node' := by
  have hplace := h place
  generalize t.find? place = entry at hplace ⊢
  generalize t'.find? place = entry' at hplace ⊢
  cases hplace with
  | none => exact .inl ⟨rfl, rfl⟩
  | some hnode => exact .inr ⟨_, _, rfl, rfl, hnode⟩

theorem Related.mono (h : t.Related R t') (hsub : ∀ node node', R node node' → S node node') :
    t.Related S t' := by
  intro place
  rcases h.none_or_some place with ⟨hfind, hfind'⟩ | ⟨node, node', hfind, hfind', hnode⟩ <;>
    rw [hfind, hfind']
  · exact .none
  · exact .some (hsub _ _ hnode)

theorem Related.set (h : t.Related R t') (hplace : place ≠ []) (hnode : R node node') :
    (t.set place node).Related R (t'.set place node') := by
  intro other
  rw [find?_set hplace, find?_set hplace]
  split
  · exact .some hnode
  · exact h other

theorem Related.enter_eq (h : t.Related Node.SameKind t') (place : Place) (name : String) :
    t.enter place name = t'.enter place name := by
  rw [enter, enter]
  rcases h.none_or_some place with ⟨hfind, hfind'⟩ | ⟨_, _, hfind, hfind', _ | _⟩ <;>
    rw [hfind, hfind']

theorem Related.enterAll_eq (h : t.Related Node.SameKind t') (place : Place)
    (names : List String) : t.enterAll place names = t'.enterAll place names := by
  induction names generalizing place with
  | nil => rfl
  | cons name names ih =>
    rw [enterAll, enterAll, h.enter_eq]
    rcases t'.enter place name with e | next
    · rfl
    · exact ih next

/-- In trees of one shape a path leads to one place. -/
theorem Related.walk_eq (h : t.Related Node.SameKind t') (cwd : Place) (path : String) :
    t.walk cwd path = t'.walk cwd path := by
  rw [walk, walk]
  dsimp only
  rw [h.enterAll_eq]

theorem Related.stat_eq (h : t.Related Node.SameKind t') (cwd : Place) (path : String) :
    (t.stat cwd path).map (decide <| · = .dir) = (t'.stat cwd path).map (decide <| · = .dir) := by
  rw [stat, stat, h.walk_eq]
  rcases t'.walk cwd path with e | place
  · rfl
  dsimp only
  rcases h.none_or_some place with ⟨hfind, hfind'⟩ | ⟨_, _, hfind, hfind', _ | _⟩ <;>
    rw [hfind, hfind']
  simp [Except.map]

/-- The ways in which a change of two trees goes alike: it fails for one reason, or the trees stay
related. -/
inductive Alike (R : Node → Node → Prop) : Except FileError Tree → Except FileError Tree → Prop
  | refused (e : FileError) : Alike R (.error e) (.error e)
  | changed {u u' : Tree} (h : u.Related R u') : Alike R (.ok u) (.ok u')

theorem Related.makeDir (h : t.Related Node.SameKind t') (cwd : Place) (path : String) :
    Alike Node.SameKind (t.makeDir cwd path) (t'.makeDir cwd path) := by
  rw [Tree.makeDir, Tree.makeDir, h.walk_eq]
  rcases t'.walk cwd path with e | place
  · exact .refused e
  dsimp only
  rcases h.none_or_some place with ⟨hfind, hfind'⟩ | ⟨_, _, hfind, hfind', -⟩ <;>
    rw [hfind, hfind']
  · have hplace : place ≠ [] := ne_nil_of_find? (by rw [hfind]; simp)
    exact .changed (h.set hplace .dir)
  · exact .refused .fileExists

theorem Related.append (h : t.Related Node.SameKind t') (cwd : Place) (path : String)
    (bytes : List UInt8) :
    Alike Node.SameKind (t.append cwd path bytes) (t'.append cwd path bytes) := by
  rw [Tree.append, Tree.append, h.walk_eq]
  rcases t'.walk cwd path with e | place
  · exact .refused e
  dsimp only
  rcases h.none_or_some place with ⟨hfind, hfind'⟩ | ⟨_, _, hfind, hfind', _ | ⟨old, old'⟩⟩ <;>
    rw [hfind, hfind']
  · have hplace : place ≠ [] := ne_nil_of_find? (by rw [hfind]; simp)
    exact .changed (h.set hplace (.file bytes bytes))
  · exact .refused .isDirectory
  · have hplace : place ≠ [] := ne_nil_of_find? (by rw [hfind]; simp)
    exact .changed (h.set hplace (.file (old ++ bytes) (old' ++ bytes)))

end Tree

/-! ### Worlds -/

/-- Whether two worlds differ in the contents of their files alone, and how. -/
structure World.Related (R : Node → Node → Prop) (w w' : World) : Prop where
  tree : w.tree.Related R w'.tree
  cwd : w.cwd = w'.cwd
  clock : w.clock = w'.clock
  depths : w.depths = w'.depths
  out : w.out = w'.out
  err : w.err = w'.err

variable {w w' : World} {α β : Type}

theorem World.Related.mono (h : w.Related R w')
    (hsub : ∀ node node', R node node' → S node node') : w.Related S w' :=
  { h with tree := h.tree.mono hsub }

theorem World.Related.with_out (h : w.Related R w') (text : String) :
    World.Related R { w with out := w.out ++ text } { w' with out := w'.out ++ text } :=
  { h with out := congrArg (· ++ text) h.out }

theorem World.Related.with_err (h : w.Related R w') (text : String) :
    World.Related R { w with err := w.err ++ text } { w' with err := w'.err ++ text } :=
  { h with err := congrArg (· ++ text) h.err }

theorem World.Related.with_tree (h : w.Related R w') {t t' : Tree} (ht : t.Related R t') :
    World.Related R { w with tree := t } { w' with tree := t' } :=
  { h with tree := ht }

open World

/-! ### Actions -/

namespace Action

/-- Whether an action hands back the same in two worlds, and leaves related ones. -/
def Agrees (R : Node → Node → Prop) (w w' : World) (a : Action (StateM World) α) : Prop :=
  (w.perform a).1 = (w'.perform a).1 ∧ (w.perform a).2.Related R (w'.perform a).2

/-- Whether an action goes in the same way in related worlds. -/
def InStep (R : Node → Node → Prop) (a : Action (StateM World) α) : Prop :=
  ∀ w w' : World, w.Related R w' → Agrees R w w' a

variable {a : Action (StateM World) α} {f : α → Action (StateM World) β}

theorem Agrees.mono (h : Agrees R w w' a) (hsub : ∀ node node', R node node' → S node node') :
    Agrees S w w' a :=
  ⟨h.1, h.2.mono hsub⟩

theorem Agrees.bind (ha : Agrees R w w' a) (hf : ∀ x, InStep R (f x)) :
    Agrees R w w' (a >>= f) := by
  obtain ⟨hresult, hrelated⟩ := ha
  rw [Agrees, perform_bind, perform_bind]
  rcases hw : w.perform a with ⟨p | x, v⟩ <;> rcases hw' : w'.perform a with ⟨p' | x', v'⟩ <;>
    rw [hw, hw'] at hresult hrelated <;> cases hresult
  · exact ⟨rfl, hrelated⟩
  · exact hf x v v' hrelated

theorem InStep.bind (ha : InStep R a) (hf : ∀ x, InStep R (f x)) : InStep R (a >>= f) :=
  fun w w' h => (ha w w' h).bind hf

theorem inStep_pure (x : α) : InStep R (pure x) :=
  fun _ _ h => ⟨rfl, h⟩

theorem inStep_fail (f : Failure) : InStep R (fail f : Action (StateM World) α) :=
  fun _ _ h => ⟨rfl, h⟩

theorem inStep_crash (c : Crash) : InStep R (crash c : Action (StateM World) α) :=
  fun _ _ h => ⟨rfl, h⟩

theorem inStep_guardPath (path : String) :
    InStep R (guardPath path : Action (StateM World) Unit) := by
  rw [guardPath]
  split
  · exact inStep_crash _
  · exact inStep_pure ()

theorem inStep_now : InStep R (Host.now : Action (StateM World) Time) :=
  fun _ _ h => ⟨congrArg Except.ok h.clock, h⟩

theorem inStep_depths : InStep R (Host.depths : Action (StateM World) Depths) :=
  fun _ _ h => ⟨congrArg Except.ok h.depths, h⟩

theorem inStep_isDirectory (path : String) :
    InStep Node.SameKind
      (Host.isDirectory path : Action (StateM World) (Except FileError Bool)) := by
  intro w w' h
  rw [Agrees, perform_isDirectory, perform_isDirectory, h.cwd]
  exact ⟨congrArg Except.ok (h.tree.stat_eq w'.cwd path), h⟩

/-- A change that goes alike in both trees. -/
theorem inStep_change {change : World → Except FileError Tree}
    (hchange : ∀ w w', w.Related R w' → Tree.Alike R (change w) (change w')) :
    InStep R (ExceptT.lift (World.change change) : Action (StateM World) _) := by
  intro w w' h
  have hperform : ∀ v : World, v.perform (ExceptT.lift (World.change change)) =
      (.ok (World.change change v).1, (World.change change v).2) := fun _ => rfl
  have halike := hchange w w' h
  rw [Agrees, hperform, hperform, World.change, World.change]
  generalize change w = changed at halike ⊢
  generalize change w' = changed' at halike ⊢
  cases halike with
  | refused e => exact ⟨rfl, h⟩
  | changed ht => exact ⟨rfl, h.with_tree ht⟩

theorem inStep_makeDirectory (path : String) :
    InStep Node.SameKind
      (Host.makeDirectory path : Action (StateM World) (Except FileError Unit)) := by
  refine inStep_change fun w w' h => ?_
  rw [h.cwd]
  exact h.tree.makeDir w'.cwd path

theorem inStep_appendFile (path : String) (bytes : List UInt8) :
    InStep Node.SameKind
      (Host.appendFile path bytes : Action (StateM World) (Except FileError Unit)) := by
  refine inStep_change fun w w' h => ?_
  rw [h.cwd]
  exact h.tree.append w'.cwd path bytes

theorem inStep_unlessDirectory (path : Path) (e : FileError) :
    InStep Node.SameKind (makeDirectories.unlessDirectory (m := StateM World) path e) := by
  refine (inStep_isDirectory path.text).bind fun result => ?_
  split
  · exact inStep_pure _
  · exact inStep_pure _

theorem inStep_again (path : Path) :
    InStep Node.SameKind (makeDirectories.again (m := StateM World) path) := by
  refine (inStep_makeDirectory path.text).bind fun result => ?_
  split
  · exact inStep_pure _
  · exact inStep_pure _
  · exact inStep_unlessDirectory path _

theorem inStep_makeDirectories (path : Path) (room : Nat) :
    InStep Node.SameKind (makeDirectories (m := StateM World) path room) := by
  induction room generalizing path with
  | zero => exact inStep_crash _
  | succ room ih =>
    refine (inStep_makeDirectory path.text).bind fun result => ?_
    split
    · exact inStep_pure _
    · split
      · exact inStep_pure _
      · refine (ih path.parent).bind fun made => ?_
        split
        · exact inStep_pure _
        · exact inStep_again path
    · exact inStep_unlessDirectory path _

end Action

open TapeMachine.Action

/-- What agrees ends a command in the same way. -/
theorem finish_of_agrees {a : Action (StateM World) α} (h : Agrees R w w' a) :
    (finish a w).1 = (finish a w').1 ∧ (finish a w).2.Related R (finish a w').2 := by
  obtain ⟨hresult, hrelated⟩ := h
  rw [finish_eq, finish_eq]
  generalize w.perform a = given at hresult hrelated ⊢
  generalize w'.perform a = given' at hresult hrelated ⊢
  obtain ⟨result, v⟩ := given
  obtain ⟨result', v'⟩ := given'
  cases hresult
  rcases result with (f | c) | x
  · exact ⟨rfl, hrelated.with_err _⟩
  · exact ⟨rfl, hrelated⟩
  · exact ⟨rfl, hrelated⟩

/-! ### The log -/

namespace RunLog

theorem inStep_openIn (directory filePrefix : String) :
    InStep Node.SameKind (openIn directory filePrefix : Action (StateM World) RunLog) := by
  refine (inStep_guardPath directory).bind fun _ => inStep_depths.bind fun depths =>
    (inStep_makeDirectories _ _).bind fun made => ?_
  split
  · exact inStep_fail _
  · exact inStep_now.bind fun _ => inStep_pure _

theorem inStep_write (log : RunLog) (entry : Json.Value) :
    InStep Node.SameKind (log.write entry : Action (StateM World) Json.Value) := by
  refine (inStep_guardPath _).bind fun _ => (inStep_appendFile _ _).bind fun result => ?_
  split
  · exact inStep_fail _
  · exact inStep_pure _

theorem inStep_writeRun (log : RunLog) (program tape : String) (machine : Machine) (steps : Int)
    (failure : Option Failure) :
    InStep Node.SameKind (log.writeRun program tape machine steps failure :
      Action (StateM World) Json.Value) :=
  inStep_now.bind fun _ => inStep_write log _

end RunLog

namespace Simulator

theorem inStep_failWithUsage (name : String) (f : Failure) :
    InStep R (failWithUsage name f : Action (StateM World) α) :=
  fun _ _ h => ⟨rfl, h.with_err _⟩

theorem inStep_openLog (config : Config) :
    InStep Node.SameKind (openLog config : Action (StateM World) (Option RunLog)) := by
  rw [openLog]
  split
  · rw [map_eq_pure_bind]
    exact (RunLog.inStep_openIn _ _).bind fun _ => inStep_pure _
  · exact inStep_pure none

/-- A run and its entry. -/
theorem inStep_runLogged (rounds : Nat) (log : Option RunLog) (program tape : String)
    (rules : List Rule) (limit : Int) (start : Machine) :
    InStep Node.SameKind
      (runLogged rounds log program tape rules limit start : Action (StateM World) Unit) := by
  intro w w' h
  rcases log with _ | log
  · rw [Agrees, perform_runLogged_none, perform_runLogged_none]
    exact ⟨rfl, h.with_out _⟩
  rw [Agrees, perform_runLogged_some, perform_runLogged_some]
  generalize start.run rounds rules limit = r
  -- The run itself touches no file, so the worlds are related when its entry is written.
  have hrun : (afterRun w r).Related Node.SameKind (afterRun w' r) := h.with_out _
  obtain ⟨hlogged, hrelated⟩ := log.inStep_writeRun program tape r.machine r.machine.steps
    (r.failure? limit) _ _ hrun
  dsimp only
  generalize (afterRun w r).perform _ = logged at hlogged hrelated ⊢
  generalize (afterRun w' r).perform _ = logged' at hlogged hrelated ⊢
  obtain ⟨result, v⟩ := logged
  obtain ⟨result', v'⟩ := logged'
  cases hlogged
  rcases r.ending.problem? limit with _ | f | c
  · rcases result with p | entry <;> exact ⟨rfl, hrelated⟩
  · rcases result with (e | c) | entry
    · exact ⟨rfl, hrelated.with_err _⟩
    · exact ⟨rfl, hrelated⟩
    · exact ⟨rfl, hrelated⟩
  · exact ⟨rfl, hrun⟩

end Simulator

end TapeMachine
