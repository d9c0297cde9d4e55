/-
What is in the tree after directories were made, and after bytes were added to a file.

Setting an entry changes what is found at its place and nowhere else.  A walk only
enters directories, so it does not see an entry that is set where no directory was, and
a path that was appended to still leads to the same place.

* **`Tree.find?_set`** — what is found after an entry was set;
* **`Tree.MadeDirectories`** — a tree with new directories, and nothing else changed;
* **`Tree.walk_mono`**, **`Tree.walk_set`** — the walks that a change leaves alone;
* **`Tree.stat_of_makeDir`** — a directory that was made;
* **`Tree.Grown`** — a tree in which one file has grown, and nothing else changed;
* **`Tree.grown_of_append`**, **`Tree.Grown.trans`** — one addition, and several.
-/
import TapeMachine.Files.Tree

namespace TapeMachine.Tree

variable {t t' t'' : Tree} {cwd place other : Place} {path name : String} {names : List String}
  {node : Node} {bytes more : List UInt8}

/-! ### One entry -/

theorem lookup_map_replace (entries : List (Place × Node)) (place : Place) (node : Node)
    (other : Place) :
    (entries.map fun e => if e.1 = place then (place, node) else e).lookup other =
      if other = place then (entries.lookup other).map fun _ => node
      else entries.lookup other := by
  induction entries with
  | nil => simp
  | cons e entries ih =>
    obtain ⟨key, old⟩ := e
    rw [List.map_cons]
    by_cases hkey : key = place
    · by_cases hother : other = place
      · simp [hkey, hother]
      · rw [if_neg hother] at ih
        simp [hkey, hother, List.lookup_cons, beq_eq_false_iff_ne.mpr hother, ih]
    · by_cases hother : other = key
      · have hne : other ≠ place := fun h => hkey (hother.symm.trans h)
        simp [hkey, hother]
      · simp only [hkey, if_false, List.lookup_cons, beq_eq_false_iff_ne.mpr hother, ih]

theorem lookup_eq_none_of_any {entries : List (Place × Node)}
    (h : ¬entries.any (·.1 = place) = true) : entries.lookup place = none := by
  rw [List.lookup_eq_none_iff]
  intro e he
  have hne : ¬e.1 = place := by
    intro heq
    exact h (List.any_eq_true.mpr ⟨e, he, decide_eq_true heq⟩)
  exact bne_iff_ne.mpr fun heq => hne heq.symm

/-- An entry is found where it was set, and nothing else is found elsewhere. -/
theorem find?_set (hplace : place ≠ []) (other : Place) :
    (t.set place node).find? other = if other = place then some node else t.find? other := by
  by_cases hroot : other = []
  · have hne : other ≠ place := by
      rintro rfl
      exact hplace hroot
    rw [if_neg hne, find?, find?, if_pos hroot, if_pos hroot]
  rw [find?, find?, if_neg hroot, if_neg hroot, set]
  -- A place that is taken keeps its position, and a new one comes last.
  by_cases hany : t.entries.any (·.1 = place) = true
  · rw [if_pos hany, lookup_map_replace]
    by_cases hother : other = place
    · obtain ⟨e, he, hkey⟩ := List.any_eq_true.mp hany
      have hsome : (t.entries.lookup other).isSome = true := by
        rw [Option.isSome_iff_ne_none, Ne, List.lookup_eq_none_iff]
        intro hnone
        have hfalse := hnone e he
        simp [hother, of_decide_eq_true hkey] at hfalse
      obtain ⟨old, hold⟩ := Option.isSome_iff_exists.mp hsome
      rw [if_pos hother, if_pos hother, hold, Option.map_some]
    · rw [if_neg hother, if_neg hother]
  · rw [if_neg hany, List.lookup_append]
    by_cases hother : other = place
    · rw [if_pos hother, hother, lookup_eq_none_of_any hany]
      simp
    · have hmiss : List.lookup other [(place, node)] = none := by
        simp [List.lookup_cons, beq_eq_false_iff_ne.mpr hother]
      rw [if_neg hother, hmiss, Option.or_none]

theorem ne_nil_of_find? (h : t.find? place ≠ some .dir) : place ≠ [] := by
  rintro rfl
  exact h rfl

/-! ### New directories -/

/-- From one tree to another nothing has changed but that there are new directories, in places where
nothing was. -/
def MadeDirectories (t t' : Tree) : Prop :=
  ∀ place, t'.find? place = t.find? place ∨ t.find? place = none ∧ t'.find? place = some .dir

theorem MadeDirectories.refl (t : Tree) : t.MadeDirectories t :=
  fun _ => .inl rfl

theorem MadeDirectories.trans (h : t.MadeDirectories t') (h' : t'.MadeDirectories t'') :
    t.MadeDirectories t'' := by
  intro place
  rcases h' place with hsame' | ⟨hnone', hdir'⟩
  · rw [hsame']
    exact h place
  -- A directory that came second was missing before, so the first change left its place alone.
  · rcases h place with hsame | ⟨-, hdir⟩
    · exact .inr ⟨hsame.symm.trans hnone', hdir'⟩
    · cases hnone'.symm.trans hdir

theorem madeDirectories_of_makeDir (h : t.makeDir cwd path = .ok t') : t.MadeDirectories t' := by
  rw [makeDir] at h
  rcases hwalk : t.walk cwd path with e | place <;> rw [hwalk] at h
  · cases h
  dsimp only at h
  rcases hfind : t.find? place with _ | node <;> rw [hfind] at h
  · cases h
    have hplace : place ≠ [] := ne_nil_of_find? (by rw [hfind]; exact nofun)
    intro other
    rw [find?_set hplace]
    by_cases hother : other = place
    · rw [if_pos hother, hother]
      exact .inr ⟨hfind, rfl⟩
    · rw [if_neg hother]
      exact .inl rfl
  · cases h

/-! ### Walks -/

/-- A step of a walk leaves a directory. -/
theorem find?_of_enter (h : t.enter place name = .ok other) : t.find? place = some .dir := by
  rw [enter] at h
  split at h
  · cases h
  · cases h
  · next hdir => exact hdir

/-- A step depends on the directories alone. -/
theorem enter_mono (h : ∀ place, t.find? place = some .dir → t'.find? place = some .dir)
    (henter : t.enter place name = .ok other) : t'.enter place name = .ok other := by
  have hdir := find?_of_enter henter
  rw [enter, hdir] at henter
  rw [enter, h place hdir]
  exact henter

theorem enterAll_mono (h : ∀ place, t.find? place = some .dir → t'.find? place = some .dir)
    (henter : t.enterAll place names = .ok other) : t'.enterAll place names = .ok other := by
  induction names generalizing place with
  | nil => exact henter
  | cons name names ih =>
    rw [enterAll] at henter ⊢
    cases hnext : t.enter place name with
    | error e =>
      rw [hnext] at henter
      cases henter
    | ok next =>
      rw [hnext] at henter
      rw [enter_mono h hnext]
      exact ih henter

/-- A walk through a tree leads to the same place in every tree that has its directories. -/
theorem walk_mono (h : ∀ place, t.find? place = some .dir → t'.find? place = some .dir)
    (hwalk : t.walk cwd path = .ok other) : t'.walk cwd path = .ok other := by
  rw [walk] at hwalk ⊢
  split at hwalk
  · cases hwalk
  split at hwalk
  · cases hwalk
  rw [if_neg ‹_›, if_neg ‹_›]
  exact enterAll_mono h hwalk

/-- An entry that is set where no directory was leaves the directories. -/
theorem find?_set_of_dir (h : t.find? place ≠ some .dir) (hother : t.find? other = some .dir) :
    (t.set place node).find? other = some .dir := by
  have hne : other ≠ place := by
    rintro rfl
    exact h hother
  rw [find?_set (ne_nil_of_find? h), if_neg hne]
  exact hother

/-- A walk does not see an entry that is set where no directory was. -/
theorem walk_set (h : t.find? place ≠ some .dir) (hwalk : t.walk cwd path = .ok other) :
    (t.set place node).walk cwd path = .ok other :=
  walk_mono (fun _ => find?_set_of_dir h) hwalk

theorem stat_eq_ok_iff :
    t.stat cwd path = .ok node ↔
      ∃ place, t.walk cwd path = .ok place ∧ t.find? place = some node := by
  rw [stat]
  rcases t.walk cwd path with e | place
  · simp
  · rcases hfind : t.find? place with _ | other <;> simp [hfind]

/-- A directory that was made is there. -/
theorem stat_of_makeDir (h : t.makeDir cwd path = .ok t') : t'.stat cwd path = .ok .dir := by
  rw [makeDir] at h
  rcases hwalk : t.walk cwd path with e | place <;> rw [hwalk] at h
  · cases h
  dsimp only at h
  rcases hfind : t.find? place with _ | node <;> rw [hfind] at h
  · cases h
    have hmissing : t.find? place ≠ some .dir := by
      rw [hfind]
      exact nofun
    refine stat_eq_ok_iff.mpr ⟨place, walk_set hmissing hwalk, ?_⟩
    rw [find?_set (ne_nil_of_find? hmissing), if_pos rfl]
  · cases h

/-! ### A file that grows -/

/-- The bytes of the file that a spelling leads to, of which there are none if there is no file. -/
def contents (t : Tree) (cwd : Place) (path : String) : List UInt8 :=
  (t.read cwd path).toOption.getD []

theorem contents_of_walk (hwalk : t.walk cwd path = .ok place) :
    t.contents cwd path = match t.find? place with
      | some (.file bytes) => bytes
      | _ => [] := by
  rw [contents, read, stat, hwalk]
  dsimp only
  rcases t.find? place with _ | _ | bytes <;> rfl

/-- What an addition has done: it found a place without a directory, and put there what was there
before and what was added. -/
theorem append_eq_ok_iff :
    t.append cwd path bytes = .ok t' ↔
      ∃ place, t.walk cwd path = .ok place ∧ t.find? place ≠ some .dir ∧
        t' = t.set place (.file (t.contents cwd path ++ bytes)) := by
  rw [append]
  cases hwalk : t.walk cwd path with
  | error e => simp
  | ok place =>
    have hcontents := contents_of_walk hwalk
    rcases hfind : t.find? place with _ | _ | old <;> rw [hfind] at hcontents <;>
      simp [hcontents, hfind, eq_comm]

/-- From one tree to another the file that a spelling leads to has grown by some bytes, and nothing
else has changed. -/
structure Grown (cwd : Place) (path : String) (t : Tree) (bytes : List UInt8) (t' : Tree) :
    Prop where
  walk : t'.walk cwd path = t.walk cwd path
  contents : t'.contents cwd path = t.contents cwd path ++ bytes
  others : ∀ place, t.walk cwd path ≠ .ok place → t'.find? place = t.find? place

theorem Grown.refl (cwd : Place) (path : String) (t : Tree) : Grown cwd path t [] t where
  walk := rfl
  contents := (List.append_nil _).symm
  others := fun _ _ => rfl

theorem Grown.trans (h : Grown cwd path t bytes t') (h' : Grown cwd path t' more t'') :
    Grown cwd path t (bytes ++ more) t'' where
  walk := h'.walk.trans h.walk
  contents := by rw [h'.contents, h.contents, List.append_assoc]
  others := by
    intro place hplace
    have hplace' : t'.walk cwd path ≠ .ok place := by
      rw [h.walk]
      exact hplace
    rw [h'.others place hplace', h.others place hplace]

/-- An addition makes one file grow. -/
theorem grown_of_append (h : t.append cwd path bytes = .ok t') : Grown cwd path t bytes t' := by
  obtain ⟨place, hwalk, hdir, rfl⟩ := append_eq_ok_iff.mp h
  have hwalk' : (t.set place (.file (t.contents cwd path ++ bytes))).walk cwd path = .ok place :=
    walk_set hdir hwalk
  refine ⟨hwalk'.trans hwalk.symm, ?_, ?_⟩
  · rw [contents_of_walk hwalk', find?_set (ne_nil_of_find? hdir), if_pos rfl]
  · intro other hother
    have hne : other ≠ place := by
      rintro rfl
      exact hother hwalk
    rw [find?_set (ne_nil_of_find? hdir), if_neg hne]

end TapeMachine.Tree
