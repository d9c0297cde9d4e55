/-
Where the spelling of a path leads.

A path that a text writes is spelled without the names that add nothing.  A walk along the
spelling therefore takes one step for each name of the path, from the root or from the
working directory.  So a path with one more name leads to an entry of the directory that the
path without it leads to, unless the name is the one that leads back.

* **`Path.Tidy`** — the paths that texts write;
* **`Path.child`** — a path with one more name;
* **`Path.pieces_text`** — a spelling is made of the names;
* **`Tree.walk_text`** — a walk along a spelling, name by name;
* **`Tree.walk_child_eq_ok_iff`**, **`Tree.walk_child_ne`** — walks to the entries of a directory;
* **`Tree.enterAll_of_walk`** — a text leads to where its path leads.
-/
import TapeMachine.Proofs.FileTree
import TapeMachine.Text.Pieces

namespace TapeMachine

/-! ### Spellings -/

namespace Path

/-- Whether a text can be a name of a path: it holds no slash, and it adds to the path. -/
structure IsName (name : String) : Prop where
  slash : '/' ∉ name.toList
  adds : isName name.toList = true

/-- Whether a name leads to an entry of a directory, and not back. -/
structure IsEntryName (name : String) : Prop extends IsName name where
  ne_up : name ≠ ".."

/-- Whether a path can be written: it starts with no slash, one or two, and goes on with names. -/
structure Tidy (p : Path) : Prop where
  root : p.root = "" ∨ p.root = "/" ∨ p.root = "//"
  names : ∀ name ∈ p.names, IsName name

/-- A path with one more name. -/
def child (dir : Path) (name : String) : Path :=
  { dir with names := dir.names ++ [name] }

/-- The place that a path starts from. -/
def start (p : Path) (cwd : Place) : Place :=
  if p.root = "" then cwd else []

variable {p dir : Path} {name : String} {chars : List Char}

theorem ne_empty_of_isName (h : IsName name) : name ≠ "" := by
  rintro rfl
  exact absurd h.adds (by decide)

theorem tidy_ofString (text : String) : (ofString text).Tidy where
  root := by
    show rootOf text.toList = "" ∨ rootOf text.toList = "/" ∨ rootOf text.toList = "//"
    rw [rootOf]
    split <;> simp
  names := by
    intro name hname
    obtain ⟨piece, hpiece, rfl⟩ := List.mem_map.mp hname
    obtain ⟨hpiece, hadds⟩ := List.mem_filter.mp hpiece
    rw [← String.toList_ofList (l := piece)] at hpiece hadds
    exact ⟨Text.not_mem_of_mem_pieces hpiece, hadds⟩

theorem Tidy.child (h : dir.Tidy) (hname : IsName name) : (dir.child name).Tidy where
  root := h.root
  names := by
    intro other hother
    rcases List.mem_append.mp hother with hmem | hlast
    · exact h.names other hmem
    · rw [List.mem_singleton.mp hlast]
      exact hname

theorem Tidy.join {q : Path} (hp : p.Tidy) (hq : q.Tidy) : (p.join q).Tidy := by
  rw [Path.join]
  split
  · exact ⟨hp.root, List.forall_mem_append.mpr ⟨hp.names, hq.names⟩⟩
  · exact hq

theorem names_child_ne_nil (dir : Path) (name : String) : (dir.child name).names ≠ [] := by
  simp [child]

/-- A text starts with a slash just if its path starts from the root. -/
theorem rootOf_eq_empty_iff : rootOf chars = "" ↔ chars.head? ≠ some '/' := by
  rw [rootOf]
  rcases chars with _ | ⟨c, rest⟩
  · simp
  · by_cases hc : c = '/'
    · simp only [hc, List.takeWhile_cons, beq_self_eq_true, if_true, List.length_cons]
      split <;> simp_all
    · simp [hc]

/-- A text that is a name writes the path with just that name. -/
theorem ofString_of_isName (h : IsName name) : ofString name = { root := "", names := [name] } := by
  obtain ⟨hslash, hadds⟩ := h
  have hroot : rootOf name.toList = "" := by
    refine rootOf_eq_empty_iff.mpr fun hfirst => hslash ?_
    exact List.mem_of_mem_head? hfirst
  rw [ofString, hroot, Text.pieces_of_not_mem hslash, List.filter_cons_of_pos hadds,
    List.filter_nil, List.map_singleton, String.ofList_toList]

theorem text_eq (h : p.names ≠ []) : p.text = p.root ++ "/".intercalate p.names := by
  rw [text, if_neg fun hempty => h hempty.2]

theorem pieces_slash (chars : List Char) :
    Text.pieces '/' ('/' :: chars) = [] :: Text.pieces '/' chars := by
  rw [Text.pieces, if_pos rfl]

/-- Between the slashes of a spelling stand the names, behind as many empty texts as the path has
slashes in front. -/
theorem pieces_text (h : p.Tidy) (hne : p.names ≠ []) :
    Text.pieces '/' p.text.toList =
      List.replicate p.root.length [] ++ p.names.map String.toList := by
  have hnames : Text.pieces '/' (['/'].intercalate (p.names.map String.toList)) =
      p.names.map String.toList := by
    refine Text.pieces_intercalate ?_ (by simpa using hne)
    intro text htext
    obtain ⟨name, hname, rfl⟩ := List.mem_map.mp htext
    exact (h.names name hname).slash
  have hslash : "/".toList = ['/'] := rfl
  rw [text_eq hne, String.toList_append, String.toList_intercalate, hslash]
  rcases h.root with hroot | hroot | hroot <;> rw [hroot]
  · exact hnames
  · exact (pieces_slash _).trans (congrArg _ hnames)
  · exact (pieces_slash _).trans (congrArg _ ((pieces_slash _).trans (congrArg _ hnames)))

/-- Names that are joined by slashes start with another character. -/
theorem exists_toList_intercalate (h : p.Tidy) (hne : p.names ≠ []) :
    ∃ c chars, c ≠ '/' ∧ ("/".intercalate p.names).toList = c :: chars := by
  obtain ⟨first, rest, hnames⟩ := List.exists_cons_of_ne_nil hne
  obtain ⟨hslash, hadds⟩ := h.names first (hnames ▸ List.mem_cons_self)
  obtain ⟨c, chars, hfirst⟩ : ∃ c chars, first.toList = c :: chars := by
    refine List.exists_cons_of_ne_nil fun hempty => ?_
    rw [hempty] at hadds
    cases hadds
  have hc : c ≠ '/' := by
    rintro rfl
    exact hslash (hfirst ▸ List.mem_cons_self)
  rw [hnames, String.toList_intercalate, List.map_cons, hfirst]
  cases rest with
  | nil => exact ⟨c, chars, hc, by simp⟩
  | cons next rest => exact ⟨c, _, hc, by rw [List.map_cons, List.intercalate_cons_cons]; rfl⟩

/-- A path is spelled with a slash in front just if it starts from the root. -/
theorem head?_text (h : p.Tidy) (hne : p.names ≠ []) :
    p.text.toList.head? = some '/' ↔ p.root ≠ "" := by
  obtain ⟨c, chars, hc, hspelling⟩ := exists_toList_intercalate h hne
  rw [text_eq hne, String.toList_append, hspelling]
  rcases h.root with hroot | hroot | hroot <;> rw [hroot] <;> simp [hc]

theorem text_ne_empty (h : p.Tidy) (hne : p.names ≠ []) : p.text ≠ "" := by
  obtain ⟨c, chars, -, hspelling⟩ := exists_toList_intercalate h hne
  intro hempty
  have hchars := congrArg String.toList hempty
  rw [text_eq hne, String.toList_append, hspelling] at hchars
  simp at hchars

/-- A path is not spelled longer than one with a name behind it. -/
theorem utf8ByteSize_text_le (dir : Path) (hname : name ≠ "") :
    dir.text.utf8ByteSize ≤ (dir.child name).text.utf8ByteSize := by
  have hpos : name.utf8ByteSize ≠ 0 := by simpa using hname
  rw [text_eq (names_child_ne_nil dir name)]
  show dir.text.utf8ByteSize ≤ (dir.root ++ "/".intercalate (dir.names ++ [name])).utf8ByteSize
  by_cases hne : dir.names = []
  · rw [text, hne, List.nil_append, String.intercalate_singleton, String.utf8ByteSize_append]
    split
    · have hdot : ".".utf8ByteSize = 1 := rfl
      omega
    · rw [String.intercalate_nil, String.append_empty]
      exact Nat.le_add_right _ _
  · rw [text_eq hne, String.intercalate_append_of_ne_nil hne (List.cons_ne_nil _ _)]
    simp only [String.utf8ByteSize_append]
    omega

end Path

/-! ### Walks -/

namespace Tree

open TapeMachine.Path (IsEntryName)

variable {t : Tree} {cwd place other : Place} {p dir : Path} {name path : String}
  {names : List String}

theorem find?_root (t : Tree) : t.find? [] = some .dir :=
  if_pos rfl

/-- A name that adds nothing leads nowhere else. -/
theorem enter_of_not_isName (piece : List Char) (h : Path.isName piece = false)
    (hdir : t.find? place = some .dir) : t.enter place (String.ofList piece) = .ok place := by
  have hblank : String.ofList piece = "" ∨ String.ofList piece = "." := by
    by_cases hempty : piece = []
    · exact .inl (by rw [hempty])
    · have hdot : piece = ['.'] := by simpa [Path.isName, hempty] using h
      exact .inr (by rw [hdot])
  rw [enter, hdir]
  exact if_pos hblank

/-- A name that leads on leads to an entry of the directory, if it is short enough. -/
theorem enter_isEntryName (h : IsEntryName name) :
    t.enter place name = .ok other ↔
      t.find? place = some .dir ∧ name.utf8ByteSize ≤ maxNameBytes ∧ other = place ++ [name] := by
  have hblank : ¬(name = "" ∨ name = ".") := by
    rintro (rfl | rfl)
    · exact absurd h.adds (by decide)
    · exact absurd h.adds (by decide)
  rw [enter]
  rcases t.find? place with _ | _ | bytes
  · simp
  · simp only [if_neg hblank, if_neg h.ne_up, true_and]
    split
    · next hlong => simp [Nat.not_le.mpr hlong]
    · next hshort => simp [Nat.not_lt.mp hshort, eq_comm]
  · simp

theorem enterAll_append {more : List String} :
    t.enterAll place (names ++ more) = .ok other ↔
      ∃ middle, t.enterAll place names = .ok middle ∧ t.enterAll middle more = .ok other := by
  induction names generalizing place with
  | nil => simp [enterAll]
  | cons name names ih =>
    rw [List.cons_append, enterAll, enterAll]
    cases t.enter place name with
    | error e => simp
    | ok next => exact ih

theorem enterAll_singleton : t.enterAll place [name] = t.enter place name := by
  rw [enterAll]
  cases t.enter place name <;> rfl

/-- The slashes in front of a spelling leave a walk at the root. -/
theorem enterAll_replicate (t : Tree) (n : Nat) (names : List String) :
    t.enterAll [] (List.replicate n "" ++ names) = t.enterAll [] names := by
  induction n with
  | zero => rfl
  | succ n ih =>
    have hstay : t.enter [] "" = .ok [] := enter_of_not_isName [] rfl (find?_root t)
    rw [List.replicate_succ, List.cons_append, enterAll, hstay]
    exact ih

/-- A walk along a spelling takes one step for each name. -/
theorem walk_text (h : p.Tidy) (hne : p.names ≠ []) :
    t.walk cwd p.text =
      if p.text.utf8ByteSize > maxPathBytes then .error .nameTooLong
      else t.enterAll (p.start cwd) p.names := by
  have hpieces : (Text.pieces '/' p.text.toList).map String.ofList =
      List.replicate p.root.length "" ++ p.names := by
    rw [Path.pieces_text h hne, List.map_append, List.map_replicate, List.map_map]
    exact congrArg _ (List.map_id'' (fun _ => String.ofList_toList) _)
  rw [walk, if_neg (Path.text_ne_empty h hne), hpieces]
  simp only [Path.head?_text h hne]
  split
  · rfl
  by_cases hroot : p.root = ""
  · simp [hroot, Path.start]
  · simp [hroot, Path.start, enterAll_replicate]

/-- A path without names leads to where it starts, if that is a directory. -/
theorem walk_text_of_no_names (h : p.Tidy) (hempty : p.names = [])
    (hdir : t.find? place = some .dir) : t.walk cwd p.text = .ok place ↔ p.start cwd = place := by
  have hroots : ∀ n, t.enterAll [] (List.replicate n "") = .ok [] := by
    intro n
    have hnone := enterAll_replicate t n []
    rwa [List.append_nil] at hnone
  rcases h.root with hroot | hroot | hroot
  · have hwalk : t.walk cwd "." = t.enter cwd "." := enterAll_singleton
    have htext : p.text = "." := by rw [Path.text, if_pos ⟨hroot, hempty⟩]
    rw [htext, hwalk, Path.start, if_pos hroot]
    refine ⟨fun henter => ?_, fun hplace => ?_⟩
    · have hstay := enter_of_not_isName ['.'] rfl (find?_of_enter henter)
      exact Except.ok.inj (hstay.symm.trans henter)
    · rw [hplace]
      exact enter_of_not_isName ['.'] rfl hdir
  · have hwalk : t.walk cwd "/" = .ok [] := hroots 2
    have htext : p.text = "/" := by rw [Path.text, hroot, hempty]; rfl
    rw [htext, hwalk, Path.start, hroot]
    simp
  · have hwalk : t.walk cwd "//" = .ok [] := hroots 3
    have htext : p.text = "//" := by rw [Path.text, hroot, hempty]; rfl
    rw [htext, hwalk, Path.start, hroot]
    simp

/-- A walk along a spelling to a directory takes one step for each name, also if there is none. -/
theorem walk_text_of_dir (h : p.Tidy) (hsize : p.text.utf8ByteSize ≤ maxPathBytes)
    (hdir : t.find? place = some .dir) :
    t.walk cwd p.text = .ok place ↔ t.enterAll (p.start cwd) p.names = .ok place := by
  by_cases hempty : p.names = []
  · rw [walk_text_of_no_names h hempty hdir, hempty, enterAll, Except.ok.injEq]
  · rw [walk_text h hempty, if_neg (Nat.not_lt.mpr hsize)]

theorem utf8ByteSize_of_walk (h : t.walk cwd path = .ok place) :
    path.utf8ByteSize ≤ maxPathBytes := by
  rw [walk] at h
  split at h
  · cases h
  split at h
  · cases h
  · next hsize => exact Nat.not_lt.mp hsize

/-- **A path with one more name leads to an entry of a directory.**  The directory is the one that
the path without the name leads to.  What else is asked for is that neither the spelling nor the
name is too long. -/
theorem walk_child_eq_ok_iff (h : dir.Tidy) (hname : IsEntryName name) :
    t.walk cwd (dir.child name).text = .ok place ↔
      (dir.child name).text.utf8ByteSize ≤ maxPathBytes ∧ name.utf8ByteSize ≤ maxNameBytes ∧
        ∃ parent, t.walk cwd dir.text = .ok parent ∧ t.find? parent = some .dir ∧
          place = parent ++ [name] := by
  have hsize := Path.utf8ByteSize_text_le dir (Path.ne_empty_of_isName hname.toIsName)
  rw [walk_text (h.child hname.toIsName) (Path.names_child_ne_nil dir name)]
  have hsteps : t.enterAll ((dir.child name).start cwd) (dir.child name).names = .ok place ↔
      name.utf8ByteSize ≤ maxNameBytes ∧
        ∃ parent, t.enterAll (dir.start cwd) dir.names = .ok parent ∧
          t.find? parent = some .dir ∧ place = parent ++ [name] := by
    rw [show (dir.child name).names = dir.names ++ [name] from rfl, enterAll_append]
    simp only [enterAll_singleton, enter_isEntryName hname]
    constructor
    · rintro ⟨parent, hparent, hdir, hshort, rfl⟩
      exact ⟨hshort, parent, hparent, hdir, rfl⟩
    · rintro ⟨hshort, parent, hparent, hdir, rfl⟩
      exact ⟨parent, hparent, hdir, hshort, rfl⟩
  split
  · next hlong => simp [Nat.not_le.mpr hlong]
  · next hshort =>
    have hfits := Nat.not_lt.mp hshort
    rw [hsteps]
    simp only [hfits, true_and]
    refine and_congr_right fun _ => exists_congr fun parent => ?_
    constructor
    · rintro ⟨hparent, hdir, hplace⟩
      exact ⟨(walk_text_of_dir h (Nat.le_trans hsize hfits) hdir).mpr hparent, hdir, hplace⟩
    · rintro ⟨hparent, hdir, hplace⟩
      exact ⟨(walk_text_of_dir h (Nat.le_trans hsize hfits) hdir).mp hparent, hdir, hplace⟩

/-- Entries with different names are different, wherever the directories are. -/
theorem walk_child_ne {t' : Tree} {cwd' : Place} {name' : String} (hdir : dir.Tidy)
    (hname : IsEntryName name) (hname' : IsEntryName name') (hne : name ≠ name')
    (h : t.walk cwd (dir.child name).text = .ok place) :
    t'.walk cwd' (dir.child name').text ≠ .ok place := by
  intro h'
  obtain ⟨-, -, parent, -, -, hplace⟩ := (walk_child_eq_ok_iff hdir hname).mp h
  obtain ⟨-, -, parent', -, -, hplace'⟩ := (walk_child_eq_ok_iff hdir hname').mp h'
  have hlast := congrArg List.getLast? (hplace.symm.trans hplace')
  rw [List.getLast?_concat, List.getLast?_concat] at hlast
  exact hne (Option.some.inj hlast)

/-! ### Texts and their paths -/

/-- Names that add nothing can be left out. -/
theorem enterAll_filter {pieces : List (List Char)}
    (h : t.enterAll place (pieces.map String.ofList) = .ok other) :
    t.enterAll place ((pieces.filter Path.isName).map String.ofList) = .ok other := by
  induction pieces generalizing place with
  | nil => exact h
  | cons piece pieces ih =>
    rw [List.map_cons, enterAll] at h
    rcases henter : t.enter place (String.ofList piece) with e | next <;> rw [henter] at h
    · cases h
    by_cases hadds : Path.isName piece = true
    · rw [List.filter_cons_of_pos hadds, List.map_cons, enterAll, henter]
      exact ih h
    · have hstay := enter_of_not_isName piece (Bool.eq_false_iff.mpr hadds) (find?_of_enter henter)
      obtain rfl : place = next := Except.ok.inj (hstay.symm.trans henter)
      rw [List.filter_cons_of_neg hadds]
      exact ih h

/-- A text leads to where the names of its path lead, if it leads anywhere. -/
theorem enterAll_of_walk (h : t.walk cwd path = .ok place) :
    t.enterAll ((Path.ofString path).start cwd) (Path.ofString path).names = .ok place := by
  have hstart : (Path.ofString path).start cwd =
      if path.toList.head? = some '/' then [] else cwd := by
    simp only [Path.start, Path.ofString, Path.rootOf_eq_empty_iff, ite_not]
  rw [walk] at h
  split at h
  · cases h
  split at h
  · cases h
  rw [hstart]
  exact enterAll_filter h

/-- A text that leads to some place leads to the directory that its path leads to. -/
theorem walk_ofString (h : t.walk cwd path = .ok place)
    (hother : t.walk cwd (Path.ofString path).text = .ok other) (hdir : t.find? other = some .dir) :
    place = other := by
  have hnames := (walk_text_of_dir (Path.tidy_ofString path) (utf8ByteSize_of_walk hother) hdir).mp
    hother
  exact Except.ok.inj ((enterAll_of_walk h).symm.trans hnames)

end Tree

end TapeMachine
