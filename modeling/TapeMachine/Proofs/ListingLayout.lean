/-
The text of a listing.

Whatever a listing holds, its table fits on a line of the screen: in every round of
narrowing the columns lose a cell at least, so there are rounds enough.  And if the texts
in it hold nothing that joins or widens characters, the listing has a layout, in which
every line is as wide as the table.

* **`Listing.table_fits`** — the widths of the columns, for every listing;
* **`Listing.IsBlock`** — texts of lines that are equally wide;
* **`Listing.text_of_isEven`** — the title and the table of a program;
* **`Inspector.perform_inspect`** — what the inspector prints.

Design notes:

* The title is taken to hold no brackets and no colons.  It is then shown as it stands, but for
  controls.
-/
import Mathlib.Data.List.Forall2
import TapeMachine.Command.Inspector
import TapeMachine.Proofs.LineCells
import TapeMachine.Proofs.ProgramText
import TapeMachine.Proofs.Surroundings

namespace TapeMachine.Listing

open TapeMachine.Text

/-! ### The widths of the columns -/

theorem totalCells_level_le (widest most excess shares : Nat) (widths : List Nat) :
    totalCells (level widest most excess shares widths) ≤ totalCells widths := by
  fun_induction level widest most excess shares widths with
  | case1 => exact Nat.le_refl _
  | case2 excess shares rest taken ih =>
    rw [totalCells_cons, totalCells_cons]
    omega
  | case3 excess shares w rest hw ih =>
    rw [totalCells_cons, totalCells_cons]
    omega

/-- The last to share takes all that is left. -/
theorem share_one (amount : Nat) : share amount 1 = amount := by
  simp [share, Nat.mod_one]

/-- If something is to be taken, and may be, the columns lose a cell at least. -/
theorem totalCells_level_lt {widest most excess : Nat} {widths : List Nat}
    (hexcess : excess ≠ 0) (hmost : most ≠ 0) (hwidest : widest ≠ 0) (hmem : widest ∈ widths) :
    totalCells (level widest most excess (widths.count widest) widths) < totalCells widths := by
  induction widths with
  | nil => cases hmem
  | cons w rest ih =>
    rw [level]
    split
    · next hw =>
      subst hw
      have hle := totalCells_level_le w most (excess - min most (share excess (rest.count w + 1)))
        (rest.count w) rest
      rw [List.count_cons_self, Nat.add_sub_cancel, totalCells_cons, totalCells_cons]
      by_cases htaken : share excess (rest.count w + 1) = 0
      -- Nothing is taken here, so there is a column behind that loses something.
      · have hrest : w ∈ rest := by
          by_contra hnot
          rw [List.count_eq_zero.mpr hnot, Nat.zero_add, share_one] at htaken
          exact hexcess htaken
        have hlt := ih hrest
        simp only [htaken, Nat.min_zero, Nat.sub_zero]
        omega
      · omega
    · next hw =>
      rw [List.count_cons_of_ne hw, totalCells_cons, totalCells_cons]
      have hlt := ih ((List.mem_cons.mp hmem).resolve_left fun h => hw h.symm)
      omega

/-- The widest column is one of the columns, if there are any. -/
theorem foldl_max_cases (widths : List Nat) :
    (widths = [] ∧ widths.foldl max 0 = 0) ∨
      widths.foldl max 0 ∈ widths ∧ ∀ w ∈ widths, w ≤ widths.foldl max 0 := by
  rw [List.foldl_max, Nat.zero_max]
  rcases hmax : widths.max? with _ | m
  · exact .inl ⟨List.max?_eq_none_iff.mp hmax, rfl⟩
  · exact .inr (List.max?_eq_some_iff.mp hmax)

/-- Columns with cells have a widest one, which is not empty. -/
theorem foldl_max_of_totalCells_ne_zero {widths : List Nat} (h : totalCells widths ≠ 0) :
    widths.foldl max 0 ≠ 0 ∧ widths.foldl max 0 ∈ widths ∧
      ∀ w ∈ widths, w ≤ widths.foldl max 0 := by
  rcases foldl_max_cases widths with ⟨rfl, -⟩ | ⟨hmem, hle⟩
  · exact absurd rfl h
  · refine ⟨fun hzero => h (List.sum_eq_zero_iff_forall_eq_nat.mpr fun w hw => ?_), hmem, hle⟩
    have := hle w hw
    omega

/-- Enough rounds narrow the columns to the room that there is. -/
theorem totalCells_narrow_le {room rounds : Nat} {widths : List Nat}
    (h : totalCells widths ≤ room + rounds) : totalCells (narrow room rounds widths) ≤ room := by
  fun_induction narrow room rounds widths with
  | case1 => exact h
  | case2 rounds widths excess hzero => omega
  | case3 rounds widths excess hexcess widest next most ih =>
    obtain ⟨hwidest, hmem, hle⟩ : widest ≠ 0 ∧ widest ∈ widths ∧ ∀ w ∈ widths, w ≤ widest :=
      foldl_max_of_totalCells_ne_zero (by omega)
    have hnext : next < widest := by
      rcases foldl_max_cases (widths.filter (· ≠ widest)) with ⟨-, hzero⟩ | ⟨hother, -⟩
      · have hnone : next = 0 := hzero
        omega
      · obtain ⟨hin, hne⟩ := List.mem_filter.mp hother
        exact Nat.lt_of_le_of_ne (hle _ hin) (of_decide_eq_true hne)
    have hmost : most ≠ 0 := by omega
    have hlt := totalCells_level_lt hexcess hmost hwidest hmem
    exact ih (by omega)

/-- **A table fits on the screen.**  Every column of a listing has a width, and together with the
frame they take no more than a line of the screen.  If they do so unnarrowed, they are not
narrowed. -/
theorem table_fits (l : Listing) :
    l.widths.length = headers.length ∧ totalWidth l.widths ≤ screenWidth ∧
      (totalWidth l.naturalWidths ≤ screenWidth → l.widths = l.naturalWidths) := by
  have hnatural : l.naturalWidths.length = headers.length := by
    rw [naturalWidths, columns, List.length_map, List.length_map, List.length_zipIdx]
  have hlength : l.widths.length = headers.length := by
    rw [widths, length_narrow, hnatural]
  have hroom : totalCells l.widths ≤ screenWidth - frameWidth headers.length :=
    totalCells_narrow_le (Nat.le_add_left _ _)
  have hframe : frameWidth headers.length ≤ screenWidth := by decide
  refine ⟨hlength, ?_, fun hfits => narrow_eq_self _ ?_⟩
  · rw [totalWidth, hlength]
    omega
  · rw [totalWidth, hnatural] at hfits
    omega

/-! ### Blocks -/

/-- Whether a text is made of lines that take so many cells each. -/
def IsBlock (total : Nat) (text : String) : Prop :=
  ∃ lines : List (List Char), text.toList = lines.flatMap (· ++ ['\n']) ∧
    ∀ line ∈ lines, Fills total line

variable {total : Nat} {text text' : String}

theorem IsBlock.append (h : IsBlock total text) (h' : IsBlock total text') :
    IsBlock total (text ++ text') := by
  obtain ⟨lines, htext, hlines⟩ := h
  obtain ⟨lines', htext', hlines'⟩ := h'
  refine ⟨lines ++ lines', ?_, List.forall_mem_append.mpr ⟨hlines, hlines'⟩⟩
  rw [String.toList_append, htext, htext', List.flatMap_append]

theorem isBlock_join {texts : List String} (h : ∀ text ∈ texts, IsBlock total text) :
    IsBlock total (String.join texts) := by
  induction texts with
  | nil => exact ⟨[], rfl, nofun⟩
  | cons text texts ih =>
    obtain ⟨htext, htexts⟩ := List.forall_mem_cons.mp h
    rw [String.join_cons]
    exact htext.append (ih htexts)

theorem isBlock_line {line : List Char} (h : Fills total line)
    (htext : text.toList = line ++ ['\n']) : IsBlock total text :=
  ⟨[line], by rw [htext, List.flatMap_singleton], List.forall_mem_singleton.mpr h⟩

/-- What may fail for no member of a list does not fail for the list. -/
theorem exists_mapM {α β : Type} {f : α → Option β} {P : α → β → Prop} {xs : List α}
    (h : ∀ x ∈ xs, ∃ y, f x = some y ∧ P x y) :
    ∃ ys, xs.mapM f = some ys ∧ List.Forall₂ P xs ys := by
  induction xs with
  | nil => exact ⟨[], rfl, .nil⟩
  | cons x xs ih =>
    obtain ⟨⟨y, hy, hP⟩, hxs⟩ := List.forall_mem_cons.mp h
    obtain ⟨ys, hys, hall⟩ := ih hxs
    exact ⟨y :: ys, by rw [List.mapM_cons, hy, hys]; rfl, .cons hP hall⟩

theorem forall_mem_of_forall₂ {α β : Type} {P : β → Prop} {xs : List α} {ys : List β}
    (h : List.Forall₂ (fun _ => P) xs ys) : ∀ y ∈ ys, P y := by
  induction h with
  | nil => exact List.forall_mem_nil _
  | cons hy _ ih => exact List.forall_mem_cons.mpr ⟨hy, ih⟩

/-! ### Cells and rows -/

theorem steady_ellipsis : Steady ['…'] :=
  List.forall_mem_singleton.mpr (by decide)

/-- A line of a cell takes its column and the two blanks. -/
theorem exists_framed? (a : Text.Alignment) (width : Nat) {line : List Char} (h : Steady line) :
    ∃ part, framed? a width line = some part ∧ Fills (width + 2) part := by
  obtain ⟨placed, hplaced, hsteady, -⟩ := exists_align? a steady_ellipsis width h
  obtain ⟨part, hpart, hfills⟩ := exists_fit? width hsteady
  have hblank : Text.width [' '] = 1 := width_blanks 1
  have hlast : clip? 1 [[' ']] = some [' '] := by
    rw [clip?, hblank, if_neg (Nat.lt_irrefl 1),
      fit?_of_width_le (Nat.le_of_eq hblank) Nat.one_ne_zero, hblank]
    rfl
  have hclip : clip? (width + 2) [[' '], part, [' ']] = some ([' '] ++ (part ++ [' '])) := by
    have hroom : width + 2 - 1 - width = 1 := by omega
    rw [clip?, hblank, if_pos (by omega), clip?, hfills.width_eq, if_pos (by omega), hroom, hlast]
    rfl
  have hframe : framed? a width line = some ([' '] ++ (part ++ [' '])) := by
    rw [framed?, hplaced, Option.bind_eq_bind, Option.bind_some, hpart]
    exact hclip
  refine ⟨_, hframe, ?_⟩
  have hframed := (fills_blanks 1).append (hfills.append (fills_blanks 1))
  rwa [Nat.add_comm 1, Nat.add_assoc] at hframed

/-- A cell that is laid out: a blank line, and lines of the same width. -/
def IsColumn (width : Nat) (column : List Char × List (List Char)) : Prop :=
  Fills (width + 2) column.1 ∧ ∀ line ∈ column.2, Fills (width + 2) line

theorem exists_cellLines? (a : Text.Alignment) (width : Nat) {cell : String}
    (h : ∀ c ∈ cell.toList, isSelector c = false) :
    ∃ lines, cellLines? a width cell = some lines ∧ ∀ line ∈ lines, Fills (width + 2) line := by
  have hsteady : ∀ line ∈ (pieces '\n' cell.toList).flatMap fun line =>
      wrap false width (expandTabsInLine line), Steady line := by
    intro line hline
    obtain ⟨piece, hpiece, hline⟩ := List.mem_flatMap.mp hline
    have hexpanded : Steady (expandTabsInLine piece) :=
      steady_expandTabsInLine (fun c hc => h c (subset_of_mem_pieces hpiece hc))
        (not_mem_of_mem_pieces hpiece)
    exact steady_wrap _ _ hexpanded line hline
  obtain ⟨lines, hlines, hall⟩ := exists_mapM fun line hline =>
    exists_framed? a width (hsteady line hline)
  exact ⟨lines, hlines, forall_mem_of_forall₂ hall⟩

theorem IsColumn.getD {width : Nat} {column : List Char × List (List Char)}
    (h : IsColumn width column) (i : Nat) : Fills (width + 2) (column.2.getD i column.1) := by
  rw [List.getD_eq_getElem?_getD]
  rcases hline : column.2[i]? with _ | line
  · exact h.1
  · exact h.2 line (List.mem_of_getElem? hline)

variable {stroke : Char} {widths : List Nat}

/-- A line of parts between strokes. -/
theorem fills_strokes (hstroke : Fills 1 [stroke]) {parts : List (List Char)}
    (h : List.Forall₂ (fun w part => Fills (w + 2) part) widths parts) :
    Fills (totalWidth widths) (stroke :: parts.flatMap fun part => part ++ [stroke]) := by
  have hparts : Fills (totalCells widths + 3 * widths.length)
      (parts.flatMap fun part => part ++ [stroke]) := by
    induction h with
    | nil => exact fills_nil
    | @cons w part widths parts hpart _ ih =>
      have hcells : totalCells (w :: widths) + 3 * (w :: widths).length =
          w + 2 + 1 + (totalCells widths + 3 * widths.length) := by
        rw [totalCells_cons, List.length_cons]
        omega
      rw [hcells, List.flatMap_cons]
      exact (hpart.append hstroke).append ih
  have hcells : totalWidth widths = 1 + (totalCells widths + 3 * widths.length) := by
    rw [totalWidth, frameWidth]
    omega
  rw [hcells]
  exact hstroke.append hparts

/-- A row has a text, and each of its lines is as wide as the table. -/
theorem exists_rowText? (hstroke : Fills 1 [stroke]) (hwidths : widths.length = headers.length)
    {cells : List String} (hcells : cells.length = headers.length)
    (h : ∀ cell ∈ cells, ∀ c ∈ cell.toList, isSelector c = false) :
    ∃ text, rowText? stroke widths cells = some text ∧ IsBlock (totalWidth widths) text := by
  have hlaid : ∀ x ∈ headers.zip (widths.zip cells), ∃ column,
      (do return (List.replicate (x.2.1 + 2) ' ', ← cellLines? x.1.2 x.2.1 x.2.2)) = some column ∧
        IsColumn x.2.1 column := by
    intro x hx
    have hcell : x.2.2 ∈ cells := (List.of_mem_zip (List.of_mem_zip hx).2).2
    obtain ⟨lines, hlines, hfills⟩ := exists_cellLines? x.1.2 x.2.1 (h _ hcell)
    exact ⟨_, by rw [hlines]; rfl, fills_blanks _, hfills⟩
  obtain ⟨columns, hcolumns, hall⟩ := exists_mapM hlaid
  have hzip : (headers.zip (widths.zip cells)).map (·.2.1) = widths := by
    have hinner : (widths.zip cells).length = headers.length := by
      rw [List.length_zip, hwidths, hcells, Nat.min_self]
    have hparts : (headers.zip (widths.zip cells)).map (·.2.1) =
        ((headers.zip (widths.zip cells)).map Prod.snd).map Prod.fst := by
      rw [List.map_map]
      rfl
    rw [hparts, List.map_snd_zip (Nat.le_of_eq hinner),
      List.map_fst_zip (Nat.le_of_eq (hwidths.trans hcells.symm))]
  have hshaped : List.Forall₂ IsColumn widths columns := by
    rw [← hzip, List.forall₂_map_left_iff]
    exact hall
  refine ⟨_, by rw [rowText?]; exact congrArg (· >>= _) hcolumns, isBlock_join fun line hline => ?_⟩
  obtain ⟨i, -, rfl⟩ := List.mem_map.mp hline
  refine isBlock_line (fills_strokes hstroke (List.forall₂_map_right_iff.mpr
    (hshaped.imp fun w column hcolumn => hcolumn.getD i))) ?_
  rw [cellsLine, String.toList_ofList]

/-! ### Borders -/

/-- Whether the parts of a border take a cell each. -/
structure Border.Even (b : Border) : Prop where
  first : Fills 1 b.first.toList
  fill : Fills 1 [b.fill]
  crossing : Fills 1 b.crossing.toList
  last : Fills 1 b.last.toList

theorem even_topBorder : topBorder.Even :=
  ⟨by decide +kernel, by decide +kernel, by decide +kernel, by decide +kernel⟩

theorem even_headerBorder : headerBorder.Even :=
  ⟨by decide +kernel, by decide +kernel, by decide +kernel, by decide +kernel⟩

theorem even_bottomBorder : bottomBorder.Even :=
  ⟨by decide +kernel, by decide +kernel, by decide +kernel, by decide +kernel⟩

/-- A horizontal line is as wide as the table. -/
theorem Border.Even.isBlock_line {b : Border} (h : b.Even) (hne : widths ≠ []) :
    IsBlock (totalWidth widths) (b.line widths) := by
  let run (w : Nat) := List.replicate (w + 2) b.fill
  have hruns : Fills (totalCells widths + 3 * widths.length - 1)
      (b.crossing.toList.intercalate (widths.map run)) := by
    induction widths with
    | nil => exact absurd rfl hne
    | cons w rest ih =>
      have hfirst : Fills (w + 2) (run w) := fills_replicate h.fill (w + 2)
      rcases rest with _ | ⟨next, rest⟩
      · rw [List.map_singleton, List.intercalate_singleton]
        exact hfirst
      · have hcells : totalCells (w :: next :: rest) + 3 * (w :: next :: rest).length - 1 =
            w + 2 + 1 + (totalCells (next :: rest) + 3 * (next :: rest).length - 1) := by
          rw [totalCells_cons w, List.length_cons (a := w), List.length_cons]
          omega
        rw [hcells, List.map_cons, List.map_cons, List.intercalate_cons_cons]
        exact (hfirst.append h.crossing).append (ih (List.cons_ne_nil _ _))
  have hcells : totalWidth widths = 1 + (totalCells widths + 3 * widths.length - 1) + 1 := by
    have hpos := List.length_pos_iff.mpr hne
    rw [totalWidth, frameWidth]
    omega
  rw [hcells]
  refine Listing.isBlock_line ((h.first.append hruns).append h.last) ?_
  have hmap : (widths.map fun w => String.ofList (run w)).map String.toList = widths.map run := by
    rw [List.map_map]
    exact List.map_congr_left fun w _ => String.toList_ofList
  rw [← hmap, ← String.toList_intercalate, ← String.toList_append, ← String.toList_append]
  exact String.toList_append

/-! ### The title -/

/-- The title has a layout, in which every line is as wide as the table. -/
theorem exists_titleLines? (total : Nat) {title : Marked Markup.Mark}
    (h : ∀ c ∈ title.chars, isSelector c = false) (hspans : title.spans = []) :
    ∃ heading, titleLines? total title = some heading ∧
      ∀ line ∈ heading, Fills total line.chars ∧ line.Bears (· = none) := by
  have htitle : title.Bears (· = none) := by
    rw [Marked.Bears, hspans]
    exact List.forall_mem_nil _
  have hlines : ∀ line ∈ (title.split '\n').flatMap fun line =>
      (line.expandTabs none).wrap true total, Steady line.chars ∧ line.Bears (· = none) := by
    intro line hline
    obtain ⟨part, hpart, hline⟩ := List.mem_flatMap.mp hline
    have hpiece : part.chars ∈ pieces '\n' title.chars := by
      rw [← title.chars_split]
      exact List.mem_map_of_mem hpart
    have hchars : line.chars ∈ wrap true total (expandTabsInLine part.chars) := by
      rw [← Marked.chars_expandTabs none, ← Marked.chars_wrap]
      exact List.mem_map_of_mem hline
    have hbears : (part.expandTabs none).Bears (· = none) :=
      Marked.bears_expandTabs (P := (· = none)) rfl (Marked.bears_divide htitle _ _ part hpart)
    have hexpanded : Steady (expandTabsInLine part.chars) :=
      steady_expandTabsInLine (fun c hc => h c (subset_of_mem_pieces hpiece hc))
        (not_mem_of_mem_pieces hpiece)
    exact ⟨steady_wrap _ _ hexpanded _ hchars,
      Marked.bears_wrap hbears _ _ line hline⟩
  have hplaced : ∀ line ∈ (title.split '\n').flatMap fun line =>
      (line.expandTabs none).wrap true total, ∃ placed, line.center? total = some placed ∧
        Fills total placed.chars ∧ placed.Bears (· = none) := by
    intro line hline
    obtain ⟨hsteady, hbears⟩ := hlines line hline
    obtain ⟨chars, hchars, hsteady', hwidth⟩ := exists_align? .center steady_nil total hsteady
    rw [← Marked.chars_center?] at hchars
    obtain ⟨placed, hplaced, rfl⟩ := Option.map_eq_some_iff.mp hchars
    exact ⟨placed, hplaced, ⟨hsteady', hwidth (Nat.zero_le total)⟩,
      Marked.bears_of_center? hbears hplaced⟩
  obtain ⟨heading, hheading, hall⟩ := exists_mapM hplaced
  exact ⟨heading, hheading, forall_mem_of_forall₂ hall⟩

/-- A line that fits on the screen is shown as it is, whatever its segments. -/
theorem cropLine?_of_fills {α : Type} {line : Marked α} (h : Fills total line.chars)
    (hfits : total ≤ screenWidth) : cropLine? screenWidth line.segments = some line.chars := by
  have hsteady : ∀ segment ∈ line.segments, Steady segment := by
    have hall : Steady line.segments.flatten := by
      rw [Marked.flatten_segments]
      exact h.steady
    exact fun _ => hall.of_mem_flatten
  have hcells : totalCells (line.segments.map Text.width) = total := by
    rw [← width_flatten hsteady, Marked.flatten_segments, h.width_eq]
  rw [cropLine?, hcells, if_pos hfits, Marked.flatten_segments]

/-! ### The whole text -/

/-- Whether a listing has cells for all columns, and nothing in them changes the width of its
neighbours. -/
def IsEven (l : Listing) : Prop :=
  ∀ r ∈ l.rows, r.cells.length = headers.length ∧
    ∀ cell ∈ r.cells, ∀ c ∈ cell.toList, isSelector c = false

theorem isSelector_headers :
    ∀ cell ∈ headers.map (·.1), ∀ c ∈ cell.toList, isSelector c = false := by
  intro cell hcell c hc
  have hall : (headers.map (·.1)).all fun cell => cell.toList.all fun c => !isSelector c := by
    decide
  have hcells := List.all_eq_true.mp (List.all_eq_true.mp hall cell hcell) c hc
  rwa [Bool.not_eq_true'] at hcells

/-- Under a heading that is laid out, the table is so too. -/
theorem exists_textUnder? {l : Listing} (h : l.IsEven) {heading : List (Marked Markup.Mark)}
    (hheading : ∀ line ∈ heading, Fills (totalWidth l.widths) line.chars) :
    ∃ text, l.textUnder? heading = some text ∧ IsBlock (totalWidth l.widths) text := by
  obtain ⟨hlength, hfits, -⟩ := l.table_fits
  have hne : l.widths ≠ [] := by
    intro hnil
    rw [hnil] at hlength
    cases hlength
  obtain ⟨shown, hshown, hlines⟩ := exists_mapM (f := fun line : Marked Markup.Mark =>
      cropLine? screenWidth line.segments) (P := fun _ => Fills (totalWidth l.widths))
    fun line hline => ⟨_, cropLine?_of_fills (hheading line hline) hfits, hheading line hline⟩
  have hstroke : Fills 1 ['┃'] := by decide +kernel
  obtain ⟨top, htop, hblock⟩ :=
    exists_rowText? hstroke hlength (List.length_map _) isSelector_headers
  obtain ⟨rows, hrows, hblocks⟩ := exists_mapM (f := fun r => rowText? '│' l.widths r.cells)
    (P := fun _ => IsBlock (totalWidth l.widths)) fun r hr =>
      exists_rowText? (by decide +kernel) hlength (h r hr).1 (h r hr).2
  have htitle : IsBlock (totalWidth l.widths)
      (String.join (shown.map fun line => String.ofList line ++ "\n")) := by
    refine isBlock_join fun text htext => ?_
    obtain ⟨line, hline, rfl⟩ := List.mem_map.mp htext
    refine isBlock_line (forall_mem_of_forall₂ hlines line hline) ?_
    rw [String.toList_append, String.toList_ofList]
    rfl
  refine ⟨_, by rw [textUnder?, hshown, htop, hrows]; rfl, ?_⟩
  exact ((((htitle.append (even_topBorder.isBlock_line hne)).append hblock).append
    (even_headerBorder.isBlock_line hne)).append
      (isBlock_join (forall_mem_of_forall₂ hblocks))).append (even_bottomBorder.isBlock_line hne)

/-- **Every line of a listing is as wide as its table.**  Let no character of the title and of the
cells change the width of its neighbours, and let the title hold no opening bracket and no colon.
Then the listing has a layout without notes, made of lines that take just the cells of the table,
which are no more than the screen has. -/
theorem text_of_isEven {l : Listing} (h : l.IsEven)
    (htitle : ∀ c ∈ l.title.toList, isSelector c = false ∧ c ≠ '[' ∧ c ≠ ':') :
    ∃ text, l.text = (.ok text, []) ∧ IsBlock (totalWidth l.widths) text ∧
      totalWidth l.widths ≤ screenWidth := by
  have hbracket : '[' ∉ l.title.toList := fun hmem => (htitle _ hmem).2.1 rfl
  have hcolon : ':' ∉ l.title.toList := fun hmem => (htitle _ hmem).2.2 rfl
  have hread : Markup.read l.title.toList =
      (.ok { chars := dropControls l.title.toList }, []) := by
    rw [Markup.read_of_not_mem hbracket, Emoji.replace_eq_self hcolon]
  have hplain : ∀ c ∈ dropControls l.title.toList, isSelector c = false :=
    fun c hc => (htitle c (List.mem_of_mem_filter hc)).1
  obtain ⟨heading, hheading, hlines⟩ :=
    @exists_titleLines? (totalWidth l.widths) { chars := dropControls l.title.toList } hplain rfl
  have hshow : heading.all Markup.canShow = true := by
    refine List.all_eq_true.mpr fun line hline => List.all_eq_true.mpr fun s hs => ?_
    rw [(hlines line hline).2 s hs]
    rfl
  obtain ⟨text, htext, hblock⟩ := exists_textUnder? h fun line hline => (hlines line hline).1
  refine ⟨text, ?_, hblock, l.table_fits.2.1⟩
  have htitled : l.textTitled { chars := dropControls l.title.toList } = .ok text := by
    rw [textTitled, hheading]
    dsimp only
    rw [if_pos hshow, htext]
    rfl
  rw [Listing.text, hread]
  dsimp only [Except.mapError]
  rw [← htitled]
  rfl

/-! ### Programs -/

/-- A token holds characters of the text. -/
theorem subset_of_mem_splitTokens {chars token : List Char} (h : token ∈ splitTokens chars) :
    token ⊆ chars := by
  fun_induction splitTokens chars with
  | case1 => cases h
  | case2 c rest hc ih => exact fun d hd => List.mem_cons_of_mem c (ih h hd)
  | case3 c rest hc ih =>
    rcases List.mem_cons.mp h with rfl | h
    · exact List.cons_subset_cons c (List.takeWhile_sublist _).subset
    · exact fun d hd => List.mem_cons_of_mem c ((List.dropWhile_suffix _).subset (ih h hd))

theorem subset_of_readProgram {source : String} {rules : List Rule}
    (h : readProgram source = .ok rules) {r : Rule} (hr : r ∈ rules) {symbol : String}
    (hs : symbol ∈ r.spelling) : symbol.toList ⊆ source.toList := by
  have hmem : symbol ∈ tokenize source := by
    rw [readProgram_eq_ok_iff_tokenize.mp h]
    exact List.mem_flatMap.mpr ⟨r, hr, hs⟩
  obtain ⟨token, htoken, rfl⟩ := List.mem_map.mp hmem
  rw [String.toList_ofList]
  exact subset_of_mem_splitTokens htoken

theorem isSelector_of_mem_repr (n : Nat) : ∀ c ∈ (toString n).toList, isSelector c = false := by
  intro c hc
  have hdigit : c ∈ Nat.toDigits 10 n := by
    rwa [Nat.toString_eq_repr, Nat.repr, String.toList_ofList] at hc
  exact isSelector_of_printable (Json.printable_of_mem_toDigits hdigit)

/-- The cells of a row show the rule and two numbers. -/
theorem isSelector_row {place : Nat} {r : Rule} {winner : Option Nat}
    (h : ∀ symbol ∈ r.spelling, ∀ c ∈ symbol.toList, isSelector c = false) :
    ∀ cell ∈ (row place r winner).cells, ∀ c ∈ cell.toList, isSelector c = false := by
  have hshown : ∀ symbol ∈ r.spelling, ∀ c ∈ (shown symbol).toList, isSelector c = false := by
    intro symbol hsymbol c hc
    rw [shown, String.toList_ofList] at hc
    exact h symbol hsymbol c (List.mem_of_mem_filter hc)
  have hnote : ∀ c ∈ (winner.elim "" fun w => s!"shadowed by #{w}").toList,
      isSelector c = false := by
    rcases winner with _ | w
    · exact List.forall_mem_nil _
    · intro c hc
      have hparts : c ∈ "shadowed by #".toList ++ (toString w).toList := by
        rw [← String.toList_append]
        exact hc
      rcases List.mem_append.mp hparts with hc | hc
      · exact isSelector_of_printable (Json.printable_of_all (by decide) c hc)
      · exact isSelector_of_mem_repr w c hc
  simp only [row, List.forall_mem_cons]
  exact ⟨isSelector_of_mem_repr place, hshown _ (by simp [Rule.spelling]),
    hshown _ (by simp [Rule.spelling]), hshown _ (by simp [Rule.spelling]),
    h _ (by simp [Rule.spelling]), hshown _ (by simp [Rule.spelling]), hnote, List.forall_mem_nil _⟩

theorem isEven_ofRules {rules : List Rule} (title : String)
    (h : ∀ r ∈ rules, ∀ symbol ∈ r.spelling, ∀ c ∈ symbol.toList, isSelector c = false) :
    (ofRules rules title).IsEven := by
  intro r hr
  obtain ⟨⟨rule, place⟩, hrule, rfl⟩ := List.mem_map.mp hr
  exact ⟨rfl, isSelector_row (h rule (List.fst_mem_of_mem_zipIdx hrule))⟩

end TapeMachine.Listing

namespace TapeMachine.Inspector

open TapeMachine.Listing TapeMachine.Text World

/-- **The inspector prints an even listing.**  Let a file be read as a program, let no character of
the file and of its path change the width of its neighbours, and let the path hold no opening
bracket and no colon.  Then the inspector prints lines that are as wide as the table, which fits on
the screen, and the number of rules below them.  It reports nothing and changes nothing else. -/
theorem perform_inspect {w : World} {path source : String} {rules : List Rule}
    (hread : w.perform (readSource path) = (.ok source, w))
    (hparse : readProgram source = .ok rules)
    (hsource : ∀ c ∈ source.toList, isSelector c = false)
    (hpath : ∀ c ∈ path.toList, isSelector c = false ∧ c ≠ '[' ∧ c ≠ ':') :
    let l := Listing.ofRules rules s!"Rules in {path}"
    ∃ text, IsBlock (totalWidth l.widths) text ∧ totalWidth l.widths ≤ screenWidth ∧
      w.perform (inspect path) = (.ok (), { w with out := w.out ++ text ++
        s!"[INFO] {rules.length} rules, {l.markedCount} shadowed.\n" }) := by
  intro l
  have htitle : ∀ c ∈ l.title.toList, isSelector c = false ∧ c ≠ '[' ∧ c ≠ ':' := by
    intro c hc
    have hparts : c ∈ "Rules in ".toList ++ path.toList := by
      rw [← String.toList_append]
      exact hc
    rcases List.mem_append.mp hparts with hc | hc
    · have hall : "Rules in ".toList.all fun c => isSelector c = false ∧ c ≠ '[' ∧ c ≠ ':' := by
        decide
      exact of_decide_eq_true (List.all_eq_true.mp hall c hc)
    · exact hpath c hc
  have heven : l.IsEven := isEven_ofRules _ fun r hr symbol hs c hc =>
    hsource c (subset_of_readProgram hparse hr hs hc)
  obtain ⟨text, htext, hblock, hfits⟩ := text_of_isEven heven htitle
  refine ⟨text, hblock, hfits, ?_⟩
  rw [inspect, perform_bind_ok hread, hparse]
  dsimp only
  rw [htext]
  rfl

end TapeMachine.Inspector
