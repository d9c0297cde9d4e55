/-
Lines of a given number of cells.

A line is steady if it holds no line feed and no tab, and no joiner and no selector, which
change the width of their neighbours.  The widths of steady lines add up.  So such a line
can be cut, filled up and aligned, and comes out at the width that was asked for.

* **`Text.Steady`**, **`Text.Fills`** — such lines, and those of a given width;
* **`Text.exists_fit?`** — a line that is cut or filled up;
* **`Text.exists_align?`** — a line that is aligned;
* **`Text.steady_wrap`**, **`Text.steady_expandTabsInLine`** — lines that are broken, and lines
  without tabs;
* **`Text.Marked.chars_split`**, **`Text.Marked.Bears`** — marked lines as text, and their marks.
-/
import TapeMachine.Proofs.AsciiText
import TapeMachine.Text.Marked

namespace TapeMachine.Text

variable {line line' : List Char} {total : Nat}

/-! ### Steady lines -/

/-- Whether a line holds no line feed, no tab, and nothing that changes the width of its
neighbours. -/
def Steady (line : List Char) : Prop :=
  ∀ c ∈ line, isSelector c = false ∧ c ≠ '\n' ∧ c ≠ '\t'

instance (line : List Char) : Decidable (Steady line) :=
  List.decidableBAll _ line

theorem steady_nil : Steady [] :=
  fun _ h => nomatch h

theorem Steady.append (h : Steady line) (h' : Steady line') : Steady (line ++ line') :=
  List.forall_mem_append.mpr ⟨h, h'⟩

theorem Steady.subset (h : Steady line) (hsub : line' ⊆ line) : Steady line' :=
  fun c hc => h c (hsub hc)

theorem Steady.cons {c : Char} (hc : Steady [c]) (h : Steady line) : Steady (c :: line) :=
  hc.append h

theorem steady_flatten {lines : List (List Char)} (h : ∀ line ∈ lines, Steady line) :
    Steady lines.flatten := by
  intro c hc
  obtain ⟨line, hline, hc⟩ := List.mem_flatten.mp hc
  exact h line hline c hc

/-- One of several lines that are steady together. -/
theorem Steady.of_mem_flatten {lines : List (List Char)} (h : Steady lines.flatten)
    (hline : line ∈ lines) : Steady line :=
  fun c hc => h c (List.mem_flatten.mpr ⟨line, hline, hc⟩)

theorem isSelector_of_printable {c : Char} (h : IsPrintableAscii c) : isSelector c = false := by
  obtain ⟨-, hhigh⟩ := h
  rw [isSelector, Bool.or_eq_false_iff, decide_eq_false_iff_not, decide_eq_false_iff_not]
  refine ⟨?_, ?_⟩ <;> rintro rfl <;> exact absurd hhigh (by decide)

theorem steady_of_printable (h : ∀ c ∈ line, IsPrintableAscii c) : Steady line := by
  intro c hc
  obtain ⟨hlow, -⟩ := h c hc
  refine ⟨isSelector_of_printable (h c hc), ?_, ?_⟩
  · rintro rfl
    exact absurd hlow (by decide)
  · rintro rfl
    exact absurd hlow (by decide)

theorem steady_blank : Steady [' '] :=
  steady_of_printable (Json.printable_of_all (by decide))

/-! ### Widths that add up -/

theorem totalCells_append (cells cells' : List Nat) :
    totalCells (cells ++ cells') = totalCells cells + totalCells cells' :=
  List.sum_append

theorem Steady.width_eq (h : Steady line) : width line = totalCells (line.map charWidth) :=
  width_eq_totalCells fun c hc => (h c hc).1

theorem width_append (h : Steady line) (h' : Steady line') :
    width (line ++ line') = width line + width line' := by
  rw [(h.append h').width_eq, h.width_eq, h'.width_eq, List.map_append, totalCells_append]

theorem width_flatten {lines : List (List Char)} (h : ∀ line ∈ lines, Steady line) :
    width lines.flatten = totalCells (lines.map width) := by
  induction lines with
  | nil => rfl
  | cons line lines ih =>
    obtain ⟨hline, hlines⟩ := List.forall_mem_cons.mp h
    rw [List.flatten_cons, width_append hline (steady_flatten hlines), ih hlines, List.map_cons,
      totalCells_cons]

theorem width_singleton {c : Char} (hc : Steady [c]) : width [c] = charWidth c := by
  rw [hc.width_eq]
  rfl

theorem charWidth_le_two (c : Char) : charWidth c ≤ 2 := by
  simp only [charWidth]
  split_ifs <;> omega

/-- Whether a line is steady and takes so many cells. -/
structure Fills (total : Nat) (line : List Char) : Prop where
  steady : Steady line
  width_eq : width line = total

instance (total : Nat) (line : List Char) : Decidable (Fills total line) :=
  decidable_of_iff (Steady line ∧ width line = total)
    ⟨fun h => ⟨h.1, h.2⟩, fun h => ⟨h.steady, h.width_eq⟩⟩

theorem fills_nil : Fills 0 [] :=
  ⟨steady_nil, rfl⟩

theorem Fills.append {n : Nat} (h : Fills total line) (h' : Fills n line') :
    Fills (total + n) (line ++ line') :=
  ⟨h.steady.append h'.steady, by rw [width_append h.steady h'.steady, h.width_eq, h'.width_eq]⟩

theorem fills_replicate {c : Char} (hc : Fills 1 [c]) (n : Nat) : Fills n (List.replicate n c) := by
  induction n with
  | zero => exact fills_nil
  | succ n ih =>
    rw [List.replicate_succ, Nat.add_comm]
    exact hc.append ih

theorem fills_blanks (n : Nat) : Fills n (List.replicate n ' ') :=
  fills_replicate ⟨steady_blank, width_blanks 1⟩ n

/-! ### Clusters -/

/-- Whether the cells of a cluster are those of its characters, which are steady. -/
structure Cluster.Fair (k : Cluster) : Prop where
  fills : Fills k.cells k.chars
  cells_le : k.cells ≤ 2

theorem Cluster.fair_ofChar {c : Char} (hc : Steady [c]) : (Cluster.ofChar c).Fair :=
  ⟨⟨hc, width_singleton hc⟩, charWidth_le_two c⟩

theorem clusterCells_cons (k : Cluster) (ks : List Cluster) :
    clusterCells (k :: ks) = k.cells + clusterCells ks :=
  rfl

/-- The clusters after a fair one, and what they take together. -/
theorem clustersAfter_fair {k : Cluster} (hk : k.Fair) (last? : Option Char)
    (h : Steady line) :
    (∀ k' ∈ clustersAfter k last? line, k'.Fair) ∧
      clusterCells (clustersAfter k last? line) = k.cells + width line := by
  induction line generalizing k last? with
  | nil => exact ⟨List.forall_mem_singleton.mpr hk, rfl⟩
  | cons c line ih =>
    obtain ⟨hc, hline⟩ := List.forall_mem_cons.mp h
    have hsingle : Steady [c] := List.forall_mem_singleton.mpr hc
    have hselector : c ≠ '\u200D' ∧ c ≠ '\uFE0F' := by
      simpa [isSelector] using hc.1
    have hwidth : width (c :: line) = charWidth c + width line := by
      rw [← List.singleton_append, width_append hsingle hline, width_singleton hsingle]
    rw [clustersAfter]
    · split
      · next hzero =>
        have hextended : (k.extend [c]).Fair := by
          refine ⟨hk.fills.append (n := 0) ⟨hsingle, ?_⟩, hk.cells_le⟩
          rw [width_singleton hsingle, hzero]
        obtain ⟨hfair, hcells⟩ := ih hextended last? hline
        refine ⟨hfair, hcells.trans ?_⟩
        rw [hwidth, hzero, Nat.zero_add]
        rfl
      · obtain ⟨hfair, hcells⟩ := ih (Cluster.fair_ofChar hsingle) (some c) hline
        refine ⟨List.forall_mem_cons.mpr ⟨hk, hfair⟩, ?_⟩
        rw [hwidth, clusterCells_cons, hcells]
        rfl
    · exact fun h _ => hselector.1 h
    · exact fun _ _ h _ => hselector.1 h
    · exact hselector.2

theorem clusters_fair (h : Steady line) :
    (∀ k ∈ clusters line, k.Fair) ∧ clusterCells (clusters line) = width line := by
  cases line with
  | nil => exact ⟨nofun, rfl⟩
  | cons c line =>
    obtain ⟨hc, hline⟩ := List.forall_mem_cons.mp h
    have hsingle : Steady [c] := List.forall_mem_singleton.mpr hc
    obtain ⟨hfair, hcells⟩ := clustersAfter_fair (Cluster.fair_ofChar hsingle)
      (Cluster.widened? c) hline
    refine ⟨hfair, hcells.trans ?_⟩
    rw [← List.singleton_append, width_append hsingle hline, width_singleton hsingle]
    rfl

/-! ### Cutting and filling up -/

/-- A cut of fair clusters is as wide as it is asked to be. -/
theorem fills_of_cut? {room : Nat} {ks : List Cluster} {part : List Char}
    (hks : ∀ k ∈ ks, k.Fair) (h : cut? room ks = some part) : Fills room part := by
  fun_induction cut? room ks generalizing part with
  | case1 =>
    cases h
    exact fills_nil
  | case2 => cases h
  | case3 room k rest hfits ih =>
    obtain ⟨hk, hrest⟩ := List.forall_mem_cons.mp hks
    obtain ⟨more, hmore, rfl⟩ := Option.map_eq_some_iff.mp h
    have hfills := hk.fills.append (ih hrest hmore)
    rwa [Nat.add_sub_of_le hfits] at hfills
  | case4 room k rest hwide =>
    cases h
    -- A cluster takes two cells at most, so half of one is all that is left.
    have hroom : room = 0 := by
      have := (hks k List.mem_cons_self).cells_le
      omega
    rw [hroom]
    exact fills_blanks 1

/-- A steady line can be cut or filled up to any width. -/
theorem exists_fit? (total : Nat) (h : Steady line) :
    ∃ part, fit? total line = some part ∧ Fills total part := by
  by_cases htotal : total = 0
  · exact ⟨[], if_pos htotal, htotal ▸ fills_nil⟩
  by_cases hfits : width line ≤ total
  · refine ⟨_, fit?_of_width_le hfits htotal, ?_⟩
    have hfills := (Fills.mk h rfl).append (fills_blanks (total - width line))
    rwa [Nat.add_sub_of_le hfits] at hfills
  · obtain ⟨hfair, hcells⟩ := clusters_fair h
    have hroom : total ≤ clusterCells (clusters line) := by omega
    obtain ⟨part, hpart⟩ := Option.isSome_iff_exists.mp (cut?_isSome hroom)
    exact ⟨part, by rw [fit?, if_neg htotal, if_neg hfits, hpart], fills_of_cut? hfair hpart⟩

/-! ### Alignment -/

theorem trimEnd_subset (line : List Char) : trimEnd line ⊆ line := by
  intro c hc
  rw [trimEnd, List.mem_reverse] at hc
  exact List.mem_reverse.mp ((List.dropWhile_suffix isBlank).subset hc)

theorem exists_shorten? {mark : List Char} (hmark : Steady mark) (total : Nat) (h : Steady line) :
    ∃ kept, shorten? mark total line = some kept ∧ Steady kept ∧
      (width mark ≤ total → width kept ≤ total) := by
  rw [shorten?]
  split
  · next hfits => exact ⟨line, rfl, h, fun _ => hfits⟩
  · obtain ⟨part, hpart, hfills⟩ := exists_fit? (total - width mark) h
    refine ⟨part ++ mark, by rw [hpart]; rfl, hfills.steady.append hmark, fun hroom => ?_⟩
    rw [width_append hfills.steady hmark, hfills.width_eq]
    omega

/-- A steady line can be aligned.  It takes the width that is asked for, if there is room for the
mark at a cut. -/
theorem exists_align? (a : Alignment) {mark : List Char} (hmark : Steady mark) (total : Nat)
    (h : Steady line) :
    ∃ placed, align? a mark total line = some placed ∧ Steady placed ∧
      (width mark ≤ total → width placed = total) := by
  have htrimmed : Steady (if a = .left then line else trimEnd line) := by
    split
    · exact h
    · exact h.subset (trimEnd_subset line)
  obtain ⟨kept, hkept, hsteady, hwidth⟩ := exists_shorten? hmark total htrimmed
  have hsum := margins_sum a (total - width kept)
  have halign : align? a mark total line =
      some (List.replicate (margins a (total - width kept)).1 ' ' ++ kept ++
        List.replicate (margins a (total - width kept)).2 ' ') := by
    rw [align?, hkept]
    rfl
  have hplaced := ((fills_blanks (margins a (total - width kept)).1).append
    ⟨hsteady, rfl⟩).append (fills_blanks (margins a (total - width kept)).2)
  refine ⟨_, halign, hplaced.steady, fun hroom => ?_⟩
  have hfits := hwidth hroom
  rw [hplaced.width_eq]
  omega

/-! ### Breaking, and tabs -/

/-- The lines of a steady line are steady. -/
theorem steady_wrap (folds : Bool) (total : Nat) (h : Steady line) :
    ∀ part ∈ wrap folds total line, Steady part := by
  intro part hpart
  obtain ⟨broken, hbroken, rfl⟩ := List.mem_map.mp hpart
  have hlines : Steady (brokenLines folds total line).flatten := by
    rwa [flatten_brokenLines]
  exact (hlines.of_mem_flatten hbroken).subset fun c hc => List.mem_of_mem_take hc

theorem steady_joinTabs (column : Nat) {parts : List (List Char)}
    (h : ∀ part ∈ parts, Steady part) : Steady (joinTabs column parts) := by
  fun_induction joinTabs column parts with
  | case1 => exact steady_nil
  | case2 => exact List.forall_mem_singleton.mp h
  | case3 column part rest _ reached ih =>
    obtain ⟨hpart, hrest⟩ := List.forall_mem_cons.mp h
    have hblanks : Steady (' ' :: List.replicate (toTabStop reached) ' ') :=
      steady_blank.cons (fills_blanks _).steady
    exact (hpart.append hblanks).append (ih hrest)

/-- What is joined holds each of the parts. -/
theorem subset_intercalate (separator : List Char) {part : List Char} {parts : List (List Char)}
    (h : part ∈ parts) : part ⊆ separator.intercalate parts := by
  induction parts with
  | nil => cases h
  | cons first rest ih =>
    cases rest with
    | nil =>
      rw [List.mem_singleton.mp h, List.intercalate_singleton]
      exact List.Subset.refl first
    | cons next rest =>
      rw [List.intercalate_cons_cons]
      rcases List.mem_cons.mp h with rfl | h
      · exact fun c hc => List.mem_append_left _ (List.mem_append_left _ hc)
      · exact fun c hc => List.mem_append_right _ (ih h hc)

/-- A piece holds characters of the text. -/
theorem subset_of_mem_pieces {separator : Char} {chars piece : List Char}
    (h : piece ∈ pieces separator chars) : piece ⊆ chars := by
  have hjoined := subset_intercalate [separator] h
  rwa [intercalate_pieces] at hjoined

/-- A line without tabs is steady, if it holds no line feed and nothing changes the width of its
neighbours. -/
theorem steady_expandTabsInLine (h : ∀ c ∈ line, isSelector c = false) (hline : '\n' ∉ line) :
    Steady (expandTabsInLine line) := by
  refine steady_joinTabs 0 fun part hpart c hc => ?_
  have hmem := subset_of_mem_pieces hpart hc
  exact ⟨h c hmem, fun heq => hline (heq ▸ hmem), fun heq => not_mem_of_mem_pieces hpart (heq ▸ hc)⟩

/-! ### Marked lines -/

namespace Marked

variable {α : Type} {P : α → Prop} {m : Marked α}

/-- The parts between the occurrences of a character are the pieces of the text. -/
theorem chars_split (m : Marked α) (separator : Char) :
    (m.split separator).map chars = pieces separator m.chars := by
  have hslices : ∀ (first : Nat) (parts : List (List Char)), parts ≠ [] →
      m.chars.drop first = [separator].intercalate parts →
      (m.slicesFrom 1 first (parts.map List.length)).map chars = parts := by
    intro first parts hne hparts
    induction parts generalizing first with
    | nil => exact absurd rfl hne
    | cons part rest ih =>
      rcases rest with _ | ⟨next, rest⟩
      · rw [List.intercalate_singleton] at hparts
        simp [slicesFrom, slice, hparts]
      · rw [List.intercalate_cons_cons, List.append_assoc] at hparts
        have hrest : m.chars.drop (first + part.length + 1) =
            [separator].intercalate (next :: rest) := by
          rw [Nat.add_assoc, ← List.drop_drop, hparts, ← List.drop_drop, List.drop_left]
          rfl
        rw [List.map_cons, slicesFrom, List.map_cons, ih _ (List.cons_ne_nil _ _) hrest]
        simp [slice, hparts]
  rw [split, divide]
  split
  · next hsingle =>
    obtain ⟨part, hpart⟩ := List.length_eq_one_iff.mp (Nat.le_antisymm
      (by rwa [List.length_map] at hsingle)
      (List.length_pos_iff.mpr (pieces_ne_nil separator m.chars)))
    have hwhole := intercalate_pieces separator m.chars
    rw [hpart, List.intercalate_singleton] at hwhole
    rw [hpart, hwhole]
    rfl
  · exact hslices 0 _ (pieces_ne_nil separator m.chars) (intercalate_pieces separator m.chars).symm

/-- Whether all marks in a text are of a kind. -/
def Bears (P : α → Prop) (m : Marked α) : Prop :=
  ∀ s ∈ m.spans, P s.mark

theorem bears_slice (h : m.Bears P) (first last : Nat) : (m.slice first last).Bears P := by
  intro s hs
  obtain ⟨t, ht, hbetween⟩ := List.mem_filterMap.mp hs
  rw [Span.between?] at hbetween
  split at hbetween
  · cases hbetween
    exact h t ht
  · cases hbetween

theorem bears_divide (h : m.Bears P) (gap : Nat) (sizes : List Nat) :
    ∀ part ∈ m.divide gap sizes, part.Bears P := by
  have hslices : ∀ first, ∀ part ∈ m.slicesFrom gap first sizes, part.Bears P := by
    intro first
    induction sizes generalizing first with
    | nil => exact List.forall_mem_nil _
    | cons size sizes ih => exact List.forall_mem_cons.mpr ⟨bears_slice h _ _, ih _⟩
  rw [divide]
  split
  · exact List.forall_mem_singleton.mpr h
  · exact hslices 0

theorem bears_withChars (h : m.Bears P) (line : List Char) : (m.withChars line).Bears P := by
  intro s hs
  rw [withChars] at hs
  dsimp only at hs
  split at hs
  · obtain ⟨t, ht, hbefore⟩ := List.mem_filterMap.mp hs
    rw [Span.before?] at hbefore
    split at hbefore
    · cases hbefore
      exact h t ht
    · cases hbefore
  · exact h s hs

theorem bears_wrap (h : m.Bears P) (folds : Bool) (total : Nat) :
    ∀ line ∈ m.wrap folds total, line.Bears P := by
  intro line hline
  obtain ⟨part, hpart, rfl⟩ := List.mem_map.mp hline
  exact bears_withChars (bears_divide h _ _ part hpart) _

theorem bears_lengthen (h : m.Bears P) (n : Nat) : (m.lengthen n).Bears P := by
  intro s hs
  obtain ⟨t, ht, rfl⟩ := List.mem_map.mp hs
  split <;> exact h t ht

theorem bears_tabParts (h : m.Bears P) (first column : Nat) (ps : List (List Char)) :
    ∀ part ∈ m.tabParts first column ps, part.Bears P := by
  fun_induction tabParts m first column ps with
  | case1 => exact List.forall_mem_nil _
  | case2 => exact List.forall_mem_nil _
  | case3 first column piece _ =>
    exact List.forall_mem_singleton.mpr (bears_slice h first m.chars.length)
  | case4 first column piece rest _ last part reached ih =>
    have hpart : part.Bears P := bears_slice h first last
    exact List.forall_mem_cons.mpr ⟨bears_lengthen hpart _, ih⟩

theorem bears_joinFrom {mark : α} (hmark : P mark) (first : Nat) {ms : List (Marked α)}
    (h : ∀ m ∈ ms, m.Bears P) : (joinFrom mark first ms).Bears P := by
  induction ms generalizing first with
  | nil => exact List.forall_mem_nil _
  | cons m rest ih =>
    obtain ⟨hm, hrest⟩ := List.forall_mem_cons.mp h
    intro s hs
    rcases List.mem_append.mp hs with hs | hs
    · rcases List.mem_cons.mp hs with rfl | hs
      · exact hmark
      · obtain ⟨t, ht, rfl⟩ := List.mem_map.mp hs
        exact hm t ht
    · exact ih _ hrest s hs

theorem bears_expandTabs {mark : α} (hmark : P mark) (h : m.Bears P) :
    (m.expandTabs mark).Bears P := by
  rw [expandTabs]
  split
  · exact bears_joinFrom hmark 0 (bears_tabParts h 0 0 _)
  · exact h

theorem bears_of_center? (h : m.Bears P) {total : Nat} {placed : Marked α}
    (hplaced : m.center? total = some placed) : placed.Bears P := by
  rw [center?, Option.bind_eq_bind, Option.bind_eq_some_iff] at hplaced
  obtain ⟨kept, -, hpad⟩ := hplaced
  cases hpad
  intro s hs
  obtain ⟨t, ht, rfl⟩ := List.mem_map.mp hs
  exact bears_withChars (bears_withChars h _) _ t ht

end Marked

end TapeMachine.Text
