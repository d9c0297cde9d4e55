/-
Clusters: the characters of a text that are shown together.

A character that takes no cell belongs to the one before it.  So does a joiner,
together with the character that it joins on, and a selector, which may widen the
cluster.  Text is cut only between clusters.

* **`clusters`** — the clusters of a text, which lose nothing (`flatMap_clusters`);
* **`fit?`** — a text cut or filled up to a number of cells;
* **`clip?`** — several texts in a row, cut at a number of cells;
* **`chop`** — a text cut into lines of at most so many cells.

Design notes:

* A joiner at the start joins nothing.  So after two of them the second one joins the next
  character to the first, and the clusters take fewer cells than the text.  A cut between
  these two numbers finds no cluster and fails (`cut?_isSome` says when it does not).
-/
import TapeMachine.Text.Width

namespace TapeMachine.Text

/-- Characters that are shown together, and the cells that they take. -/
structure Cluster where
  chars : List Char
  cells : Nat
deriving DecidableEq, Repr

namespace Cluster

/-- The cluster that a character starts. -/
def ofChar (c : Char) : Cluster :=
  { chars := [c], cells := charWidth c }

/-- The cluster with more characters, which take `cells` more. -/
def extend (k : Cluster) (more : List Char) (cells : Nat := 0) : Cluster :=
  { chars := k.chars ++ more, cells := k.cells + cells }

/-- The character that a selector after the cluster of `c` widens. -/
def widened? (c : Char) : Option Char :=
  if charWidth c = 0 then none else some c

end Cluster

/-- The clusters of a text after the open cluster `k`, in which a selector may widen `last?`. -/
def clustersAfter (k : Cluster) (last? : Option Char) : List Char → List Cluster
  | [] => [k]
  | ['\u200D'] => [k.extend ['\u200D']]
  | '\u200D' :: c :: rest => clustersAfter (k.extend ['\u200D', c]) last? rest
  | '\uFE0F' :: rest => clustersAfter (k.extend ['\uFE0F'] (widening last?)) none rest
  | c :: rest =>
    if charWidth c = 0 then clustersAfter (k.extend [c]) last? rest
    else k :: clustersAfter (.ofChar c) (some c) rest

/-- The clusters of a text. -/
def clusters : List Char → List Cluster
  | [] => []
  | c :: rest => clustersAfter (.ofChar c) (Cluster.widened? c) rest

theorem flatMap_clustersAfter (k : Cluster) (last? : Option Char) (chars : List Char) :
    (clustersAfter k last? chars).flatMap Cluster.chars = k.chars ++ chars := by
  fun_induction clustersAfter k last? chars <;> simp_all [Cluster.extend, Cluster.ofChar]

/-- The clusters of a text hold its characters, in order. -/
theorem flatMap_clusters (chars : List Char) :
    (clusters chars).flatMap Cluster.chars = chars := by
  cases chars <;> simp [clusters, flatMap_clustersAfter, Cluster.ofChar]

/-- The clusters that fill `room` cells, with a blank for half of one that does not fit.  If
there are not enough of them there is no such cut. -/
def cut? : Nat → List Cluster → Option (List Char)
  | 0, _ => some []
  | _ + 1, [] => none
  | room + 1, k :: rest =>
    if k.cells ≤ room + 1 then (cut? (room + 1 - k.cells) rest).map (k.chars ++ ·) else some [' ']
termination_by _ clusters => clusters.length

/-- The text in `total` cells: filled up with blanks, or cut. -/
def fit? (total : Nat) (chars : List Char) : Option (List Char) :=
  if total = 0 then some []
  else if width chars ≤ total then some (chars ++ List.replicate (total - width chars) ' ')
  else cut? total (clusters chars)

/-- A text that fits needs no cut. -/
theorem fit?_of_width_le {total : Nat} {chars : List Char} (h : width chars ≤ total)
    (ht : total ≠ 0) :
    fit? total chars = some (chars ++ List.replicate (total - width chars) ' ') := by
  rw [fit?, if_neg ht, if_pos h]

/-- The texts one after the other, as far as `total` cells go. -/
def clip? : Nat → List (List Char) → Option (List Char)
  | _, [] => some []
  | total, part :: rest =>
    if width part < total then (clip? (total - width part) rest).map (part ++ ·)
    else fit? total part

/-- The cells of all clusters of a text. -/
def clusterCells (ks : List Cluster) : Nat :=
  totalCells (ks.map Cluster.cells)

/-- A cut fails only beyond the last cluster. -/
theorem cut?_isSome {room : Nat} {ks : List Cluster} (h : room ≤ clusterCells ks) :
    (cut? room ks).isSome := by
  fun_induction cut? room ks with
  | case1 => rfl
  | case2 => simp [clusterCells] at h
  | case3 room k rest hk ih =>
    simp only [clusterCells, List.map_cons, totalCells_cons] at h ih
    simpa using ih (by omega)
  | case4 => rfl

/-- Lines of clusters of at most `total` cells, after a line that takes `used` of them. -/
def chopAfter (total used : Nat) (line : List Char) : List Cluster → List (List Char)
  | [] => [line]
  | k :: rest =>
    if used + k.cells > total then line :: chopAfter total k.cells k.chars rest
    else chopAfter total (used + k.cells) (line ++ k.chars) rest

/-- The text in lines of at most `total` cells, each as long as it can be. -/
def chop (total : Nat) (chars : List Char) : List (List Char) :=
  chopAfter total 0 [] (clusters chars)

theorem flatten_chopAfter (total used : Nat) (line : List Char) (ks : List Cluster) :
    (chopAfter total used line ks).flatten = line ++ ks.flatMap Cluster.chars := by
  fun_induction chopAfter total used line ks <;> simp_all

/-- Chopping loses nothing. -/
theorem flatten_chop (total : Nat) (chars : List Char) : (chop total chars).flatten = chars := by
  rw [chop, flatten_chopAfter, flatMap_clusters, List.nil_append]

end TapeMachine.Text
