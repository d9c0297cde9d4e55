/-
Paths.

A path is a sequence of names separated by slashes, from the root if it starts with
a slash and from the working directory otherwise.  Empty names and the name `.` add
nothing; the name `..` is kept, since only the file system can tell where it leads.

* **`Path.ofString`** — the path that a text writes;
* **`Path.text`** — its shortest spelling, `.` for the path without names;
* **`Path.join`** — a path from a directory on, which a rooted path ignores.
-/
import TapeMachine.Text.Pieces

namespace TapeMachine

/-- A path without the names that add nothing. -/
structure Path where
  /-- Nothing, or the slashes that a rooted path starts with: one, or exactly two. -/
  root : String
  names : List String
deriving DecidableEq, Repr

namespace Path

/-- The slashes at the start of a spelling, of which only a pair counts as more than one. -/
def rootOf (chars : List Char) : String :=
  match (chars.takeWhile (· == '/')).length with
  | 0 => ""
  | 2 => "//"
  | _ => "/"

/-- Whether a name stands for a step in the tree. -/
def isName (piece : List Char) : Bool :=
  piece != [] && piece != ['.']

/-- The path that a text writes. -/
def ofString (text : String) : Path :=
  { root := rootOf text.toList
    names := ((Text.pieces '/' text.toList).filter isName).map String.ofList }

/-- The spelling of a path. -/
def text (p : Path) : String :=
  if p.root = "" ∧ p.names = [] then "." else p.root ++ "/".intercalate p.names

/-- `p` from the directory `dir` on. -/
def join (dir p : Path) : Path :=
  if p.root = "" then { dir with names := dir.names ++ p.names } else p

/-- The directory that a path lies in, by its spelling alone. -/
def parent (p : Path) : Path :=
  { p with names := p.names.dropLast }

/-- The last part of a spelling, which is empty if the spelling ends in a slash. -/
def lastPiece (text : String) : String :=
  String.ofList ((Text.pieces '/' text.toList).getLast?.getD [])

/-- Whether a spelling holds U+0000, which no file system accepts. -/
def hasNull (text : String) : Bool :=
  text.toList.contains '\x00'

end Path

end TapeMachine
