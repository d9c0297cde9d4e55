/-
A tree of directories and files.

A place in the tree is the list of names on the way from the root.  A path is walked
name by name.  Each name is looked up in a directory, so a name under a missing
entry or under a file fails, whatever follows it.

* **`Tree.walk`** — the place that a spelling leads to, which need not exist;
* **`Tree.read`**, **`Tree.makeDir`**, **`Tree.append`** — the operations;
* **`Tree.changes`** — what is new or different from one tree to another.

Design notes:

* Every entry can be read and changed.  So no operation fails with `FileError.system`, which
  stands for what only a system knows of, such as missing permission or a full disk.
-/
import TapeMachine.Files.Path

namespace TapeMachine

/-- Why the file system refuses an operation. -/
inductive FileError where
  | notFound
  | notDirectory
  | isDirectory
  | fileExists
  | nameTooLong
  /-- A reason that lies outside of every tree, with the system's number and wording. -/
  | system (number : Nat) (reason : String)
deriving DecidableEq, Repr

/-- The system's wording. -/
def FileError.reason : FileError → String
  | .notFound => "No such file or directory"
  | .notDirectory => "Not a directory"
  | .isDirectory => "Is a directory"
  | .fileExists => "File exists"
  | .nameTooLong => "File name too long"
  | .system _ reason => reason

/-- The system's number for a reason. -/
def FileError.number : FileError → Nat
  | .notFound => 2
  | .fileExists => 17
  | .notDirectory => 20
  | .isDirectory => 21
  | .nameTooLong => 36
  | .system number _ => number

/-- An entry of a tree. -/
inductive Node where
  | dir
  | file (bytes : List UInt8)
deriving DecidableEq, Repr

/-- The names on the way from the root. -/
abbrev Place := List String

/-- A tree: the entries below the root, each with its place. -/
structure Tree where
  entries : List (Place × Node)
deriving DecidableEq, Repr

namespace Tree

/-- The most bytes of a name. -/
def maxNameBytes : Nat := 255

/-- The most bytes of a spelling. -/
def maxPathBytes : Nat := 4095

/-- The entry at a place.  The root is a directory. -/
def find? (t : Tree) (place : Place) : Option Node :=
  if place = [] then some .dir else t.entries.lookup place

/-- The tree with an entry set: in its position if the place is taken, at the end otherwise. -/
def set (t : Tree) (place : Place) (node : Node) : Tree :=
  if t.entries.any (·.1 = place) then
    { entries := t.entries.map fun e => if e.1 = place then (place, node) else e }
  else { entries := t.entries ++ [(place, node)] }

/-- One name further from a place, which must be a directory. -/
def enter (t : Tree) (place : Place) (name : String) : Except FileError Place :=
  match t.find? place with
  | none => .error .notFound
  | some (.file _) => .error .notDirectory
  | some .dir =>
    if name = "" ∨ name = "." then .ok place
    else if name = ".." then .ok place.dropLast
    else if name.utf8ByteSize > maxNameBytes then .error .nameTooLong
    else .ok (place ++ [name])

/-- Names further from a place, one after the other. -/
def enterAll (t : Tree) (place : Place) : List String → Except FileError Place
  | [] => .ok place
  | name :: rest =>
    match t.enter place name with
    | .error e => .error e
    | .ok next => t.enterAll next rest

/-- The place that a spelling leads to from the working directory.  All but its last name exist. -/
def walk (t : Tree) (cwd : Place) (path : String) : Except FileError Place :=
  if path = "" then .error .notFound
  else if path.utf8ByteSize > maxPathBytes then .error .nameTooLong
  else
    let start := if path.toList.head? = some '/' then [] else cwd
    t.enterAll start ((Text.pieces '/' path.toList).map String.ofList)

/-- The entry that a spelling leads to. -/
def stat (t : Tree) (cwd : Place) (path : String) : Except FileError Node :=
  match t.walk cwd path with
  | .error e => .error e
  | .ok place =>
    match t.find? place with
    | none => .error .notFound
    | some node => .ok node

/-- The bytes of a file. -/
def read (t : Tree) (cwd : Place) (path : String) : Except FileError (List UInt8) :=
  match t.stat cwd path with
  | .error e => .error e
  | .ok .dir => .error .isDirectory
  | .ok (.file bytes) => .ok bytes

/-- The tree with a new directory. -/
def makeDir (t : Tree) (cwd : Place) (path : String) : Except FileError Tree :=
  match t.walk cwd path with
  | .error e => .error e
  | .ok place =>
    match t.find? place with
    | some _ => .error .fileExists
    | none => .ok (t.set place .dir)

/-- The tree with bytes at the end of a file, which is made if it is missing. -/
def append (t : Tree) (cwd : Place) (path : String) (bytes : List UInt8) :
    Except FileError Tree :=
  match t.walk cwd path with
  | .error e => .error e
  | .ok place =>
    match t.find? place with
    | some .dir => .error .isDirectory
    | some (.file old) => .ok (t.set place (.file (old ++ bytes)))
    | none => .ok (t.set place (.file bytes))

/-- The tree with an entry at a place, and with directories on the way to it where none are. -/
def plant (t : Tree) (place : Place) (node : Node) : Tree :=
  let onTheWay := (List.range place.length).map (place.take ·)
  let rooted := onTheWay.foldl
    (fun t dir => if (t.find? dir).isSome then t else t.set dir .dir) t
  if node = .dir ∧ rooted.find? place = some .dir then rooted else rooted.set place node

/-- The entries of `after` that are missing from `before` or differ there. -/
def changes (before after : Tree) : List (Place × Node) :=
  after.entries.filter fun e => before.find? e.1 != some e.2

end Tree

end TapeMachine
