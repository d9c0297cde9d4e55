/-
The surroundings of a command: files, a clock and two streams of text.

Commands are written for every monad that offers these operations.  A **`World`** is
the surroundings as a value, and `StateM World` is where commands are reasoned about.

* **`Host`** — the operations;
* **`World`** — a tree of files, a working directory, a clock, the depths that can be
  followed, and the text written so far.

Design notes:

* A world gives the reasons for refusal that lie in its tree.  Other reasons, such as missing
  permission, come from a system only, and no operation of a world hands back
  `FileError.system`.
-/
import TapeMachine.Files.Clock
import TapeMachine.Files.Tree

namespace TapeMachine

/-- How far a command may go into what is nested, before its surroundings give up. -/
structure Depths where
  /-- The arrays and objects of a text that may be open within one another. -/
  parts : Nat := 991
  /-- The directories that may be made on account of one another. -/
  directories : Nat := 990
deriving DecidableEq, Repr

/-- What a command asks of its surroundings. -/
class Host (m : Type → Type) where
  /-- The kind of entry at a path: whether it is a directory. -/
  isDirectory : String → m (Except FileError Bool)
  readFile : String → m (Except FileError (List UInt8))
  /-- Makes one directory. -/
  makeDirectory : String → m (Except FileError Unit)
  /-- Writes at the end of a file, which is made if it is missing. -/
  appendFile : String → List UInt8 → m (Except FileError Unit)
  now : m Time
  depths : m Depths
  /-- Writes to the standard output. -/
  print : String → m Unit
  /-- Writes to the standard error. -/
  warn : String → m Unit

/-- A command that may fail has the surroundings of the command that may not. -/
instance {m : Type → Type} {ε : Type} [Monad m] [Host m] : Host (ExceptT ε m) where
  isDirectory path := ExceptT.lift (Host.isDirectory path)
  readFile path := ExceptT.lift (Host.readFile path)
  makeDirectory path := ExceptT.lift (Host.makeDirectory path)
  appendFile path bytes := ExceptT.lift (Host.appendFile path bytes)
  now := ExceptT.lift Host.now
  depths := ExceptT.lift Host.depths
  print text := ExceptT.lift (Host.print text)
  warn text := ExceptT.lift (Host.warn text)

/-- Surroundings as a value. -/
structure World where
  tree : Tree
  cwd : Place
  clock : Time
  depths : Depths := {}
  out : String := ""
  err : String := ""
deriving DecidableEq, Repr

namespace World

/-- An operation that changes the tree or fails. -/
def change (f : World → Except FileError Tree) : StateM World (Except FileError Unit) := fun w =>
  match f w with
  | .error e => (.error e, w)
  | .ok tree => (.ok (), { w with tree })

instance : Host (StateM World) where
  isDirectory path := fun w => ((w.tree.stat w.cwd path).map (· = .dir), w)
  readFile path := fun w => (w.tree.read w.cwd path, w)
  makeDirectory path := change fun w => w.tree.makeDir w.cwd path
  appendFile path bytes := change fun w => w.tree.append w.cwd path bytes
  now := fun w => (w.clock, w)
  depths := fun w => (w.depths, w)
  print text := fun w => ((), { w with out := w.out ++ text })
  warn text := fun w => ((), { w with err := w.err ++ text })

end World

end TapeMachine
