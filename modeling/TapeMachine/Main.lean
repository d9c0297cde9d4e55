/-
The commands on the real file system, clock and streams.

The program is the inspector if it is called `alan-inspect`, and the simulator
otherwise.
-/
import Std.Time.DateTime
import TapeMachine.Command.Inspector
import TapeMachine.Command.Simulator

namespace TapeMachine

/-- The reason of the system for an error of a given number. -/
def FileError.ofNumber (number : UInt32) (reason : String) : FileError :=
  ([.notFound, .fileExists, .notDirectory, .isDirectory, .nameTooLong].find?
    (·.number = number.toNat)).getD (.system number.toNat reason)

/-- The reason for which an operation failed. -/
def FileError.ofFailed : IO.Error → FileError
  | .alreadyExists _ number reason => .ofNumber number reason
  | .otherError number reason => .ofNumber number reason
  | .resourceBusy number reason => .ofNumber number reason
  | .resourceVanished number reason => .ofNumber number reason
  | .unsupportedOperation number reason => .ofNumber number reason
  | .hardwareFault number reason => .ofNumber number reason
  | .unsatisfiedConstraints number reason => .ofNumber number reason
  | .illegalOperation number reason => .ofNumber number reason
  | .protocolError number reason => .ofNumber number reason
  | .timeExpired number reason => .ofNumber number reason
  | .interrupted _ number reason => .ofNumber number reason
  | .noFileOrDirectory _ number reason => .ofNumber number reason
  | .invalidArgument _ number reason => .ofNumber number reason
  | .permissionDenied _ number reason => .ofNumber number reason
  | .resourceExhausted _ number reason => .ofNumber number reason
  | .inappropriateType _ number reason => .ofNumber number reason
  | .noSuchThing _ number reason => .ofNumber number reason
  | .unexpectedEof => .system 5 "Input/output error"
  | .userError reason => .system 5 reason

/-- The result of an operation, or the reason for which it failed. -/
def attempt {α : Type} (operation : IO α) : IO (Except FileError α) := do
  try
    return .ok (← operation)
  catch e =>
    return .error (.ofFailed e)

/-- Whether the entry at a path is a directory. -/
def isDirectoryAt (path : String) : IO (Except FileError Bool) := do
  match ← attempt (IO.FS.realPath path) with
  | .ok place => return .ok (← place.isDir)
  | .error e => return .error e

/-- The bytes of a file. -/
def readBytes (path : String) : IO (List UInt8) := do
  let file ← IO.FS.Handle.mk path .read
  return (← file.readBinToEnd).toList

/-- Writes bytes at the end of a file. -/
def appendBytes (path : String) (bytes : List UInt8) : IO Unit := do
  let file ← IO.FS.Handle.mk path .append
  file.write ⟨bytes.toArray⟩
  file.flush

/-- The time of the system's clock. -/
def currentTime : IO Time := do
  let nanoseconds := (← Std.Time.Timestamp.now).toNanosecondsSinceUnixEpoch
  let t := Std.Time.PlainDateTime.ofWallTime (.ofNanoseconds nanoseconds)
  return { year := t.date.year.toInt.toNat
           month := t.date.month.val.toNat
           day := t.date.day.val.toNat
           hour := t.time.hour.val.toNat
           minute := t.time.minute.val.toNat
           second := t.time.second.val.toNat
           microsecond := t.time.nanosecond.val.toNat / 1000 }

instance : Host IO where
  isDirectory := isDirectoryAt
  readFile path := attempt (readBytes path)
  makeDirectory path := attempt (IO.FS.createDir path)
  appendFile path bytes := attempt (appendBytes path bytes)
  now := currentTime
  depths := pure {}
  print := IO.print
  warn := IO.eprint

end TapeMachine

open TapeMachine in
def main (arguments : List String) : IO UInt32 := do
  let calledBy := (← IO.appPath).toString
  let ending ←
    if Path.lastPiece calledBy = "alan-inspect" then Inspector.main calledBy arguments
    else Simulator.main calledBy arguments
  match ending with
  | .ok e => return e.status.toUInt32
  | .error c =>
    IO.eprintln c.message
    return 1
