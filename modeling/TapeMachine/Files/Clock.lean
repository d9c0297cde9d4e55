/-
Points of time, in coordinated universal time.

* **`Time.date`** — the day, as it stands in file names;
* **`Time.stamp`** — the point of time to the microsecond, with its offset.
-/

namespace TapeMachine

/-- A point of time. -/
structure Time where
  year : Nat
  month : Nat
  day : Nat
  hour : Nat
  minute : Nat
  second : Nat
  microsecond : Nat
deriving DecidableEq, Repr

/-- A number in decimal with at least `width` digits. -/
def padded (width n : Nat) : String :=
  let digits := Nat.toDigits 10 n
  String.ofList (List.replicate (width - digits.length) '0' ++ digits)

namespace Time

/-- The day: year, month and day. -/
def date (t : Time) : String :=
  toString t.year ++ "-" ++ padded 2 t.month ++ "-" ++ padded 2 t.day

/-- The point of time.  A fraction of a second is written only if there is one. -/
def stamp (t : Time) : String :=
  let fraction := if t.microsecond = 0 then "" else "." ++ padded 6 t.microsecond
  padded 4 t.year ++ "-" ++ padded 2 t.month ++ "-" ++ padded 2 t.day ++ "T" ++
    padded 2 t.hour ++ ":" ++ padded 2 t.minute ++ ":" ++ padded 2 t.second ++ fraction ++ "+00:00"

end Time

end TapeMachine
