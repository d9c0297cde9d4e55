/-
The shortest decimal that reads back.

The decimals that round to a binary number form an interval around it, which
includes its ends just when the mantissa is even.  Among the grids of one, two, …
seventeen significant digits, the first that has a point in the interval gives the
shortest decimal.  Only the two neighbours of the number on a grid need a test,
because if any point of the grid lies in the interval, one of them does.

* **`shortest`** — the digits and the power of ten of that decimal.
-/
import TapeMachine.Decimal.Binary

namespace TapeMachine.Decimal

/-- The decimal `digits * 10 ^ exponent`. -/
structure Scientific where
  digits : Nat
  exponent : Int
deriving DecidableEq, Repr

/-- A number and the ends of its rounding interval, as fractions over one denominator. -/
structure Interval where
  low : Nat
  value : Nat
  high : Nat
  den : Nat
  closed : Bool
deriving DecidableEq, Repr

/-- The rounding interval of a positive number.  Below a power of two the gap is half as wide. -/
def Interval.of (b : Binary) : Interval :=
  let scale := Nat.pow 2 (b.exponent - 2).toNat
  let narrow := b.mantissa = leadingBit ∧ b.exponent > -1074
  { low := (4 * b.mantissa - if narrow then 1 else 2) * scale
    value := 4 * b.mantissa * scale
    high := (4 * b.mantissa + 2) * scale
    den := Nat.pow 2 (2 - b.exponent).toNat
    closed := b.mantissa % 2 = 0 }

/-- Whether the fraction `num / i.den` lies in the interval. -/
def Interval.contains (i : Interval) (num : Nat) : Bool :=
  if i.closed then i.low ≤ num && num ≤ i.high else i.low < num && num < i.high

/-- The interval with numerators and denominator multiplied: it holds the same numbers. -/
def Interval.scale (i : Interval) (k : Nat) : Interval :=
  { i with low := i.low * k, value := i.value * k, high := i.high * k }

/-- The least `j` from `start` on with `num * 10 ^ j ≥ den`, if there is one within `tries`. -/
def leadingZeros (num den : Nat) : Nat → Nat → Nat
  | 0, start => start
  | tries + 1, start =>
    if num * Nat.pow 10 start ≥ den then start else leadingZeros num den tries (start + 1)

/-- The least `e` with `num / den < 10 ^ e`, for positive operands. -/
def decimalSize (num den : Nat) : Int :=
  if num ≥ den then digitCount (num / den) else 1 - (leadingZeros num den 400 1 : Int)

/-- The grid point nearest to the number that lies in its interval, of two that are equally near
the even one.  The grid consists of the multiples of `10 ^ exponent`. -/
def Interval.gridPoint? (i : Interval) (exponent : Int) : Option Nat :=
  let j := i.scale (Nat.pow 10 (-exponent).toNat)
  let unit := i.den * Nat.pow 10 exponent.toNat
  let below := j.value / unit
  let above := below + 1
  match j.contains (below * unit), j.contains (above * unit) with
  | true, true =>
    let down := j.value - below * unit
    let up := above * unit - j.value
    if down < up ∨ (down = up ∧ below % 2 = 0) then some below else some above
  | true, false => some below
  | false, true => some above
  | false, false => none

/-- Tries grids of `count` digits and more. -/
def shortestFrom (i : Interval) (size : Int) : Nat → Nat → Scientific
  | 0, count => ⟨i.value * Nat.pow 10 (count - size).toNat / i.den, size - count⟩
  | tries + 1, count =>
    match i.gridPoint? (size - count) with
    | some digits => ⟨digits, size - count⟩
    | none => shortestFrom i size tries (count + 1)

/-- The digits without zeros at their end, of which there are fewer than `tries`. -/
def Scientific.strip : Nat → Scientific → Scientific
  | 0, s => s
  | tries + 1, s =>
    if s.digits % 10 = 0 ∧ s.digits ≠ 0 then strip tries ⟨s.digits / 10, s.exponent + 1⟩ else s

/-- The shortest decimal that reads back as a positive number, and of those the nearest. -/
def shortest (b : Binary) : Scientific :=
  let i := Interval.of b
  (shortestFrom i (decimalSize i.value i.den) 17 1).strip 20

end TapeMachine.Decimal
