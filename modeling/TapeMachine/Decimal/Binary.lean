/-
Binary floating-point numbers as exact fractions.

A finite binary64 number is `mantissa * 2 ^ exponent`, with a mantissa below
`2 ^ 53` and an exponent of at least -1074.

* **`Kind.of`** — the number that a `Float` stands for;
* **`nearest`** — the `Float` that is nearest to a decimal fraction, of two that are
  equally near the one with the even mantissa.
-/

namespace TapeMachine.Decimal

/-- The magnitude `mantissa * 2 ^ exponent`. -/
structure Binary where
  mantissa : Nat
  exponent : Int
deriving DecidableEq, Repr

/-- What a `Float` stands for. -/
inductive Kind where
  | finite (negative : Bool) (magnitude : Binary)
  | infinite (negative : Bool)
  | notANumber
deriving DecidableEq, Repr

/-- The bit above the 52 stored ones of a mantissa: `2 ^ 52`. -/
def leadingBit : Nat := 0x10000000000000

/-- Reads the sign, the exponent and the mantissa off the 64 bits of a number. -/
def Kind.of (x : Float) : Kind :=
  let bits := x.toBits.toNat
  let negative := bits / 0x8000000000000000 = 1
  let exponent : Nat := bits / leadingBit % 0x800
  let fraction := bits % leadingBit
  if exponent = 2047 then
    if fraction = 0 then .infinite negative else .notANumber
  else if exponent = 0 then .finite negative ⟨fraction, -1074⟩
  else .finite negative ⟨leadingBit + fraction, (exponent : Int) - 1075⟩

/-- A quotient rounded to the nearest integer, a half to the even neighbour. -/
def roundDiv (num den : Nat) : Nat :=
  let q := num / den
  let r := 2 * (num % den)
  if r > den ∨ (r = den ∧ q % 2 = 1) then q + 1 else q

/-- The quotient `num * 2 ^ -shift / den`, rounded. -/
def scaledDiv (num den : Nat) (shift : Int) : Nat :=
  roundDiv (num * Nat.pow 2 (-shift).toNat) (den * Nat.pow 2 shift.toNat)

/-- The greatest `e` with `2 ^ e ≤ num / den`, for positive operands. -/
def floorLog2 (num den : Nat) : Int :=
  let guess : Int := num.log2 - den.log2
  if num * Nat.pow 2 (-guess).toNat ≥ den * Nat.pow 2 guess.toNat then guess else guess - 1

/-- The bits of the number nearest to a positive fraction; those of infinity if it is too large. -/
def nearestBits (num den : Nat) : Nat :=
  let exponent := max (floorLog2 num den - 52) (-1074)
  let mantissa := scaledDiv num den exponent
  min ((exponent + 1074).toNat * leadingBit + mantissa) (2047 * leadingBit)

/-- The number of decimal digits. -/
def digitCount (n : Nat) : Nat :=
  (Nat.toDigits 10 n).length

/-- The number nearest to `mantissa * 10 ^ exponent`, up to the sign. -/
def nearestMagnitude (mantissa : Nat) (exponent : Int) : Float :=
  let size := digitCount mantissa + exponent
  if mantissa = 0 ∨ size < -400 then Float.ofBits 0
  else if size > 400 then Float.ofBits 0x7FF0000000000000
  else
    Float.ofBits (UInt64.ofNat
      (nearestBits (mantissa * Nat.pow 10 exponent.toNat) (Nat.pow 10 (-exponent).toNat)))

/-- The number nearest to a decimal fraction with the given sign. -/
def nearest (negative : Bool) (mantissa : Nat) (exponent : Int) : Float :=
  let x := nearestMagnitude mantissa exponent
  if negative then -x else x

end TapeMachine.Decimal
