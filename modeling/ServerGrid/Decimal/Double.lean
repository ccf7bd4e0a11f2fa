/-!
# Double-precision numbers

A finite double is a sign and a magnitude `mantissa * 2 ^ exponent`. `Magnitude.nearest` rounds a
quotient of naturals to the nearest magnitude, ties to the even mantissa, and `Double.ofDecimal?`
reads `significand * 10 ^ power` in two roundings: the significand first, then one multiplication
or division by the power of ten.
-/

namespace ServerGrid

/-- The non-negative number `mantissa * 2 ^ exponent`. -/
structure Magnitude where
  mantissa : Nat
  exponent : Int
  deriving DecidableEq, Repr

namespace Magnitude

def leastExponent : Int := -1074

def greatestExponent : Int := 971

/-- The least mantissa of a double above the least exponent, two to the power of 52. -/
def leastMantissa : Nat := 0x10000000000000

def zero : Magnitude := ⟨0, leastExponent⟩

/-- The quotient rounded to the nearest natural, halves to the even one. -/
def roundDiv (num den : Nat) : Nat :=
  let q := num / den
  let r := num % den
  if 2 * r < den then q
  else if den < 2 * r then q + 1
  else if q % 2 = 0 then q else q + 1

/-- Numerator and denominator of `num / den * 2 ^ shift`. -/
def scale (num den : Nat) (shift : Int) : Nat × Nat :=
  if 0 ≤ shift then (num * Nat.pow 2 shift.toNat, den) else (num, den * Nat.pow 2 (-shift).toNat)

/-- The greatest `e` with `2 ^ e ≤ num / den`, for positive arguments. -/
def binaryExponent (num den : Nat) : Int :=
  let guess : Int := (Nat.log2 num : Int) - (Nat.log2 den : Int)
  let (n, d) := scale num den (-guess)
  if d ≤ n then guess else guess - 1

/-- The magnitude nearest to `num / den`; `none` when it is beyond the finite doubles. -/
def nearest (num den : Nat) : Option Magnitude :=
  if num = 0 then some zero
  else
    let exponent := max (binaryExponent num den - 52) leastExponent
    let (n, d) := scale num den (-exponent)
    let mantissa := roundDiv n d
    let rounded : Magnitude :=
      if mantissa = 2 * leastMantissa then ⟨leastMantissa, exponent + 1⟩ else ⟨mantissa, exponent⟩
    if rounded.exponent ≤ greatestExponent then some rounded else none

/-- Multiply by `10 ^ power`, for a power of ten that is itself finite. -/
def timesPower (m : Magnitude) (power : Nat) : Option Magnitude := do
  let p ← nearest (Nat.pow 10 power) 1
  let (n, d) := scale (m.mantissa * p.mantissa) 1 (m.exponent + p.exponent)
  nearest n d

/-- Divide by `10 ^ power`, for a power of ten that is itself finite. -/
def dividePower (m : Magnitude) (power : Nat) : Option Magnitude := do
  let p ← nearest (Nat.pow 10 power) 1
  let (n, d) := scale m.mantissa p.mantissa (m.exponent - p.exponent)
  nearest n d

/-- The greatest power of ten that is a finite double. -/
def greatestPower : Nat := 308

/-- Divide by a power of ten in steps of at most `10 ^ 308`; two such steps leave zero. -/
def dividePowers : Nat → Magnitude → Nat → Option Magnitude
  | 0, _, _ => some zero
  | steps + 1, m, power =>
    if power ≤ greatestPower then dividePower m power
    else if m.mantissa = 0 then some m
    else do dividePowers steps (← dividePower m greatestPower) (power - greatestPower)

/-- The magnitude of `significand * 10 ^ power`; `none` when it is beyond the finite doubles. -/
def ofDecimal? (significand : Nat) (power : Int) : Option Magnitude := do
  let m ← nearest significand 1
  if power < 0 then dividePowers 3 m (-power).toNat
  else if power ≤ greatestPower then timesPower m power.toNat
  else if m.mantissa = 0 then some m
  else none

end Magnitude

/-- A finite double. -/
structure Double where
  negative : Bool
  magnitude : Magnitude
  deriving DecidableEq, Repr

namespace Double

/-- Read a sign and `significand * 10 ^ power`. -/
def ofDecimal? (negative : Bool) (significand : Nat) (power : Int) : Option Double :=
  (Magnitude.ofDecimal? significand power).map (⟨negative, ·⟩)

end Double

end ServerGrid
