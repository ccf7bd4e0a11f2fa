import ServerGrid.Decimal.Double

/-!
# The shortest decimal of a double

`Magnitude.shortest` gives the decimal with the fewest digits that reads back as the magnitude, and
of those the nearest. Two of them can be equally near, and a `Tie` says which one is taken. The
decimals that read back are the ones between the midpoints to the two neighbouring magnitudes,
midpoints included exactly when the mantissa is even.
-/

namespace ServerGrid

/-- Which of two equally near decimals is taken. -/
inductive Tie where
  /-- The one whose last digit is even. -/
  | toEven
  /-- The greater one. -/
  | upward
  deriving DecidableEq, Repr

/-- Whether `digits` is taken of `digits` and its successor when both are equally near. -/
def Tie.takesLower (tie : Tie) (digits : Nat) : Bool :=
  match tie with
  | .toEven => digits % 2 == 0
  | .upward => false

namespace Magnitude

/-- A magnitude with the midpoints to its neighbours, all in quarters of `2 ^ exponent`. -/
structure Interval where
  low : Nat
  value : Nat
  high : Nat
  /-- Whether the midpoints belong to the interval. -/
  closed : Bool

/-- The decimals that round to the magnitude. Below a power of two the neighbour is nearer. -/
def interval (m : Magnitude) : Interval where
  low := 4 * m.mantissa -
    (if m.mantissa = leastMantissa ∧ leastExponent < m.exponent then 1 else 2)
  value := 4 * m.mantissa
  high := 4 * m.mantissa + 2
  closed := m.mantissa % 2 = 0

/-- Numerator and denominator of `2 ^ binary / 10 ^ ten`. -/
def unit (binary ten : Int) : Nat × Nat :=
  let (n, d) := scale 1 1 binary
  if 0 ≤ ten then (n, d * Nat.pow 10 ten.toNat) else (n * Nat.pow 10 (-ten).toNat, d)

/-- The greatest `e` with `10 ^ e ≤ mantissa * 2 ^ exponent`, for a positive magnitude. -/
def decimalExponent (m : Magnitude) : Int :=
  let two : Int := (Nat.log2 m.mantissa : Int) + m.exponent
  let guess := (two * 30103).fdiv 100000 - 1
  let fits (e : Int) : Bool :=
    let (n, d) := unit m.exponent e
    d ≤ m.mantissa * n
  if fits (guess + 2) then guess + 2 else if fits (guess + 1) then guess + 1 else guess

/-- The point `digits * 10 ^ ten` next to the magnitude that lies in the interval, if any. -/
def onGrid? (tie : Tie) (m : Magnitude) (ten : Int) : Option Nat :=
  let i := m.interval
  let (n, d) := unit (m.exponent - 2) ten
  let inside (digits : Nat) : Bool :=
    if i.closed then i.low * n ≤ digits * d && digits * d ≤ i.high * n
    else i.low * n < digits * d && digits * d < i.high * n
  let below := i.value * n / d
  let rest := i.value * n % d
  match inside below, inside (below + 1) with
  | true, true =>
    some (if 2 * rest < d ∨ (2 * rest = d ∧ tie.takesLower below) then below else below + 1)
  | true, false => some below
  | false, true => some (below + 1)
  | false, false => none

/-- Take trailing zeros off the digits. -/
def stripZeros : Nat → Nat → Int → Nat × Int
  | 0, digits, ten => (digits, ten)
  | fuel + 1, digits, ten =>
    if digits % 10 = 0 ∧ digits ≠ 0 then stripZeros fuel (digits / 10) (ten + 1)
    else (digits, ten)

/-- The shortest decimal `digits * 10 ^ ten` that reads back, and of those the nearest. -/
def shortest (tie : Tie) (m : Magnitude) : Nat × Int :=
  if m.mantissa = 0 then (0, 0)
  else
    let top := m.decimalExponent
    let found := (List.range 17).findSome? fun (k : Nat) =>
      (m.onGrid? tie (top - (k : Int))).map (·, top - (k : Int))
    match found with
    | some (digits, ten) => stripZeros 18 digits ten
    | none => (m.mantissa, 0)

end Magnitude

end ServerGrid
