import ServerGrid.Decimal.Shortest

/-!
# The text of a double

`Double.text` lays the shortest digits out by a `NumberLayout`: which sizes are written with a
point and which with an exponent, whether a whole number ends in `.0`, and which of two equally near
decimals is written.
-/

namespace ServerGrid

/-- How the digits of a double are laid out. -/
structure NumberLayout where
  /-- The positions of the point, counted from before the first digit, that are written out: above
  the first bound, up to the second one. Without bounds no exponent is ever written. -/
  positional : Option (Int × Int)
  /-- Whether a whole number ends in `.0`. -/
  wholePoint : Bool
  /-- Whether a positive exponent has a sign. -/
  signedExponent : Bool
  /-- Which of two equally near decimals is written. -/
  tie : Tie

namespace NumberLayout

/-- JSON writes the point out from `1e-5` to below `1e16`, signs every exponent, and takes the even
one of two equally near decimals. -/
def json : NumberLayout := ⟨some (-5, 16), true, true, .toEven⟩

/-- SQL literals are always written out, a whole number has no point, and the greater one of two
equally near decimals is taken. -/
def sql : NumberLayout := ⟨none, false, false, .upward⟩

/-- Listings write the point out from `1e-4` to below `1e16`, and take the greater one of two equally
near decimals. -/
def listing : NumberLayout := ⟨some (-4, 16), true, false, .upward⟩

end NumberLayout

namespace Double

/-- Write digits with the point after `point` of them, filling up with zeros on either side. -/
def positional (layout : NumberLayout) (digits : String) (point : Int) : String :=
  if point ≤ 0 then "0." ++ String.ofList (List.replicate (-point).toNat '0') ++ digits
  else if point.toNat < digits.length then
    .ofList (digits.toList.take point.toNat) ++ "." ++ .ofList (digits.toList.drop point.toNat)
  else
    digits ++ String.ofList (List.replicate (point.toNat - digits.length) '0') ++
      (if layout.wholePoint then ".0" else "")

/-- Write digits with a point after the first one and an exponent. -/
def exponential (layout : NumberLayout) (digits : String) (point : Int) : String :=
  let power := point - 1
  let sign := if power < 0 then "-" else if layout.signedExponent then "+" else ""
  let fraction := digits.toList.drop 1
  .ofList (digits.toList.take 1) ++ (if fraction.isEmpty then "" else "." ++ .ofList fraction) ++
    "e" ++ sign ++ power.natAbs.repr

def text (layout : NumberLayout) (x : Double) : String :=
  let sign := if x.negative then "-" else ""
  let (digits, ten) := x.magnitude.shortest layout.tie
  if digits = 0 then sign ++ (if layout.wholePoint then "0.0" else "0")
  else
    let point := (digits.repr.length : Int) + ten
    let written :=
      match layout.positional with
      | some (low, high) =>
        if low < point ∧ point ≤ high then positional layout digits.repr point
        else exponential layout digits.repr point
      | none => positional layout digits.repr point
    sign ++ written

end Double

end ServerGrid
