import ServerGrid.Json.Basic

/-!
# Reading JSON text

A number without fraction and exponent is an integer while it fits 64 bits, and a double beyond;
minus zero is a double. The significand of a double keeps the leading digits that fit 64 bits. A
key that occurs again overwrites the earlier entry in its place. `Json.parse?` refuses everything
that is not exactly one value between blanks.
-/

namespace ServerGrid.Json

/-! ## Numbers -/

def digitValue (c : Char) : Nat := c.toNat - 0x30

/-- Extend a significand by digits while it fits 64 bits; the rest is only counted. -/
def takeInteger (significand : Nat) : List Char → Nat × Nat
  | [] => (significand, 0)
  | c :: rest =>
    let next := significand * 10 + digitValue c
    if next < UInt64.size then takeInteger next rest else (significand, rest.length + 1)

/-- Extend a significand by digits while it fits 64 bits, counting those taken. -/
def takeFraction (significand taken : Nat) : List Char → Nat × Nat
  | [] => (significand, taken)
  | c :: rest =>
    let next := significand * 10 + digitValue c
    if next < UInt64.size then takeFraction next (taken + 1) rest else (significand, taken)

/-- The number with the given sign, integer digits, fraction digits and exponent. -/
def numberOf? (negative : Bool) (whole fraction : List Char) (power : Option Int) :
    Option Number :=
  let (significand, dropped) := takeInteger 0 whole
  if fraction.isEmpty && power.isNone && dropped == 0 then
    if !negative then some (.integer significand)
    else if significand = 0 ∨ -(significand : Int) < Int64.minValue.toInt then
      (Double.ofDecimal? true significand 0).map .real
    else some (.integer (-significand))
  else
    let (significand, taken) := takeFraction significand 0 fraction
    (Double.ofDecimal? negative significand ((dropped : Int) - taken + power.getD 0)).map .real

/-- The digits at the front, and what follows them. -/
def spanDigits (text : List Char) : List Char × List Char :=
  (text.takeWhile Char.isDigit, text.dropWhile Char.isDigit)

/-- The value of a digit sequence. -/
def digitsValue (digits : List Char) : Nat :=
  digits.foldl (fun n c => n * 10 + digitValue c) 0

/-- Read the exponent, if one follows. -/
def exponent? (text : List Char) : Option (Option Int × List Char) :=
  let read (negative : Bool) (rest : List Char) : Option (Option Int × List Char) :=
    let (digits, rest) := spanDigits rest
    if digits.isEmpty then none
    else
      let n : Int := digitsValue digits
      some (some (if negative then -n else n), rest)
  match text with
  | 'e' :: '-' :: rest | 'E' :: '-' :: rest => read true rest
  | 'e' :: '+' :: rest | 'E' :: '+' :: rest => read false rest
  | 'e' :: rest | 'E' :: rest => read false rest
  | rest => some (none, rest)

/-- Read the fraction, if one follows. -/
def fraction? (text : List Char) : Option (List Char × List Char) :=
  match text with
  | '.' :: rest =>
    let (digits, rest) := spanDigits rest
    if digits.isEmpty then none else some (digits, rest)
  | rest => some ([], rest)

/-- Read a number after its sign. -/
def unsigned? (negative : Bool) (text : List Char) : Option (Json × List Char) := do
  let (whole, rest) := spanDigits text
  if whole.isEmpty || (whole.head? == some '0' && 1 < whole.length) then none
  else
    let (fraction, rest) ← fraction? rest
    let (power, rest) ← exponent? rest
    let n ← numberOf? negative whole fraction power
    some (.number n, rest)

/-! ## Strings -/

def hexValue? (c : Char) : Option Nat :=
  if c.isDigit then some (c.toNat - 0x30)
  else if 'a' ≤ c ∧ c ≤ 'f' then some (c.toNat - 0x57)
  else if 'A' ≤ c ∧ c ≤ 'F' then some (c.toNat - 0x37)
  else none

def hexUnit? (a b c d : Char) : Option Nat := do
  let a ← hexValue? a
  let b ← hexValue? b
  let c ← hexValue? c
  let d ← hexValue? d
  some (((a * 16 + b) * 16 + c) * 16 + d)

/-- The character a single-letter escape stands for. -/
def shortEscape? (c : Char) : Option Char :=
  if c = '"' ∨ c = '\\' ∨ c = '/' then some c
  else if c = 'b' then some '\x08'
  else if c = 'f' then some '\x0c'
  else if c = 'n' then some '\n'
  else if c = 'r' then some '\r'
  else if c = 't' then some '\t'
  else none

/-- Read a string after its opening quote. A high surrogate needs the low one beside it. -/
def string? : List Char → Option (List Char × List Char)
  | [] => none
  | '"' :: rest => some ([], rest)
  | '\\' :: 'u' :: a :: b :: c :: d :: '\\' :: 'u' :: e :: f :: g :: h :: rest =>
    match hexUnit? a b c d with
    | none => none
    | some unit =>
      if 0xD800 ≤ unit ∧ unit < 0xDC00 then
        match hexUnit? e f g h with
        | none => none
        | some low =>
          if 0xDC00 ≤ low ∧ low < 0xE000 then
            (string? rest).map fun (body, after) =>
              (.ofNat (0x10000 + (unit - 0xD800) * 0x400 + (low - 0xDC00)) :: body, after)
          else none
      else if 0xDC00 ≤ unit ∧ unit < 0xE000 then none
      else
        (string? ('\\' :: 'u' :: e :: f :: g :: h :: rest)).map fun (body, after) =>
          (.ofNat unit :: body, after)
  | '\\' :: 'u' :: a :: b :: c :: d :: rest =>
    match hexUnit? a b c d with
    | none => none
    | some unit =>
      if 0xD800 ≤ unit ∧ unit < 0xE000 then none
      else (string? rest).map fun (body, after) => (.ofNat unit :: body, after)
  | '\\' :: c :: rest =>
    match shortEscape? c with
    | none => none
    | some c => (string? rest).map fun (body, after) => (c :: body, after)
  | c :: rest =>
    if c.toNat < 0x20 then none
    else (string? rest).map fun (body, after) => (c :: body, after)

/-! ## Values -/

/-- Drop the blanks that JSON allows between tokens. -/
def skipBlanks (text : List Char) : List Char :=
  text.dropWhile fun c => c == ' ' || c == '\n' || c == '\t' || c == '\r'

mutual

/-- Read one value; `fuel` bounds the number of values and entries still to come. -/
def value? : Nat → List Char → Option (Json × List Char)
  | 0, _ => none
  | fuel + 1, text =>
    match skipBlanks text with
    | 'n' :: 'u' :: 'l' :: 'l' :: rest => some (.null, rest)
    | 't' :: 'r' :: 'u' :: 'e' :: rest => some (.bool true, rest)
    | 'f' :: 'a' :: 'l' :: 's' :: 'e' :: rest => some (.bool false, rest)
    | '"' :: rest => (string? rest).map fun (body, after) => (.string (.ofList body), after)
    | '[' :: rest =>
      match skipBlanks rest with
      | ']' :: after => some (.array [], after)
      | rest => (items? fuel rest).map fun (items, after) => (.array items, after)
    | '\x7b' :: rest =>
      match skipBlanks rest with
      | '\x7d' :: after => some (.object [], after)
      | rest => (fields? fuel rest).map fun (fields, after) =>
          (.object (Keyed.ofList fields), after)
    | '-' :: rest => unsigned? true rest
    | rest => unsigned? false rest

/-- Read the items of an array up to its end. -/
def items? : Nat → List Char → Option (List Json × List Char)
  | 0, _ => none
  | fuel + 1, text =>
    match value? fuel text with
    | none => none
    | some (item, rest) =>
      match skipBlanks rest with
      | ',' :: rest => (items? fuel rest).map fun (items, after) => (item :: items, after)
      | ']' :: rest => some ([item], rest)
      | _ => none

/-- Read the entries of an object up to its end. -/
def fields? : Nat → List Char → Option (List (String × Json) × List Char)
  | 0, _ => none
  | fuel + 1, text =>
    match skipBlanks text with
    | '"' :: rest =>
      match string? rest with
      | none => none
      | some (key, rest) =>
        match skipBlanks rest with
        | ':' :: rest =>
          match value? fuel rest with
          | none => none
          | some (value, rest) =>
            match skipBlanks rest with
            | ',' :: rest =>
              (fields? fuel rest).map fun (fields, after) =>
                ((.ofList key, value) :: fields, after)
            | '\x7d' :: rest => some ([(.ofList key, value)], rest)
            | _ => none
        | _ => none
    | _ => none

end

/-- Read a text that holds exactly one value. -/
def parse? (text : String) : Option Json :=
  match value? (text.length + 1) text.toList with
  | some (value, rest) => if (skipBlanks rest).isEmpty then some value else none
  | none => none

end ServerGrid.Json
