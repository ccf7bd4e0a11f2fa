import ServerGrid.Json.Basic

/-!
# Bound values

A value bound to a placeholder has a kind, and every kind has its own NULL. `Value.toJson` is the
value as a fetched row shows it.
-/

namespace ServerGrid

/-- A value bound to a placeholder or read from a row; `none` is the NULL of its kind. -/
inductive Value where
  | bool (v : Option Bool)
  | int (v : Option Int32)
  | bigInt (v : Option Int64)
  | bigUnsigned (v : Option UInt64)
  | double (v : Option Double)
  | string (v : Option String)
  | bytes (v : Option (List UInt8))
  | json (v : Option Json)
  deriving DecidableEq, Repr

namespace Value

/-- The text of a UTF-8 byte sequence, empty when the sequence is ill-formed. -/
def utf8Text (bytes : List UInt8) : String :=
  (String.fromUTF8? ⟨bytes.toArray⟩).getD ""

/-- The value as a fetched row shows it. -/
def toJson : Value → Json
  | .bool (some b) => .bool b
  | .int (some n) => .ofInt n.toInt
  | .bigInt (some n) => .ofInt n.toInt
  | .bigUnsigned (some n) => .ofUInt64 n
  | .double (some x) => .number (.real x)
  | .string (some s) => .string s
  | .bytes (some b) => .string (utf8Text b)
  | .json (some j) => j
  | .bool none | .int none | .bigInt none | .bigUnsigned none | .double none | .string none
  | .bytes none | .json none => .null

def ofString (s : String) : Value := .string (some s)

end Value

end ServerGrid
