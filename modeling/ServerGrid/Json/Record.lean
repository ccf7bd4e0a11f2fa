import ServerGrid.Json.Basic

/-!
# Records in JSON

How typed fields are read from a JSON value. No value is coerced: a whole number is an integer in
range, a flag is a boolean, a text is a string. A record is an object, whose unknown entries are
ignored, or an array of its fields in order, which may end early but not be too long.
-/

namespace ServerGrid.Json

/-! ## Single values -/

def toUInt64? : Json → Option UInt64
  | .number (.integer n) =>
    if 0 ≤ n ∧ n.toNat < UInt64.size then some (.ofNat n.toNat) else none
  | _ => none

def toInt64? : Json → Option Int64
  | .number (.integer n) =>
    if Int64.minValue.toInt ≤ n ∧ n ≤ Int64.maxValue.toInt then some (.ofInt n) else none
  | _ => none

def toBool? : Json → Option Bool
  | .bool b => some b
  | _ => none

def toString? : Json → Option String
  | .string s => some s
  | _ => none

/-- Any value at all. -/
def toJson? (j : Json) : Option Json := some j

def toList? {α : Type} (item : Json → Option α) : Json → Option (List α)
  | .array items => items.mapM item
  | _ => none

/-- `null` as absent. -/
def toOption? {α : Type} (present : Json → Option α) : Json → Option (Option α)
  | .null => some none
  | j => (present j).map some

/-! ## Records -/

/-- The fields of a record with the given field names. -/
def record? (names : List String) : Json → Option (Keyed Json)
  | .object fields => some fields
  | .array items => if items.length ≤ names.length then some (names.zip items) else none
  | _ => none

/-- A field that must be there. -/
def required? {α : Type} (fields : Keyed Json) (name : String) (read : Json → Option α) :
    Option α :=
  fields.get? name >>= read

/-- A field that takes a default when it is missing. -/
def field? {α : Type} (fields : Keyed Json) (name : String) (read : Json → Option α)
    (default : α) : Option α :=
  match fields.get? name with
  | none => some default
  | some j => read j

end ServerGrid.Json
