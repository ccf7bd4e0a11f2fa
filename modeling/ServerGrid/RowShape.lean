import ServerGrid.Json.Basic

/-!
# Row shapes

What is done to every fetched row, in a fixed order: columns are added, columns are edited, the row
id is set, columns are removed, and the row is numbered. Contents that are computed see the row as
the steps before have left it. Rows that are not objects stay as they are.
-/

namespace ServerGrid

def rowIdKey : String := "DT_RowId"

def rowIndexKey : String := "DT_RowIndex"

/-- A fixed value, or one computed from the row. -/
inductive Content where
  | fixed (value : Json)
  | computed (f : Json → Json)

def Content.render (row : Json) : Content → Json
  | .fixed value => value
  | .computed f => f row

/-- A column to add, at a position among the keys or at the end. -/
structure AddedColumn where
  name : String
  content : Content
  position : Option Nat

/-- Where the row id comes from: a column of the row or a computation. -/
inductive RowId where
  | column (name : String)
  | computed (f : Json → Json)

/-- What is done to every row. -/
structure RowShape where
  added : List AddedColumn
  edited : List (String × Content)
  removed : List String
  rowId : Option RowId
  numbered : Bool

namespace RowShape

/-- The shape that leaves rows as they are. -/
def plain : RowShape := ⟨[], [], [], none, false⟩

/-! ## Declaring a shape -/

def addColumn (s : RowShape) (name : String) (content : Content) (position : Option Nat) :
    RowShape :=
  { s with added := s.added ++ [⟨name, content, position⟩] }

def editColumn (s : RowShape) (name : String) (content : Content) : RowShape :=
  { s with edited := s.edited ++ [(name, content)] }

def removeColumn (s : RowShape) (name : String) : RowShape :=
  { s with removed := s.removed ++ [name] }

def setRowId (s : RowShape) (rowId : RowId) : RowShape := { s with rowId := some rowId }

def numberRows (s : RowShape) : RowShape := { s with numbered := true }

def isPlain (s : RowShape) : Bool :=
  s.added.isEmpty && s.edited.isEmpty && s.removed.isEmpty && s.rowId.isNone && !s.numbered

/-! ## The steps -/

def addAll (s : RowShape) (fields : Keyed Json) : Keyed Json :=
  s.added.foldl (fun fields c =>
    fields.insertAt c.name (c.content.render (.object fields)) c.position) fields

def editAll (s : RowShape) (fields : Keyed Json) : Keyed Json :=
  s.edited.foldl (fun fields (name, content) =>
    fields.set name (content.render (.object fields))) fields

/-- Set the row id; a column that the row has not sets none. -/
def identify (s : RowShape) (fields : Keyed Json) : Keyed Json :=
  match s.rowId with
  | none => fields
  | some (.column name) =>
    match fields.get? name with
    | some value => fields.set rowIdKey value
    | none => fields
  | some (.computed f) => fields.set rowIdKey (f (.object fields))

def removeAll (s : RowShape) (fields : Keyed Json) : Keyed Json :=
  s.removed.foldl (fun fields name => fields.erase name) fields

def number (s : RowShape) (index : UInt64) (fields : Keyed Json) : Keyed Json :=
  if s.numbered then fields.set rowIndexKey (Json.ofUInt64 index) else fields

def applyRow (s : RowShape) (row : Json) (index : UInt64) : Json :=
  match row with
  | .object fields =>
    .object (s.number index (s.removeAll (s.identify (s.editAll (s.addAll fields)))))
  | row => row

/-- Rows in the shape, the first of them with number `index`. -/
def applyFrom (s : RowShape) (index : UInt64) : List Json → List Json
  | [] => []
  | row :: rest => s.applyRow row index :: applyFrom s (index + 1) rest

/-- The number of the first row after `start` others; it stops at the greatest number. -/
def firstIndex (start : UInt64) : UInt64 :=
  if start.toNat + 1 < UInt64.size then start + 1 else start

/-- The rows of a page that starts after `start` others. -/
def apply (s : RowShape) (rows : List Json) (start : UInt64) : List Json :=
  if s.isPlain then rows else s.applyFrom (firstIndex start) rows

end RowShape

end ServerGrid
