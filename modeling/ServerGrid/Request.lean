import ServerGrid.Json.Record
import ServerGrid.Text.Blank
import ServerGrid.Text.Case

/-!
# Requests

What the client's grid asks for: its columns with their own keywords, a global keyword, sort
directives and a page. A column is known by its explicit name, else by its data source; an empty
name and one of digits only (the source of array rows) count as none.
-/

namespace ServerGrid

/-- A keyword, and whether it is a regular expression. -/
structure SearchTerm where
  value : String
  regex : Bool
  deriving DecidableEq, Repr

/-- A column of the client's grid. -/
structure ColumnRequest where
  data : String
  name : Option String
  searchable : Bool
  orderable : Bool
  search : SearchTerm
  deriving DecidableEq, Repr

/-- A sort on a column index, with the direction as the client wrote it. -/
structure OrderRequest where
  column : UInt64
  dir : String
  deriving DecidableEq, Repr

/-- A request of the client's grid. -/
structure Request where
  /-- A counter that comes back in the response. -/
  draw : UInt64
  columns : List ColumnRequest
  order : List OrderRequest
  start : Option Int64
  /-- The page length; -1 asks for every row. -/
  length : Option Int64
  search : SearchTerm
  deriving DecidableEq, Repr

inductive SortDirection where
  | asc
  | desc
  deriving DecidableEq, Repr

namespace SortDirection

/-- Anything but `desc`, without regard to blanks around it and case, sorts upwards. -/
def ofText (text : String) : SortDirection :=
  if Text.asciiLowercase (Text.trim text) = "desc" then .desc else .asc

def sql : SortDirection → String
  | .asc => "asc"
  | .desc => "desc"

end SortDirection

/-- A sort directive that does not point at a column without ordering. -/
structure OrderDirective where
  column : UInt64
  direction : SortDirection
  deriving DecidableEq, Repr

namespace SearchTerm

def blank : SearchTerm := ⟨"", false⟩

/-- The keyword without blanks around it. -/
def keyword (s : SearchTerm) : String := Text.trim s.value

end SearchTerm

namespace ColumnRequest

/-- The name of a column, if it has one. -/
def label? (c : ColumnRequest) : Option String :=
  let name :=
    match c.name with
    | some name => if name.isEmpty then c.data else name
    | none => c.data
  if name.toList.all Char.isDigit then none else some name

/-- Whether the column is searched by a keyword of its own. -/
def isSearched (c : ColumnRequest) : Bool := c.searchable && !c.search.keyword.isEmpty

end ColumnRequest

namespace Request

def empty : Request where
  draw := 0
  columns := []
  order := []
  start := none
  length := none
  search := .blank

/-! ## Reading a request -/

def keyword (r : Request) : String := r.search.keyword

def isSearchable (r : Request) : Bool := !r.keyword.isEmpty

def isOrderable (r : Request) : Bool := !r.order.isEmpty

/-- Whether the request wants a page rather than every row. -/
def isPaged (r : Request) : Bool := r.length ≠ some (-1)

def column? (r : Request) (index : Nat) : Option ColumnRequest := r.columns[index]?

/-- The name of the column at an index, if it has one. -/
def columnName? (r : Request) (index : Nat) : Option String :=
  r.column? index >>= ColumnRequest.label?

/-- The search of the column at an index, blank past the columns. -/
def columnTerm (r : Request) (index : Nat) : SearchTerm :=
  match r.column? index with
  | some c => c.search
  | none => .blank

/-- Whether the column at an index is searched by a keyword of its own. -/
def isColumnSearched (r : Request) (index : Nat) : Bool :=
  match r.column? index with
  | some c => c.isSearched
  | none => false

/-- The columns that the global keyword searches. -/
def searchableColumns (r : Request) : List ColumnRequest := r.columns.filter (·.searchable)

/-- The indexes of the columns that the global keyword searches. -/
def searchableIndexes (r : Request) : List Nat :=
  (r.columns.zipIdx.filter (·.1.searchable)).map (·.2)

/-- The directives in order, without those on columns that are not to be ordered. Directives past
the columns stay. -/
def directives (r : Request) : List OrderDirective :=
  (r.order.filter fun o =>
    match r.column? o.column.toNat with
    | some c => c.orderable
    | none => true).map fun o => ⟨o.column, .ofText o.dir⟩

end Request

/-! ## JSON -/

namespace SearchTerm

def toJson (s : SearchTerm) : Json :=
  .object [("value", .string s.value), ("regex", .bool s.regex)]

def ofJson? (j : Json) : Option SearchTerm := do
  let fields ← j.record? ["value", "regex"]
  let value ← Json.field? fields "value" Json.toString? ""
  let regex ← Json.field? fields "regex" Json.toBool? false
  return { value, regex }

end SearchTerm

namespace ColumnRequest

def toJson (c : ColumnRequest) : Json :=
  .object [
    ("data", .string c.data),
    ("name", Json.ofOption .string c.name),
    ("searchable", .bool c.searchable),
    ("orderable", .bool c.orderable),
    ("search", c.search.toJson)]

def ofJson? (j : Json) : Option ColumnRequest := do
  let fields ← j.record? ["data", "name", "searchable", "orderable", "search"]
  let data ← Json.field? fields "data" Json.toString? ""
  let name ← Json.field? fields "name" (Json.toOption? Json.toString?) none
  let searchable ← Json.field? fields "searchable" Json.toBool? true
  let orderable ← Json.field? fields "orderable" Json.toBool? true
  let search ← Json.field? fields "search" SearchTerm.ofJson? .blank
  return { data, name, searchable, orderable, search }

end ColumnRequest

namespace OrderRequest

def toJson (o : OrderRequest) : Json :=
  .object [("column", Json.ofUInt64 o.column), ("dir", .string o.dir)]

/-- Read a directive; only the column has no default. -/
def ofJson? (j : Json) : Option OrderRequest := do
  let fields ← j.record? ["column", "dir"]
  let column ← Json.required? fields "column" Json.toUInt64?
  let dir ← Json.field? fields "dir" Json.toString? "asc"
  return { column, dir }

end OrderRequest

namespace Request

def toJson (r : Request) : Json :=
  .object [
    ("draw", Json.ofUInt64 r.draw),
    ("columns", .array (r.columns.map ColumnRequest.toJson)),
    ("order", .array (r.order.map OrderRequest.toJson)),
    ("start", Json.ofOption (fun n => Json.ofInt n.toInt) r.start),
    ("length", Json.ofOption (fun n => Json.ofInt n.toInt) r.length),
    ("search", r.search.toJson)]

/-- Read a request; missing fields take their defaults. -/
def ofJson? (j : Json) : Option Request := do
  let fields ← j.record? ["draw", "columns", "order", "start", "length", "search"]
  let draw ← Json.field? fields "draw" Json.toUInt64? 0
  let columns ← Json.field? fields "columns" (Json.toList? ColumnRequest.ofJson?) []
  let order ← Json.field? fields "order" (Json.toList? OrderRequest.ofJson?) []
  let start ← Json.field? fields "start" (Json.toOption? Json.toInt64?) none
  let length ← Json.field? fields "length" (Json.toOption? Json.toInt64?) none
  let search ← Json.field? fields "search" SearchTerm.ofJson? .blank
  return { draw, columns, order, start, length, search }

end Request

end ServerGrid
