import ServerGrid.BaseQuery
import ServerGrid.Failure
import ServerGrid.Search.FilterScope

/-!
# Column registry

What the application declares about columns before a run: custom filters, custom sort templates,
hidden columns and the columns that are allowed. Hidden columns take no part in the default search
and ordering; neither do expressions that are not allowed by name.
-/

namespace ServerGrid

/-- A raw sort template: `$1` takes the direction, `?` the bindings. -/
structure CustomOrder where
  sql : String
  bindings : List Value
  deriving DecidableEq, Repr

/-- The sort key for a direction; the template must have as many placeholders as bindings. -/
def CustomOrder.compile (o : CustomOrder) (column direction : String) :
    Except CompileFault OrderClause :=
  let placeholders := Unquoted.countPlaceholders o.sql
  if placeholders = o.bindings.length then
    .ok ⟨Text.replaceAll "$1" direction o.sql, o.bindings⟩
  else .error (.bindingMismatch column placeholders o.bindings.length)

/-- What the application declares about columns. -/
structure Registry where
  filters : Keyed FilterCallback
  orders : Keyed CustomOrder
  hidden : List String
  /-- The only columns allowed; `none` allows every column. -/
  allowed : Option (List String)

namespace Registry

def empty : Registry := ⟨[], [], [], none⟩

def registerFilter (r : Registry) (column : String) (f : FilterCallback) : Registry :=
  { r with filters := r.filters.set column f }

def registerOrder (r : Registry) (column : String) (o : CustomOrder) : Registry :=
  { r with orders := r.orders.set column o }

/-- Keep columns from the default search and ordering. -/
def hide (r : Registry) (columns : List String) : Registry :=
  { r with hidden := r.hidden ++ columns }

/-- Restrict the default search and ordering to columns; `*` lifts the restriction. -/
def allowOnly (r : Registry) (columns : List String) : Registry :=
  { r with allowed := if columns.contains "*" then none else some columns }

/-- Whether a column is allowed by name. -/
def isAllowedByName (r : Registry) (column : String) : Bool :=
  match r.allowed with
  | some columns => columns.contains column
  | none => false

/-- Whether a column is kept from the default search and ordering. An expression is SQL from the
client, so it has to be allowed by name. -/
def isHidden (r : Registry) (column : String) : Bool :=
  r.hidden.contains column ||
    if isFunctionCall column then !r.isAllowedByName column
    else r.allowed.isSome && !r.isAllowedByName column

def filter? (r : Registry) (column : String) : Option FilterCallback := r.filters.get? column

def order? (r : Registry) (column : String) : Option CustomOrder := r.orders.get? column

end Registry

end ServerGrid
