import ServerGrid.Dialect
import ServerGrid.Scope
import ServerGrid.Sql.Select
import ServerGrid.Sql.Unquoted

/-!
# Base queries

The statement that requests are answered from, with its scope. The engine only adds to it:
conditions and joins go into the statement, sort keys and the page are kept beside it as raw
fragments and written after it. A statement that limits its own rows is moved into a derived table
before the first addition, so that additions apply to the rows it selects.
-/

namespace ServerGrid

/-- A raw sort key with the values of its `?` placeholders. -/
structure OrderClause where
  sql : String
  values : List Value
  deriving DecidableEq, Repr

/-- The rows to fetch: `limit` of them after the first `offset`. -/
structure Page where
  offset : UInt64
  limit : UInt64
  deriving DecidableEq, Repr

/-- The statement that requests are answered from. -/
structure BaseQuery where
  statement : Select
  scope : Scope
  orders : List OrderClause
  page : Option Page
  /-- Whether the statement has been checked for a limit of its own. -/
  isolated : Bool

/-- The name of the derived table of a limited statement without a table of its own. -/
def limitedAlias : String := "base_query"

def lastSegment (name : String) : String :=
  match Text.cutLast '.' name with
  | some (_, last) => last
  | none => name

namespace BaseQuery

/-! ## Making a base query -/

/-- Take any statement; bare column names stay unqualified. -/
def ofStatement (s : Select) : BaseQuery := ⟨s, .empty, [], none, false⟩

/-- Let a table qualify bare column names, if it is a plain identifier. -/
def withTable (q : BaseQuery) (table : String) : BaseQuery :=
  { q with scope := q.scope.withTable table }

/-- Look names before a dot up among the relations. -/
def relationAware (q : BaseQuery) : BaseQuery :=
  { q with scope := { q.scope with relationAware := true } }

/-- All columns of a table. -/
def ofTable (table : String) : BaseQuery :=
  let name := TableName.ofDotted table
  let statement := { Select.empty with
    items := [.column (.allOf name.name)]
    source := .table name none }
  ((ofStatement statement).withTable table).relationAware

/-- A statement over the columns of a table, keeping what it filters and joins. -/
def ofEntity (name : TableName) (statement : Select) : BaseQuery :=
  let table :=
    match name.schema with
    | some schema => schema ++ "." ++ name.name
    | none => name.name
  ((ofStatement statement).withTable table).relationAware

/-! ## Isolation -/

/-- All rows of a statement, as a derived table. -/
def derivedFrom (body : Select) (label : String) : Select :=
  { Select.empty with items := [.column .all], source := .derived body label }

/-- The name that the derived table of a limited statement takes. -/
def derivedAlias (q : BaseQuery) : String :=
  match q.scope.table with
  | some table => lastSegment table
  | none => limitedAlias

/-- Move a statement that limits its own rows into a derived table, before the first addition. The
derived table takes the name of the base table, so that qualified columns keep their meaning. -/
def isolate (q : BaseQuery) : BaseQuery :=
  if q.isolated then q
  else if q.statement.limitsRows then
    { q with
      isolated := true
      statement := derivedFrom q.statement q.derivedAlias
      scope := { q.scope with table := q.scope.table.map fun _ => q.derivedAlias } }
  -- marked all the same, so that the statement is not looked at again
  else { q with isolated := true }

/-! ## Additions -/

def modifyStatement (q : BaseQuery) (f : Select → Select) : BaseQuery :=
  let q := q.isolate
  { q with statement := f q.statement }

/-- Note a relation that the statement already joins. -/
def registerRelation (q : BaseQuery) (relation table : String) : BaseQuery :=
  { q with scope := q.scope.register relation table }

def eagerLoad (q : BaseQuery) (relation table : String) (on : Condition) : BaseQuery :=
  (q.modifyStatement (·.leftJoin table on)).registerRelation relation table

/-- Narrow the rows by a condition. -/
def addCondition (q : BaseQuery) (c : Condition) : BaseQuery := q.modifyStatement (·.conjoin c)

def andWhere (q : BaseQuery) (p : Predicate) : BaseQuery := q.addCondition (.ofPredicate p)

def orderBy (q : BaseQuery) (sql : String) (values : List Value) : BaseQuery :=
  let q := q.isolate
  { q with orders := q.orders ++ [⟨sql, values⟩] }

def paginate (q : BaseQuery) (page : Page) : BaseQuery :=
  { q.isolate with page := some page }

/-! ## The data statement -/

/-- The sort keys with their placeholders written when `bound` values came before. -/
def orderTexts (backend : Backend) (bound : Nat) : List OrderClause → List String
  | [] => []
  | clause :: rest =>
    Unquoted.bindPlaceholders clause.sql backend bound ::
      orderTexts backend (bound + clause.values.length) rest

/-- What the sort keys add to a statement: they continue an ORDER BY clause or start one. -/
def orderSuffix (backend : Backend) (s : Statement) (orders : List OrderClause) : String :=
  if orders.isEmpty then ""
  else
    (if Unquoted.hasOrderBy s.sql then ", " else " ORDER BY ") ++
      Text.join ", " (orderTexts backend s.values.length orders)

def pageSuffix (dialect : Dialect) : Option Page → String
  | none => ""
  | some page => " " ++ dialect.limitClause page.offset page.limit

/-- The statement that fetches the rows: the base statement, the sort keys, the page. -/
def build (q : BaseQuery) (backend : Backend) (dialect : Dialect) : Statement :=
  let base := q.statement.statement backend
  { sql := base.sql ++ orderSuffix backend base q.orders ++ pageSuffix dialect q.page
    values := base.values ++ q.orders.flatMap (·.values) }

end BaseQuery

end ServerGrid
