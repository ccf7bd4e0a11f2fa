import ServerGrid.Sql.Formula
import ServerGrid.Text.Substring

/-!
# SELECT statements

A statement selects items from a table or from another statement, joins further tables, filters,
groups, combines its rows with those of other statements by set operators, sorts and limits.
`Select.pieces` writes it for a backend; the bound values are those of the clauses in the order in
which they are written. Statements that a predicate asks for are kept as they are written
(`Select.subquery`).

These are the clauses of a statement for any backend. Further ones that builders offer are not among
them: joins other than LEFT JOIN, windows, common table expressions, locks, index hints (on MySQL),
operators of one backend only, expressions in GROUP BY and ORDER BY, and constants written into the
text. An expression of another kind in the select list or a condition is raw SQL.
-/

namespace ServerGrid

/-- A function of all values of a column. -/
inductive Aggregate where
  | count | sum | average | least | greatest
  deriving DecidableEq, Repr

/-- An item of the select list. -/
inductive SelectItem where
  | column (c : ColumnRef)
  | aggregate (f : Aggregate) (c : ColumnRef) (label : Option String)
  /-- An expression in raw SQL. -/
  | raw (sql : String) (label : Option String)
  deriving DecidableEq, Repr

/-- How the rows of a further statement are combined with those before. -/
inductive SetOperator where
  | unionAll
  | union
  | intersect
  | except
  deriving DecidableEq, Repr

structure Join where
  table : String
  on : Condition
  deriving DecidableEq, Repr

structure SortKey where
  column : ColumnRef
  descending : Bool
  deriving DecidableEq, Repr

/-- A table, possibly in a schema. -/
structure TableName where
  schema : Option String
  name : String
  deriving DecidableEq, Repr

/-- What the rows come from. -/
inductive Source (σ : Type) where
  | nothing
  | table (name : TableName) (label : Option String)
  | derived (body : σ) (label : String)
  deriving Repr

structure Select where
  distinct : Bool
  items : List SelectItem
  source : Source Select
  joins : List Join
  filter : Option Condition
  groupBy : List ColumnRef
  having : Option Condition
  members : List (SetOperator × Select)
  orderBy : List SortKey
  limit : Option UInt64
  offset : Option UInt64

namespace Select

/-- The statement without any clause. -/
def empty : Select where
  distinct := false
  items := []
  source := .nothing
  joins := []
  filter := none
  groupBy := []
  having := none
  members := []
  orderBy := []
  limit := none
  offset := none

instance : Inhabited Select := ⟨empty⟩

instance {σ : Type} : Inhabited (Source σ) := ⟨.nothing⟩

/-- Whether the statement limits or offsets its own rows. -/
def limitsRows (s : Select) : Bool := s.limit.isSome || s.offset.isSome

def conjoin (s : Select) (c : Condition) : Select :=
  { s with filter := some (Condition.conjoin s.filter c) }

def conjoinHaving (s : Select) (c : Condition) : Select :=
  { s with having := some (Condition.conjoin s.having c) }

/-- Join a further table. -/
def leftJoin (s : Select) (table : String) (on : Condition) : Select :=
  { s with joins := s.joins ++ [⟨table, on⟩] }

end Select

/-! ## Dotted names -/

/-- A table written with a dot has the schema before the first one. -/
def TableName.ofDotted (text : String) : TableName :=
  match Text.cutFirst '.' text with
  | some (schema, name) => ⟨some schema, name⟩
  | none => ⟨none, text⟩

/-- A column written with a dot has the table before the first one; `*` stands for all columns. -/
def ColumnRef.ofDotted (text : String) : ColumnRef :=
  if text = "*" then .all
  else
    match Text.cutFirst '.' text with
    | some (table, column) => if column = "*" then .allOf table else .qualified table column
    | none => .bare text

/-! ## Writing statements -/

/-- A name given to an item or a table. -/
def labelPieces : Option String → List Piece
  | some label => [.text " AS ", .name label]
  | none => []

def Aggregate.opening : Aggregate → String
  | .count => "COUNT("
  | .sum => "SUM("
  | .average => "AVG("
  | .least => "MIN("
  | .greatest => "MAX("

def SelectItem.pieces : SelectItem → List Piece
  | .column c => c.pieces
  | .aggregate f c label => .text f.opening :: c.pieces ++ .text ")" :: labelPieces label
  | .raw sql label => .raw sql :: labelPieces label

def TableName.pieces (t : TableName) : List Piece :=
  match t.schema with
  | some schema => [.name schema, .text ".", .name t.name]
  | none => [.name t.name]

def Join.pieces (backend : Backend) (j : Join) : List Piece :=
  .text " LEFT JOIN " :: .name j.table :: .text " ON " :: j.on.pieces backend

def SortKey.pieces (k : SortKey) : List Piece :=
  k.column.pieces ++ [.text (if k.descending then " DESC" else " ASC")]

/-- A clause with a condition, nothing when there is none. -/
def conditionPieces (backend : Backend) (word : String) : Option Condition → List Piece
  | some c => .text word :: c.pieces backend
  | none => []

/-- A clause with a list, nothing when the list is empty. -/
def listPieces (word : String) : List (List Piece) → List Piece
  | [] => []
  | first :: rest => .text word :: Piece.separated ", " (first :: rest)

/-- A clause with a bound number, nothing when there is none. -/
def boundPieces (word : String) : Option UInt64 → List Piece
  | some n => [.text word, .param (.bigUnsigned (some n))]
  | none => []

def SetOperator.word : SetOperator → String
  | .unionAll => " UNION ALL "
  | .union => " UNION "
  | .intersect => " INTERSECT "
  | .except => " EXCEPT "

/-- A further statement of a set operation: in parentheses, except on SQLite. -/
def memberPieces (backend : Backend) (operator : SetOperator) (body : List Piece) : List Piece :=
  .text operator.word ::
    match backend with
    | .sqlite => body
    | .mysql | .postgres => Piece.parenthesised body

mutual

def Select.pieces (backend : Backend) : Select → List Piece
  | ⟨distinct, items, source, joins, filter, groupBy, having, members, orderBy, limit, offset⟩ =>
    .text (if distinct then "SELECT DISTINCT " else "SELECT ") ::
      Piece.separated ", " (items.map SelectItem.pieces) ++
      Source.pieces backend source ++
      joins.flatMap (Join.pieces backend) ++
      conditionPieces backend " WHERE " filter ++
      listPieces " GROUP BY " (groupBy.map ColumnRef.pieces) ++
      conditionPieces backend " HAVING " having ++
      Select.membersPieces backend members ++
      listPieces " ORDER BY " (orderBy.map SortKey.pieces) ++
      boundPieces " LIMIT " limit ++
      boundPieces " OFFSET " offset

def Source.pieces (backend : Backend) : Source Select → List Piece
  | .nothing => []
  | .table name label => .text " FROM " :: name.pieces ++ labelPieces label
  | .derived body label =>
    .text " FROM " :: Piece.parenthesised (Select.pieces backend body) ++ labelPieces (some label)

/-- The further statements of set operations. -/
def Select.membersPieces (backend : Backend) : List (SetOperator × Select) → List Piece
  | [] => []
  | (operator, body) :: rest =>
    memberPieces backend operator (Select.pieces backend body) ++
      Select.membersPieces backend rest

end

def Select.statement (backend : Backend) (s : Select) : Statement :=
  Piece.statement backend (s.pieces backend)

/-- A statement for use inside a predicate. -/
def Select.subquery (s : Select) : Subquery :=
  ⟨s.pieces .mysql, s.pieces .postgres, s.pieces .sqlite⟩

theorem Select.pieces_subquery (s : Select) (backend : Backend) :
    s.subquery.pieces backend = s.pieces backend := by
  cases backend <;> rfl

end ServerGrid
