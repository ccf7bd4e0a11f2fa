import ServerGrid.Column.Name
import ServerGrid.Dialect
import ServerGrid.Scope

/-!
# Resolving column names

A column name of a request becomes SQL by the scope of the base query: a function call stays as it
is, a relation before the last dot gives way to its table, another dotted name is a path, and a
bare name is qualified by the base table.
-/

namespace ServerGrid

/-- What a column name stands for. -/
inductive ColumnExpr where
  | identifier (table : Option String) (column : String)
  | raw (sql : String)
  deriving DecidableEq, Repr

/-- The column as SQL. A column without a table is a dotted path. -/
def ColumnExpr.sql (d : Dialect) : ColumnExpr → String
  | .identifier (some table) column => d.quotePath table ++ "." ++ d.quoteIdentifier column
  | .identifier none column => d.quotePath column
  | .raw sql => sql

/-- What column names are resolved against. -/
structure Resolver where
  scope : Scope
  dialect : Dialect
  deriving DecidableEq, Repr

namespace Resolver

/-- What a column name stands for. -/
def resolve (r : Resolver) (name : String) : ColumnExpr :=
  if isFunctionCall name then .raw (Text.trim name)
  else
    match Text.cutLast '.' name with
    | some (relation, leaf) =>
      match (if r.scope.relationAware then r.scope.eagerTable? relation else none) with
      | some table => .identifier (some table) leaf
      | none => .identifier none name
    | none => .identifier r.scope.table name

def columnSql (r : Resolver) (name : String) : String := (r.resolve name).sql r.dialect

def operand (r : Resolver) (name : String) : Operand := .verbatim (r.columnSql name)

end Resolver

end ServerGrid
