import ServerGrid.Column.Registry
import ServerGrid.Config
import ServerGrid.Request

/-!
# Ordering

Sort directives become sort keys in the order of the request. A column with a custom template is
ordered by it, also when it is hidden; other hidden columns and columns without a name are passed
over. A directive past the columns, or a template that does not fit its bindings, ends the ordering
with an error; the keys before it stay.
-/

namespace ServerGrid

/-- What an ordering reads. -/
structure OrderContext where
  request : Request
  registry : Registry
  resolver : Resolver
  config : Config

namespace OrderContext

/-- The default sort key of a column. -/
def defaultSql (ctx : OrderContext) (name : String) (direction : SortDirection) : String :=
  let column := ctx.resolver.columnSql name
  if ctx.config.nullsLast then
    Dialect.nullsLast column direction.sql ctx.config.nullsLastSql
  else column ++ " " ++ direction.sql

theorem defaultSql_of_plain {ctx : OrderContext} (h : ctx.config.nullsLast = false) (name : String)
    (direction : SortDirection) : ctx.defaultSql name direction =
      ctx.resolver.columnSql name ++ " " ++ direction.sql := by
  rw [defaultSql, h]
  rfl

theorem defaultSql_of_nullsLast {ctx : OrderContext} (h : ctx.config.nullsLast = true)
    (name : String) (direction : SortDirection) : ctx.defaultSql name direction =
      Dialect.nullsLast (ctx.resolver.columnSql name) direction.sql ctx.config.nullsLastSql := by
  rw [defaultSql, h]
  rfl

/-- The sort key of a directive, `none` when the column is passed over. -/
def clause (ctx : OrderContext) (d : OrderDirective) : Except CompileFault (Option OrderClause) :=
  if d.column.toNat < ctx.request.columns.length then
    match ctx.request.columnName? d.column.toNat with
    | none => .ok none
    | some name =>
      -- a custom template is declared by the application, for hidden columns too
      match ctx.registry.order? name with
      | some order => (order.compile name d.direction.sql).map some
      | none =>
        if ctx.registry.isHidden name then .ok none
        else .ok (some ⟨ctx.defaultSql name d.direction, []⟩)
  else .error (.unknownColumn d.column)

end OrderContext

namespace BaseQuery

/-- Add the sort keys of directives up to the first fault. -/
def orderDirectives (ctx : OrderContext) (q : BaseQuery) :
    List OrderDirective → BaseQuery × Except CompileFault Unit
  | [] => (q, .ok ())
  | d :: rest =>
    match ctx.clause d with
    | .error fault => (q, .error fault)
    | .ok none => orderDirectives ctx q rest
    | .ok (some clause) => orderDirectives ctx (q.orderBy clause.sql clause.values) rest

/-- Order the rows as the request asks for. -/
def applyOrdering (q : BaseQuery) (ctx : OrderContext) : BaseQuery × Except CompileFault Unit :=
  orderDirectives ctx q ctx.request.directives

end BaseQuery

end ServerGrid
