import ServerGrid.BaseQuery

/-!
# Isolated queries

Every addition isolates the query first, and isolating a second time does nothing
(`isolate_modifyStatement` and its like). A query whose flag was never set without looking at its
statement (`limitsRows_isolate`) has no limit of its own once it is isolated. `BaseQuery.Fresh` are
the queries that no addition has touched, and the ways of making a base query give no others.
-/

namespace ServerGrid.BaseQuery

theorem isolate_of_isolated {q : BaseQuery} (h : q.isolated = true) : q.isolate = q := by
  rw [isolate, if_pos h]

@[simp] theorem isolated_isolate (q : BaseQuery) : q.isolate.isolated = true := by
  unfold isolate
  split
  · assumption
  · split <;> rfl

@[simp] theorem orders_isolate (q : BaseQuery) : q.isolate.orders = q.orders := by
  unfold isolate
  split
  · rfl
  · split <;> rfl

/-- An isolated statement is all rows of a limited one, or the statement itself. -/
theorem statement_isolate (q : BaseQuery) : q.isolate.statement =
    if q.isolated = false ∧ q.statement.limitsRows = true then
      derivedFrom q.statement q.derivedAlias
    else q.statement := by
  unfold isolate
  cases q.isolated <;> cases q.statement.limitsRows <;> rfl

/-- The derived table of a limited statement takes the name of the base table. -/
theorem table_isolate (q : BaseQuery) : q.isolate.scope.table =
    if q.isolated = false ∧ q.statement.limitsRows = true then
      q.scope.table.map fun _ => q.derivedAlias
    else q.scope.table := by
  unfold isolate
  cases q.isolated <;> cases q.statement.limitsRows <;> rfl

/-- The isolated statement of a query has no limit when that of an isolated query has none. -/
theorem limitsRows_isolate {q : BaseQuery}
    (h : q.isolated = true → q.statement.limitsRows = false) :
    q.isolate.statement.limitsRows = false := by
  unfold isolate
  split
  · next hisolated => exact h hisolated
  · split
    · rfl
    · next hlimit => exact Bool.eq_false_iff.2 hlimit

/-! ## Additions isolate -/

section Additions

variable (q : BaseQuery)

@[simp] theorem isolate_isolate : q.isolate.isolate = q.isolate :=
  isolate_of_isolated q.isolated_isolate

@[simp] theorem isolate_modifyStatement (f : Select → Select) :
    (q.modifyStatement f).isolate = q.modifyStatement f :=
  isolate_of_isolated q.isolated_isolate

@[simp] theorem isolate_orderBy (sql : String) (values : List Value) :
    (q.orderBy sql values).isolate = q.orderBy sql values :=
  isolate_of_isolated q.isolated_isolate

@[simp] theorem isolate_paginate (page : Page) : (q.paginate page).isolate = q.paginate page :=
  isolate_of_isolated q.isolated_isolate

end Additions

/-! ## Fresh queries -/

/-- A query that no addition has touched. -/
structure Fresh (q : BaseQuery) : Prop where
  orders : q.orders = []
  page : q.page = none
  isolated : q.isolated = false

theorem fresh_ofStatement (s : Select) : (ofStatement s).Fresh := ⟨rfl, rfl, rfl⟩

theorem Fresh.withTable {q : BaseQuery} (h : q.Fresh) (table : String) :
    (q.withTable table).Fresh := ⟨h.orders, h.page, h.isolated⟩

theorem fresh_ofTable (table : String) : (ofTable table).Fresh := ⟨rfl, rfl, rfl⟩

theorem fresh_ofEntity (name : TableName) (s : Select) : (ofEntity name s).Fresh := ⟨rfl, rfl, rfl⟩

end ServerGrid.BaseQuery
