import ServerGrid.Proofs.Search.Narrowing
import ServerGrid.Proofs.Sql.Rows

/-!
# How far a condition reaches

A condition goes into the WHERE clause of the first SELECT. It reaches the whole result of a
statement that is isolated by the addition, and of one whose members can only take rows away; the
rows that a UNION member brings in are never tested. Main statement: `forall_rows_addCondition_iff`
says that those rows decide, for a single condition and for the searches.
`exists_row_past_addCondition` is a row that slips through.
-/

namespace ServerGrid.BaseQuery

variable {ρ : Type} [DecidableEq ρ] (t : Tables ρ) (backend : Backend)

/-- Members bring in nothing when none of them is a union. -/
theorem strayRows_eq_nil {s : Select}
    (h : ∀ o ∈ Select.operands t backend s.members, o.1.isUnion = false) :
    s.strayRows t backend = [] :=
  Operands.combined_nil backend h

theorem members_isolate_of_limited {q : BaseQuery} (hisolated : q.isolated = false)
    (hlimit : q.statement.limitsRows = true) : q.isolate.statement.members = [] := by
  rw [isolate, hisolated, hlimit]
  rfl

/-- What a step asks for is met by all rows exactly when the members bring in no row that does not
meet it. -/
theorem Narrows.forall_rows_iff {q : BaseQuery} {found : BaseQuery × Bool}
    {asked : (Predicate → Bool) → Bool} (h : q.Narrows found asked)
    (hq : q.isolated = true → q.statement.limitsRows = false) :
    (∀ row ∈ found.1.statement.rows t backend, asked (t.truth row) = true) ↔
      ∀ row ∈ q.isolate.statement.strayRows t backend, asked (t.truth row) = true := by
  obtain ⟨-, hall⟩ | ⟨filter, rfl, hadmits⟩ := h
  · exact iff_of_true (fun row _ => hall _) fun row _ => hall _
  · refine Select.forall_rows_iff t backend (s := (q.withFilter filter).statement)
      (fun row => asked (t.truth row)) (fun row hrow => ?_) (limitsRows_isolate hq)
    have htrue := (List.mem_filter.1 hrow).2
    rw [hadmits, Bool.and_eq_true] at htrue
    exact htrue.2

/-- **A condition reaches a whole result exactly when the members bring in no row against it.** The
same holds of what both searches ask for, and so of the rows that are fetched and counted after
them. Members bring in nothing at all when the statement was limited, and so is isolated by the
addition, or when no operand is a union. -/
theorem forall_rows_addCondition_iff (q : BaseQuery)
    (hq : q.isolated = true → q.statement.limitsRows = false) :
    (∀ c : Condition,
      (∀ row ∈ (q.addCondition c).statement.rows t backend, c.holds (t.truth row) = true) ↔
        ∀ row ∈ q.isolate.statement.strayRows t backend, c.holds (t.truth row) = true) ∧
    (∀ ctx : SearchContext,
      (∀ row ∈ (q.searched ctx).1.statement.rows t backend,
        (ctx.meetsColumns (t.truth row) && ctx.meetsKeyword (t.truth row)) = true) ↔
        ∀ row ∈ q.isolate.statement.strayRows t backend,
          (ctx.meetsColumns (t.truth row) && ctx.meetsKeyword (t.truth row)) = true) ∧
    ((q.isolated = false ∧ q.statement.limitsRows = true ∨
        ∀ o ∈ Select.operands t backend q.statement.members, o.1.isUnion = false) →
      q.isolate.statement.strayRows t backend = []) := by
  refine ⟨fun c => (q.narrows_addCondition c).forall_rows_iff t backend hq,
    fun ctx => (q.narrows_searched ctx).forall_rows_iff t backend hq, fun h => ?_⟩
  apply strayRows_eq_nil
  by_cases hlimited : q.isolated = false ∧ q.statement.limitsRows = true
  · rw [members_isolate_of_limited hlimited.1 hlimited.2]
    exact fun o ho => nomatch ho
  · have hsame : q.isolate.statement = q.statement := by
      unfold isolate
      split
      · rfl
      · next hisolated =>
        rw [if_neg fun hlimit => hlimited ⟨Bool.eq_false_iff.2 hisolated, hlimit⟩]
    rw [hsame]
    exact h.resolve_left hlimited

/-! ## A row that slips through -/

/-- Two tables of names: `users` holds one name, every other table another. -/
def nameTables : Tables String where
  scan s :=
    match s.source with
    | .table name _ => if name.name = "users" then ["ann"] else ["bob"]
    | _ => []
  truth row p := p == .compare .eq (.column (.bare "name")) (.value (.ofString row))
  sort _ rows := rows
  sort_perm _ _ := .refl _

/-- The names of a table. -/
def namesOf (table : String) : Select :=
  { Select.empty with items := [.column (.bare "name")], source := .table ⟨none, table⟩ none }

/-- The names of two tables together. -/
def namesOfBoth : BaseQuery :=
  .ofStatement { namesOf "users" with members := [(.unionAll, namesOf "admins")] }

/-- A row with a given name. -/
def named (name : String) : Condition :=
  .ofPredicate (.compare .eq (.column (.bare "name")) (.value (.ofString name)))

/-- The second table's row is in the result of a query for the first table's name. -/
theorem exists_row_past_addCondition :
    "bob" ∈ (namesOfBoth.addCondition (named "ann")).statement.rows nameTables .sqlite ∧
      (named "ann").holds (nameTables.truth "bob") = false := by
  decide

/-- The rows that decide for the two tables: the union brings in the second name. -/
theorem forall_rows_namesOfBoth_iff :
    (namesOfBoth.isolated = true → namesOfBoth.statement.limitsRows = false) ∧
      namesOfBoth.isolate.statement.strayRows nameTables .sqlite = ["bob"] ∧
      ((∀ row ∈ (namesOfBoth.addCondition (named "ann")).statement.rows nameTables .sqlite,
          (named "ann").holds (nameTables.truth row) = true) ↔
        ∀ row ∈ namesOfBoth.isolate.statement.strayRows nameTables .sqlite,
          (named "ann").holds (nameTables.truth row) = true) :=
  ⟨by decide, by decide,
    (forall_rows_addCondition_iff nameTables .sqlite namesOfBoth (by decide)).1 (named "ann")⟩

end ServerGrid.BaseQuery
