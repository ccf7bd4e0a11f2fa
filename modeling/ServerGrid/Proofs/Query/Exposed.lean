import ServerGrid.Column.Resolver
import ServerGrid.Proofs.Query.Additions

/-!
# Tables that column names are qualified by

The scope of a base query names tables, and its statement exposes some. Isolation renames the base
table after the derived table but leaves the tables of the relations as they are, and these are no
longer there outside. Main statement: `exposed_after_iff`, after additions the base table is always
exposed, and the table of a relation exactly when the statement was not wrapped, or the derived
table happens to have its name, or an addition joins it. `relation_out_of_sight` is a relation that
names a table which is out of sight.
-/

namespace ServerGrid

/-! ## What a statement exposes -/

/-- The names by which columns of the source may be qualified. -/
def Source.exposed : Source Select → List String
  | .nothing => []
  | .table name none => name.name :: (name.schema.map (· ++ "." ++ name.name)).toList
  | .table _ (some label) => [label]
  | .derived _ label => [label]

/-- The names of the tables in the FROM clause and in the joins. -/
def Select.exposed (s : Select) : List String := s.source.exposed ++ s.joins.map (·.table)

theorem Select.exposed_extend (s : Select) (joins : List Join) (conditions : List Condition) :
    (s.extend joins conditions).exposed = s.exposed ++ joins.map (·.table) := by
  change s.source.exposed ++ (s.joins ++ joins).map (·.table) = _
  rw [List.map_append, ← List.append_assoc]
  rfl

theorem QueryStep.mem_joined_iff {name : String} {steps : List QueryStep} :
    name ∈ (steps.filterMap join?).map (·.table) ↔
      ∃ relation on, .eagerLoad relation name on ∈ steps := by
  constructor
  · intro h
    obtain ⟨join, hjoin, rfl⟩ := List.mem_map.1 h
    obtain ⟨s, hs, hadded⟩ := List.mem_filterMap.1 hjoin
    cases s with
    | eagerLoad relation table on =>
      cases hadded
      exact ⟨relation, on, hs⟩
    | _ => cases hadded
  · rintro ⟨relation, on, hs⟩
    exact List.mem_map.2 ⟨⟨name, on⟩, List.mem_filterMap.2 ⟨_, hs, rfl⟩, rfl⟩

theorem lastSegment_of_not_mem {name : String} (h : '.' ∉ name.toList) :
    lastSegment name = name := by
  rw [lastSegment, Text.cutLast_eq_none_iff.2 h]

theorem lastSegment_lastSegment (name : String) :
    lastSegment (lastSegment name) = lastSegment name := by
  cases hcut : Text.cutLast '.' name with
  | none =>
    have hname := lastSegment_of_not_mem (Text.cutLast_eq_none_iff.1 hcut)
    rw [hname, hname]
  | some parts =>
    obtain ⟨before, last⟩ := parts
    have hlast : lastSegment name = last := by rw [lastSegment, hcut]
    rw [hlast, lastSegment_of_not_mem (Text.cutLast_eq_some_iff.1 hcut).2]

namespace BaseQuery

/-! ## What the scope knows -/

/-- The statement exposes every table that the scope names, the base table by its last segment. -/
structure Visible (q : BaseQuery) : Prop where
  table : ∀ table, q.scope.table = some table → lastSegment table ∈ q.statement.exposed
  relations : ∀ relation table, q.scope.eagerTable? relation = some table →
    table ∈ q.statement.exposed

theorem relations_isolate (q : BaseQuery) : q.isolate.scope.relations = q.scope.relations := by
  unfold isolate
  split
  · rfl
  · split <;> rfl

/-- A step keeps the relations that are known, or notes one more. -/
theorem eagerTable?_step {q : BaseQuery} {s : QueryStep} {relation table : String}
    (h : (q.step s).scope.eagerTable? relation = some table) :
    q.scope.eagerTable? relation = some table ∨ s = .registerRelation relation table ∨
      ∃ on, s = .eagerLoad relation table on := by
  have hisolate : q.isolate.scope.eagerTable? relation = q.scope.eagerTable? relation :=
    congrArg (Keyed.get? · relation) q.relations_isolate
  cases s with
  | registerRelation relation' table' =>
    change (q.scope.relations.set relation' table').get? relation = some table at h
    rw [Keyed.get?_set] at h
    split at h
    · next hsame =>
      cases hsame
      cases h
      exact .inr (.inl rfl)
    · exact .inl h
  | eagerLoad relation' table' on =>
    change (q.isolate.scope.relations.set relation' table').get? relation = some table at h
    rw [Keyed.get?_set] at h
    split at h
    · next hsame =>
      cases hsame
      cases h
      exact .inr (.inr ⟨on, rfl⟩)
    · exact .inl (hisolate ▸ h)
  | addCondition c => exact .inl (hisolate ▸ h)
  | andWhere p => exact .inl (hisolate ▸ h)
  | orderBy sql values => exact .inl (hisolate ▸ h)
  | paginate page => exact .inl (hisolate ▸ h)
  | isolate => exact .inl (hisolate ▸ h)
  | modifyStatement f => exact .inl (hisolate ▸ h)

theorem eagerTable?_after {q : BaseQuery} {steps : List QueryStep} {relation table : String}
    (h : (q.after steps).scope.eagerTable? relation = some table) :
    q.scope.eagerTable? relation = some table ∨ .registerRelation relation table ∈ steps ∨
      ∃ on, .eagerLoad relation table on ∈ steps := by
  induction steps using List.reverseRecOn with
  | nil => exact .inl h
  | append_singleton steps s ih =>
    rw [after_concat] at h
    obtain h | rfl | ⟨on, rfl⟩ := eagerTable?_step h
    · obtain h | h | ⟨on, h⟩ := ih h
      · exact .inl h
      · exact .inr (.inl (List.mem_append_left _ h))
      · exact .inr (.inr ⟨on, List.mem_append_left _ h⟩)
    · exact .inr (.inl (by simp))
    · exact .inr (.inr ⟨on, by simp⟩)

/-! ## What additions leave in sight -/

section Additions

variable {q : BaseQuery} {steps : List QueryStep}
  (hadds : ∀ s ∈ steps, ∀ f, s ≠ .modifyStatement f)
include hadds

theorem mem_exposed_of_wraps (h : q.Wraps steps) {name : String} :
    name ∈ (q.after steps).statement.exposed ↔
      name = q.derivedAlias ∨ ∃ relation on, .eagerLoad relation name on ∈ steps := by
  rw [(after_of_wraps hadds h).1, Select.exposed_extend, List.mem_append,
    QueryStep.mem_joined_iff]
  have halias : (derivedFrom q.statement q.derivedAlias).exposed = [q.derivedAlias] := rfl
  rw [halias, List.mem_singleton]

theorem mem_exposed_of_not_wraps (h : ¬q.Wraps steps) {name : String} :
    name ∈ (q.after steps).statement.exposed ↔
      name ∈ q.statement.exposed ∨ ∃ relation on, .eagerLoad relation name on ∈ steps := by
  rw [(after_of_not_wraps hadds h).1, Select.exposed_extend, List.mem_append,
    QueryStep.mem_joined_iff]

/-- The derived table takes the name that the base table is known by afterwards. -/
theorem lastSegment_mem_exposed (hq : q.Visible) {table : String}
    (h : (q.after steps).scope.table = some table) :
    lastSegment table ∈ (q.after steps).statement.exposed := by
  by_cases hwraps : q.Wraps steps
  · rw [(after_of_wraps hadds hwraps).2] at h
    obtain ⟨base, hbase, rfl⟩ := Option.map_eq_some_iff.1 h
    refine (mem_exposed_of_wraps hadds hwraps).2 (.inl ?_)
    rw [derivedAlias, hbase]
    exact lastSegment_lastSegment base
  · rw [(after_of_not_wraps hadds hwraps).2] at h
    exact (mem_exposed_of_not_wraps hadds hwraps).2 (.inl (hq.table table h))

end Additions

/-- **The base table stays in sight, and the table of a relation exactly when no derived table
hides it.** The statement starts with every table of the scope in sight, also those of relations
that are noted on the way. A table is hidden when the statement is wrapped, unless the derived table
has its name or it is joined again outside. What a column name of a request is qualified by is
always the base table or the table of a relation. -/
theorem exposed_after_iff {q : BaseQuery} (hq : q.Visible) {steps : List QueryStep}
    (hadds : ∀ s ∈ steps, ∀ f, s ≠ .modifyStatement f)
    (hnoted : ∀ relation table, .registerRelation relation table ∈ steps →
      table ∈ q.statement.exposed) :
    let r := q.after steps
    (∀ table, r.scope.table = some table → lastSegment table ∈ r.statement.exposed) ∧
    (∀ relation table, r.scope.eagerTable? relation = some table →
      (table ∈ r.statement.exposed ↔ ¬q.Wraps steps ∨ table = q.derivedAlias ∨
        ∃ relation on, .eagerLoad relation table on ∈ steps)) ∧
    ∀ (dialect : Dialect) (name table column : String),
      (Resolver.mk r.scope dialect).resolve name = .identifier (some table) column →
        r.scope.table = some table ∨ ∃ relation, r.scope.eagerTable? relation = some table := by
  intro r
  refine ⟨fun table => lastSegment_mem_exposed hadds hq, fun relation table hrelation => ?_, ?_⟩
  · by_cases hwraps : q.Wraps steps
    · rw [mem_exposed_of_wraps hadds hwraps]
      exact (or_iff_right (not_not_intro hwraps)).symm
    · refine iff_of_true ((mem_exposed_of_not_wraps hadds hwraps).2 ?_) (.inl hwraps)
      obtain h | h | ⟨on, h⟩ := eagerTable?_after hrelation
      · exact .inl (hq.relations relation table h)
      · exact .inl (hnoted relation table h)
      · exact .inr ⟨relation, on, h⟩
  · intro dialect name table column hresolve
    unfold Resolver.resolve at hresolve
    split at hresolve
    · cases hresolve
    · split at hresolve
      · next relation leaf _ =>
        split at hresolve
        · next found hfound =>
          cases hresolve
          refine .inr ⟨relation, ?_⟩
          by_cases haware : r.scope.relationAware = true
          · rwa [if_pos haware] at hfound
          · rw [if_neg haware] at hfound
            cases hfound
        · cases hresolve
      · exact .inl (ColumnExpr.identifier.inj hresolve).1

/-- Five users with their posts, which are joined already. -/
def usersWithPosts : BaseQuery :=
  let on : Condition := .ofPredicate (.compare .eq (.column (.qualified "posts" "user_id"))
    (.column (.qualified "users" "id")))
  ((ofStatement { Select.empty with
    items := [.column (.qualified "users" "id"), .column (.qualified "posts" "title")]
    source := .table ⟨none, "users"⟩ none
    joins := [⟨"posts", on⟩]
    limit := some 5 }).withTable "users").registerRelation "posts" "posts"

theorem visible_usersWithPosts : usersWithPosts.Visible where
  table := by
    intro table htable
    cases htable
    decide
  relations := by
    intro relation table hrelation
    change (if "posts" = relation then some "posts" else none) = some table at hrelation
    split at hrelation
    · cases hrelation
      decide
    · cases hrelation

/-- A column of the joined posts is still qualified by their table, which is inside the derived
table now. -/
theorem relation_out_of_sight :
    usersWithPosts.Visible ∧
      (usersWithPosts.after [.isolate]).scope.eagerTable? "posts" = some "posts" ∧
      (usersWithPosts.after [.isolate]).statement.exposed = ["users"] ∧
      (Resolver.mk (usersWithPosts.after [.isolate]).scope .sqlite).columnSql "posts.title" =
        "\"posts\".\"title\"" :=
  ⟨visible_usersWithPosts, by decide, by decide, by decide⟩

/-- The teams are joined outside and in sight, the posts are not. -/
theorem exposed_after_iff_usersWithPosts :
    let steps : List QueryStep := [.addCondition (.ofPredicate (.raw "1 = 1")),
      .eagerLoad "team" "teams" (.ofPredicate (.raw "true")), .paginate ⟨0, 10⟩]
    let r := usersWithPosts.after steps
    usersWithPosts.Visible ∧ usersWithPosts.Wraps steps ∧
      "users" ∈ r.statement.exposed ∧ "teams" ∈ r.statement.exposed ∧
      "posts" ∉ r.statement.exposed := by
  intro steps r
  have hadds : ∀ s ∈ steps, ∀ f, s ≠ .modifyStatement f := by
    simp [steps]
  have hnoted : ∀ relation table, .registerRelation relation table ∈ steps →
      table ∈ usersWithPosts.statement.exposed := by
    simp [steps]
  have hwraps : usersWithPosts.Wraps steps := ⟨rfl, rfl, .paginate ⟨0, 10⟩, by simp [steps], nofun⟩
  obtain ⟨htable, hrelations, -⟩ := exposed_after_iff visible_usersWithPosts hadds hnoted
  refine ⟨visible_usersWithPosts, hwraps, htable "users" rfl, ?_, fun hposts => ?_⟩
  · have hjoined : .eagerLoad "team" "teams" (.ofPredicate (.raw "true")) ∈ steps := by
      simp [steps]
    exact (hrelations "team" "teams" (by decide)).2 (.inr (.inr ⟨"team", _, hjoined⟩))
  · obtain h | h | ⟨relation, on, h⟩ := (hrelations "posts" "posts" (by decide)).1 hposts
    · exact h hwraps
    · exact absurd h (by decide)
    · simp [steps] at h

end BaseQuery

end ServerGrid
