import ServerGrid.Proofs.Query.Steps
import ServerGrid.Proofs.Sql.Truth
import ServerGrid.Proofs.Text.Cutting
import ServerGrid.Sql.Inlined

/-!
# What additions leave of a statement

Every step acts on the isolated statement (`statement_isolate_step`), so that a sequence of steps
does what its steps do to the statement isolated once (`statement_isolate_after`). The steps that
only add leave the joins and the conditions of that statement, followed by their own. Main
statement: `after_additions`, a limited statement ends up unchanged inside one derived table with
all that was added outside, and any other statement is added to itself.
-/

namespace ServerGrid

/-! ## Whether a statement limits its rows -/

/-- The text of pieces with literals in place of the placeholders. -/
def Piece.literalText (backend : Backend) : List Piece → String
  | [] => ""
  | .text s :: rest | .raw s :: rest => s ++ literalText backend rest
  | .name s :: rest => Identifier.quoted backend.quote s ++ literalText backend rest
  | .param v :: rest => v.literal backend ++ literalText backend rest

theorem Piece.literalText_append (backend : Backend) (a b : List Piece) :
    literalText backend (a ++ b) = literalText backend a ++ literalText backend b := by
  induction a with
  | nil => simp [literalText]
  | cons p a ih => cases p <;> simp [literalText, ih, String.append_assoc]

namespace Select

def literalText (backend : Backend) (s : Select) : String :=
  Piece.literalText backend (s.pieces backend)

theorem literalText_limitPieces_eq_empty_iff (backend : Backend) (s : Select) :
    Piece.literalText backend s.limitPieces = "" ↔ s.limitsRows = false := by
  have hword : ∀ (word rest : String), word ≠ "" → word ++ rest ≠ "" := by
    intro word rest hword hempty
    exact hword (String.append_eq_empty_iff.1 hempty).1
  unfold limitPieces limitsRows
  cases s.limit with
  | some n => exact iff_of_false (hword " LIMIT " _ (by decide)) (by simp)
  | none =>
    cases s.offset with
    | some n => exact iff_of_false (hword " OFFSET " _ (by decide)) (by simp)
    | none => exact iff_of_true rfl rfl

/-- A statement limits its rows when it is written differently without its limit and offset. Limits
of statements inside it are written in both. -/
theorem limitsRows_iff_literalText_ne (backend : Backend) (s : Select) :
    s.limitsRows = true ↔ s.withoutLimit.literalText backend ≠ s.literalText backend := by
  have hsplit : s.literalText backend =
      s.withoutLimit.literalText backend ++ Piece.literalText backend s.limitPieces := by
    rw [literalText, pieces_eq_append_limitPieces, Piece.literalText_append]
    rfl
  have hsame : s.withoutLimit.literalText backend = s.literalText backend ↔
      s.limitsRows = false := by
    rw [hsplit, eq_comm, String.append_eq_left_iff, literalText_limitPieces_eq_empty_iff]
  rw [ne_eq, hsame, Bool.not_eq_false]

end Select

/-! ## What a step adds -/

namespace QueryStep

/-- The join that a step adds. -/
def join? : QueryStep → Option Join
  | .eagerLoad _ table on => some ⟨table, on⟩
  | _ => none

/-- The condition that a step adds. -/
def condition? : QueryStep → Option Condition
  | .addCondition c => some c
  | .andWhere p => some (.ofPredicate p)
  | _ => none

end QueryStep

/-- A WHERE clause narrowed by conditions in order. -/
def Condition.conjoinAll (current : Option Condition) (added : List Condition) :
    Option Condition :=
  added.foldl (fun current c => some (conjoin current c)) current

theorem Condition.holds?_conjoinAll (truth : Predicate → Bool) (added : List Condition) :
    ∀ current : Option Condition, holds? truth (conjoinAll current added) =
      (holds? truth current && added.all (·.holds truth)) := by
  induction added with
  | nil => intro current; exact (Bool.and_true _).symm
  | cons c rest ih =>
    intro current
    have hfirst : conjoinAll current (c :: rest) = conjoinAll (some (conjoin current c)) rest := rfl
    have hc : holds? truth (some (conjoin current c)) = (conjoin current c).holds truth := rfl
    rw [hfirst, ih, hc, holds_conjoin, List.all_cons, Bool.and_assoc]

/-- The statement with further joins and conditions. -/
def Select.extend (s : Select) (joins : List Join) (conditions : List Condition) : Select :=
  { s with joins := s.joins ++ joins, filter := Condition.conjoinAll s.filter conditions }

@[simp] theorem Select.extend_nil (s : Select) : s.extend [] [] = s := by
  cases s
  simp [extend, Condition.conjoinAll]

theorem Select.admits_extend (truth : Predicate → Bool) (s : Select) (joins : List Join)
    (conditions : List Condition) : (s.extend joins conditions).admits truth =
      (s.admits truth && conditions.all (·.holds truth)) := by
  rw [admits_eq_holds, admits_eq_holds]
  exact Condition.holds?_conjoinAll truth conditions s.filter

/-- Steps that only add leave the statement with their joins and conditions, in order. -/
theorem QueryStep.foldl_apply {steps : List QueryStep}
    (hadds : ∀ s ∈ steps, ∀ f, s ≠ .modifyStatement f) :
    ∀ t : Select, steps.foldl apply t = t.extend (steps.filterMap join?)
      (steps.filterMap condition?) := by
  induction steps with
  | nil =>
    intro t
    exact t.extend_nil.symm
  | cons s rest ih =>
    intro t
    have hrest := ih fun s hs => hadds s (List.mem_cons_of_mem _ hs)
    have hs := hadds s List.mem_cons_self
    rw [List.foldl_cons, hrest]
    cases s with
    | modifyStatement f => exact absurd rfl (hs f)
    | eagerLoad relation table on =>
      have hconditions : (eagerLoad relation table on :: rest).filterMap condition? =
          rest.filterMap condition? := rfl
      simp [apply, Select.leftJoin, Select.extend, join?, hconditions]
    | _ => rfl

namespace BaseQuery

theorem scope_isolate_registerRelation (q : BaseQuery) (relation table : String) :
    (q.registerRelation relation table).isolate.scope =
      q.isolate.scope.register relation table := by
  unfold isolate registerRelation
  cases q.isolated with
  | true => rfl
  | false => cases q.statement.limitsRows <;> rfl

/-- No step changes the base table once it is that of the isolated query. -/
theorem table_isolate_step (q : BaseQuery) (s : QueryStep) :
    (q.step s).isolate.scope.table = q.isolate.scope.table := by
  have hmodify : ∀ f, (q.modifyStatement f).isolate.scope.table = q.isolate.scope.table := by
    intro f
    rw [isolate_modifyStatement]
    rfl
  cases s with
  | addCondition c => exact hmodify _
  | andWhere p => exact hmodify _
  | modifyStatement f => exact hmodify f
  | orderBy sql values =>
    change (q.orderBy sql values).isolate.scope.table = _
    rw [isolate_orderBy]
    rfl
  | paginate page =>
    change (q.paginate page).isolate.scope.table = _
    rw [isolate_paginate]
    rfl
  | eagerLoad relation table on =>
    change ((q.modifyStatement _).registerRelation relation table).isolate.scope.table = _
    rw [scope_isolate_registerRelation]
    exact hmodify _
  | registerRelation relation table =>
    change (q.registerRelation relation table).isolate.scope.table = _
    rw [scope_isolate_registerRelation]
    rfl
  | isolate =>
    change q.isolate.isolate.scope.table = _
    rw [isolate_isolate]

/-! ## What a sequence of steps does -/

theorem statement_isolate_after (q : BaseQuery) (steps : List QueryStep) :
    (q.after steps).isolate.statement = steps.foldl QueryStep.apply q.isolate.statement := by
  induction steps using List.reverseRecOn with
  | nil => rfl
  | append_singleton steps s ih =>
    rw [after_concat, statement_isolate_step, ih, List.foldl_append]
    rfl

theorem table_isolate_after (q : BaseQuery) (steps : List QueryStep) :
    (q.after steps).isolate.scope.table = q.isolate.scope.table := by
  induction steps using List.reverseRecOn with
  | nil => rfl
  | append_singleton steps s ih => rw [after_concat, table_isolate_step, ih]

theorem isolated_after {q : BaseQuery} {steps : List QueryStep}
    (h : q.isolated = true ∨ ∃ s ∈ steps, ∀ relation table, s ≠ .registerRelation relation table) :
    (q.after steps).isolated = true := by
  induction steps using List.reverseRecOn with
  | nil =>
    obtain h | ⟨s, hs, -⟩ := h
    · exact h
    · cases hs
  | append_singleton steps s ih =>
    rw [after_concat]
    obtain hisolated | ⟨relation, table, rfl⟩ := (q.after steps).isolated_step s
    · exact hisolated
    · -- the note of a relation leaves the flag as the steps before have set it
      refine ih (h.imp_right ?_)
      rintro ⟨s, hs, hother⟩
      obtain hs | hs := List.mem_append.1 hs
      · exact ⟨s, hs, hother⟩
      · exact absurd (List.mem_singleton.1 hs) (hother relation table)

/-- Notes of relations leave the statement and the base table alone. -/
theorem after_notes (q : BaseQuery) {steps : List QueryStep}
    (h : ∀ s ∈ steps, ∃ relation table, s = .registerRelation relation table) :
    (q.after steps).statement = steps.foldl QueryStep.apply q.statement ∧
      (q.after steps).scope.table = q.scope.table := by
  induction steps using List.reverseRecOn with
  | nil => exact ⟨rfl, rfl⟩
  | append_singleton steps s ih =>
    obtain ⟨relation, table, rfl⟩ := h s (by simp)
    obtain ⟨hstatement, htable⟩ := ih fun s hs => h s (List.mem_append_left _ hs)
    rw [after_concat, List.foldl_append, ← hstatement]
    exact ⟨rfl, htable⟩

/-! ## Steps that only add -/

/-- The statement is moved into a derived table by one of the steps. -/
def Wraps (q : BaseQuery) (steps : List QueryStep) : Prop :=
  q.isolated = false ∧ q.statement.limitsRows = true ∧
    ∃ s ∈ steps, ∀ relation table, s ≠ .registerRelation relation table

section Additions

variable {q : BaseQuery} {steps : List QueryStep}
  (hadds : ∀ s ∈ steps, ∀ f, s ≠ .modifyStatement f)
include hadds

theorem after_of_wraps (h : q.Wraps steps) :
    (q.after steps).statement = (derivedFrom q.statement q.derivedAlias).extend
        (steps.filterMap QueryStep.join?) (steps.filterMap QueryStep.condition?) ∧
      (q.after steps).scope.table = q.scope.table.map fun _ => q.derivedAlias := by
  obtain ⟨hq, hlimit, hsome⟩ := h
  rw [← isolate_of_isolated (isolated_after (.inr hsome)), statement_isolate_after,
    table_isolate_after, QueryStep.foldl_apply hadds, statement_isolate, table_isolate,
    if_pos ⟨hq, hlimit⟩, if_pos ⟨hq, hlimit⟩]
  exact ⟨rfl, rfl⟩

theorem after_of_not_wraps (h : ¬q.Wraps steps) :
    (q.after steps).statement = q.statement.extend
        (steps.filterMap QueryStep.join?) (steps.filterMap QueryStep.condition?) ∧
      (q.after steps).scope.table = q.scope.table := by
  by_cases hsome : ∃ s ∈ steps, ∀ relation table, s ≠ .registerRelation relation table
  · have hlimit : ¬(q.isolated = false ∧ q.statement.limitsRows = true) :=
      fun hlimit => h ⟨hlimit.1, hlimit.2, hsome⟩
    rw [← isolate_of_isolated (isolated_after (.inr hsome)), statement_isolate_after,
      table_isolate_after, QueryStep.foldl_apply hadds, statement_isolate, table_isolate,
      if_neg hlimit, if_neg hlimit]
    exact ⟨rfl, rfl⟩
  · push Not at hsome
    rw [← QueryStep.foldl_apply hadds]
    exact q.after_notes hsome

end Additions

end BaseQuery

/-! ## Derived tables -/

/-- The last segment is what stands after the last dot. -/
theorem getLast?_segments (name : String) :
    (Text.segments '.' name).getLast? = some (lastSegment name) := by
  unfold lastSegment Text.segments
  cases hcut : Text.cutLast '.' name with
  | none =>
    rw [Text.segmentsList_of_not_mem (Text.cutLast_eq_none_iff.1 hcut)]
    exact congrArg some String.ofList_toList
  | some parts =>
    obtain ⟨before, last⟩ := parts
    obtain ⟨hname, hlast⟩ := Text.cutLast_eq_some_iff.1 hcut
    rw [hname, Text.segmentsList_append, Text.segmentsList_of_not_mem hlast, List.map_append,
      List.map_singleton, List.getLast?_concat, String.ofList_toList]

/-- A statement over a derived table: the text begins with that table, and the values are its own
and those of what follows. -/
theorem Select.statement_extend_derivedFrom (backend : Backend) (body : Select) (label : String)
    (joins : List Join) (conditions : List Condition) :
    let clauses := joins.flatMap (Join.pieces backend) ++
      conditionPieces backend " WHERE " (Condition.conjoinAll none conditions)
    ((BaseQuery.derivedFrom body label).extend joins conditions).statement backend =
      ⟨"SELECT * FROM (" ++ (body.statement backend).sql ++ ") AS " ++
          Identifier.quoted backend.quote label ++
          Piece.sqlFrom backend (body.statement backend).values.length clauses,
        (body.statement backend).values ++ Piece.values clauses⟩ := by
  intro clauses
  have hpieces : ((BaseQuery.derivedFrom body label).extend joins conditions).pieces backend =
      [.text "SELECT ", .text "*", .text " FROM ", .text "("] ++ body.pieces backend ++
        [.text ")", .text " AS ", .name label] ++ clauses := by
    simp [BaseQuery.derivedFrom, extend, empty, pieces, Source.pieces, membersPieces,
      SelectItem.pieces, ColumnRef.pieces, Piece.separated, Piece.parenthesised, labelPieces,
      listPieces, boundPieces, clauses]
    rfl
  have hclose : ")" ++ (" AS " ++ Identifier.quoted backend.quote label) =
      ") AS " ++ Identifier.quoted backend.quote label := by
    rw [← String.append_assoc]
    rfl
  rw [statement, hpieces]
  simp only [Piece.statement, Piece.sqlFrom_append, Piece.values_append]
  simp [Piece.sqlFrom, Piece.values, hclose, String.append_assoc, statement, Piece.statement]

namespace BaseQuery

/-- **A limited statement is isolated once and stays as it is.** After steps that only add, at least
one of which is not the mere note of a relation, the statement of the caller is the body of the one
derived table, named by the last segment of the base table, and all joins and conditions stand
outside, in order. A statement without a limit of its own is not moved, and takes the joins and
conditions itself. -/
theorem after_additions {q : BaseQuery} (hq : q.isolated = false) {steps : List QueryStep}
    (hadds : ∀ s ∈ steps, ∀ f, s ≠ .modifyStatement f)
    (hsome : ∃ s ∈ steps, ∀ relation table, s ≠ .registerRelation relation table) :
    let s := q.statement
    let r := q.after steps
    let joins := steps.filterMap QueryStep.join?
    let conditions := steps.filterMap QueryStep.condition?
    (s.limitsRows = true ↔ s.withoutLimit.literalText .sqlite ≠ s.literalText .sqlite) ∧
    (s.limitsRows = true → ∃ label,
      (∀ table, q.scope.table = some table →
        (Text.segments '.' table).getLast? = some label) ∧
      (q.scope.table = none → label = "base_query") ∧
      r.statement = { Select.empty with
        items := [.column .all]
        source := .derived s label
        joins := joins
        filter := Condition.conjoinAll none conditions } ∧
      (∀ truth, r.statement.admits truth = conditions.all (·.holds truth)) ∧
      (∀ backend,
        let clauses := joins.flatMap (Join.pieces backend) ++
          conditionPieces backend " WHERE " (Condition.conjoinAll none conditions)
        r.statement.statement backend =
          ⟨"SELECT * FROM (" ++ (s.statement backend).sql ++ ") AS " ++
              Identifier.quoted backend.quote label ++
              Piece.sqlFrom backend (s.statement backend).values.length clauses,
            (s.statement backend).values ++ Piece.values clauses⟩) ∧
      r.scope.table = q.scope.table.map fun _ => label) ∧
    (s.limitsRows = false →
      r.statement = { s with
        joins := s.joins ++ joins
        filter := Condition.conjoinAll s.filter conditions } ∧
      (∀ truth, r.statement.admits truth =
        (s.admits truth && conditions.all (·.holds truth))) ∧
      r.scope.table = q.scope.table) ∧
    r.isolate = r := by
  intro s r joins conditions
  refine ⟨s.limitsRows_iff_literalText_ne .sqlite, fun hlimit => ?_, fun hlimit => ?_,
    isolate_of_isolated (isolated_after (.inr hsome))⟩
  · obtain ⟨hstatement, htable⟩ := after_of_wraps hadds ⟨hq, hlimit, hsome⟩
    refine ⟨q.derivedAlias, fun table hbase => ?_, fun hbase => ?_, hstatement, fun truth => ?_,
      fun backend => ?_, htable⟩
    · rw [getLast?_segments, derivedAlias, hbase]
    · rw [derivedAlias, hbase]
      rfl
    · rw [hstatement, Select.admits_extend]
      rfl
    · rw [hstatement]
      exact Select.statement_extend_derivedFrom backend s q.derivedAlias joins conditions
  · have hwraps : ¬q.Wraps steps := fun h => Bool.false_ne_true (hlimit.symm.trans h.2.1)
    obtain ⟨hstatement, htable⟩ := after_of_not_wraps hadds hwraps
    refine ⟨hstatement, fun truth => ?_, htable⟩
    rw [hstatement, Select.admits_extend]

/-- The five latest users of a schema. -/
def latestUsers : BaseQuery :=
  (ofStatement { Select.empty with
    items := [.column (.bare "name")]
    source := .table ⟨some "app", "users"⟩ none
    orderBy := [⟨.bare "id", true⟩]
    limit := some 5 }).withTable "app.users"

/-- A relation is noted, and all kinds of additions follow. -/
def joinsAndConditions : List QueryStep :=
  [.registerRelation "team" "teams", .orderBy "id" [],
    .andWhere (.isNotNull (.column (.bare "name"))),
    .eagerLoad "posts" "posts" (.ofPredicate (.compare .eq (.column (.qualified "posts" "author"))
      (.column (.qualified "users" "name")))),
    .paginate ⟨0, 10⟩, .addCondition (.ofPredicate (.raw "1 = 1")), .isolate]

/-- All that is added stands outside the derived table, which is there once. -/
theorem after_additions_latestUsers :
    latestUsers.isolated = false ∧ latestUsers.statement.limitsRows = true ∧
      (latestUsers.after joinsAndConditions).scope.table = some "users" ∧
      ((latestUsers.after joinsAndConditions).statement.statement .postgres).sql =
        "SELECT * FROM (SELECT \"name\" FROM \"app\".\"users\" ORDER BY \"id\" DESC LIMIT $1) " ++
          "AS \"users\" LEFT JOIN \"posts\" ON \"posts\".\"author\" = \"users\".\"name\" " ++
          "WHERE \"name\" IS NOT NULL AND (1 = 1)" := by
  have hadds : ∀ s ∈ joinsAndConditions, ∀ f, s ≠ .modifyStatement f := by
    simp [joinsAndConditions]
  have hsome : ∃ s ∈ joinsAndConditions, ∀ relation table, s ≠ .registerRelation relation table :=
    ⟨.isolate, by simp [joinsAndConditions], nofun⟩
  obtain ⟨label, hlabel, -, -, -, -, htable⟩ :=
    (after_additions (q := latestUsers) rfl hadds hsome).2.1 rfl
  have hlast : some "users" = some label := hlabel "app.users" rfl
  exact ⟨rfl, rfl, hlast ▸ htable, by decide +kernel⟩

end BaseQuery

end ServerGrid
