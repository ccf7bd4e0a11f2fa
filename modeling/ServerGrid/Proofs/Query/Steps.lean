import Mathlib.Data.List.Induction
import ServerGrid.Proofs.Query.Isolation

/-!
# Sort keys and pages after a limit

A base query is changed step by step, by the application and by the engine. The statement is checked
for a limit of its own at the first step only. So its limit is out of the way of all later sort keys
and pages when the caller's statement had it from the start, but not when a change of the statement
sets it later. Main statement: `build_after`, the text is the statement without its limit, that
limit, the sort keys and the page, and there is such a limit exactly when the last change of the
statement leaves one. `limit_before_page` is a page that comes after one.
-/

namespace ServerGrid

/-- A change of a base query. -/
inductive QueryStep where
  | addCondition (c : Condition)
  | andWhere (p : Predicate)
  | orderBy (sql : String) (values : List Value)
  | paginate (page : Page)
  | eagerLoad (relation table : String) (on : Condition)
  | registerRelation (relation table : String)
  | isolate
  /-- Any change of the statement itself, such as setting its limit. -/
  | modifyStatement (f : Select → Select)

/-- What a step does to the isolated statement. -/
def QueryStep.apply (s : Select) : QueryStep → Select
  | .addCondition c => s.conjoin c
  | .andWhere p => s.conjoin (.ofPredicate p)
  | .eagerLoad _ table on => s.leftJoin table on
  | .modifyStatement f => f s
  | .orderBy .. | .paginate _ | .registerRelation .. | .isolate => s

namespace BaseQuery

def step (q : BaseQuery) : QueryStep → BaseQuery
  | .addCondition c => q.addCondition c
  | .andWhere p => q.andWhere p
  | .orderBy sql values => q.orderBy sql values
  | .paginate page => q.paginate page
  | .eagerLoad relation table on => q.eagerLoad relation table on
  | .registerRelation relation table => q.registerRelation relation table
  | .isolate => q.isolate
  | .modifyStatement f => q.modifyStatement f

/-- The query after steps in order. -/
def after (q : BaseQuery) (steps : List QueryStep) : BaseQuery := steps.foldl step q

theorem after_concat (q : BaseQuery) (steps : List QueryStep) (s : QueryStep) :
    q.after (steps ++ [s]) = (q.after steps).step s := by
  rw [after, List.foldl_append]
  rfl

/-! ## What one step does -/

/-- Every step but the note of a relation isolates the query. -/
theorem isolated_step (q : BaseQuery) (s : QueryStep) :
    (q.step s).isolated = true ∨ ∃ relation table, s = .registerRelation relation table := by
  cases s with
  | registerRelation relation table => exact .inr ⟨relation, table, rfl⟩
  | _ => exact .inl q.isolated_isolate

/-- Sort keys and a page are there only when the statement has been checked. -/
def Checked (q : BaseQuery) : Prop :=
  q.orders ≠ [] ∨ q.page ≠ none → q.isolated = true

theorem Fresh.checked {q : BaseQuery} (h : q.Fresh) : q.Checked := by
  rintro (horders | hpage)
  · exact absurd h.orders horders
  · exact absurd h.page hpage

theorem Checked.step {q : BaseQuery} (h : q.Checked) (s : QueryStep) : (q.step s).Checked := by
  obtain hisolated | ⟨relation, table, rfl⟩ := q.isolated_step s
  · exact fun _ => hisolated
  · exact h

theorem Checked.after {q : BaseQuery} (h : q.Checked) (steps : List QueryStep) :
    (q.after steps).Checked := by
  induction steps using List.reverseRecOn with
  | nil => exact h
  | append_singleton steps s ih =>
    rw [after_concat]
    exact ih.step s

/-- The note of a relation makes no difference to the isolated statement. -/
theorem statement_isolate_registerRelation (q : BaseQuery) (relation table : String) :
    (q.registerRelation relation table).isolate.statement = q.isolate.statement := by
  unfold isolate registerRelation
  cases q.isolated with
  | true => rfl
  | false => cases q.statement.limitsRows <;> rfl

theorem statement_isolate_step (q : BaseQuery) (s : QueryStep) :
    (q.step s).isolate.statement = s.apply q.isolate.statement := by
  have hmodify : ∀ f, (q.modifyStatement f).isolate.statement = f q.isolate.statement := by
    intro f
    rw [isolate_modifyStatement]
    rfl
  cases s with
  | addCondition c => exact hmodify _
  | andWhere p => exact hmodify _
  | modifyStatement f => exact hmodify f
  | orderBy sql values =>
    change (q.orderBy sql values).isolate.statement = _
    rw [isolate_orderBy]
    rfl
  | paginate page =>
    change (q.paginate page).isolate.statement = _
    rw [isolate_paginate]
    rfl
  | eagerLoad relation table on =>
    change ((q.modifyStatement _).registerRelation relation table).isolate.statement = _
    rw [statement_isolate_registerRelation]
    exact hmodify _
  | registerRelation relation table => exact q.statement_isolate_registerRelation relation table
  | isolate =>
    change q.isolate.isolate.statement = _
    rw [isolate_isolate]
    rfl

/-- Only a change of the statement itself can set its limit. -/
theorem limitsRows_step (q : BaseQuery) {s : QueryStep} (hs : ∀ f, s ≠ .modifyStatement f) :
    (q.step s).isolate.statement.limitsRows = q.isolate.statement.limitsRows := by
  rw [statement_isolate_step]
  cases s with
  | modifyStatement f => exact absurd rfl (hs f)
  | _ => rfl

/-! ## What a sequence of steps does -/

/-- The last change of the statement itself leaves a limit. -/
def LastChangeLimits (q : BaseQuery) (steps : List QueryStep) : Prop :=
  ∃ before f rest, steps = before ++ .modifyStatement f :: rest ∧
    (∀ g, .modifyStatement g ∉ rest) ∧ (f (q.after before).isolate.statement).limitsRows = true

theorem lastChangeLimits_concat_modify (q : BaseQuery) (steps : List QueryStep)
    (f : Select → Select) : q.LastChangeLimits (steps ++ [.modifyStatement f]) ↔
      (f (q.after steps).isolate.statement).limitsRows = true := by
  constructor
  · rintro ⟨before, g, rest, hsteps, hrest, hlimit⟩
    -- the steps after the last change are none, as the sequence ends with a change
    obtain rfl | ⟨init, last, rfl⟩ := List.eq_nil_or_concat rest
    · obtain ⟨rfl, hlast⟩ := List.append_inj' hsteps rfl
      cases hlast
      exact hlimit
    · rw [List.concat_eq_append, ← List.cons_append, ← List.append_assoc] at hsteps
      obtain ⟨-, hlast⟩ := List.append_inj' hsteps rfl
      cases hlast
      exact absurd (by simp) (hrest f)
  · intro hlimit
    exact ⟨steps, f, [], rfl, fun _ => List.not_mem_nil, hlimit⟩

theorem lastChangeLimits_concat (q : BaseQuery) (steps : List QueryStep) {s : QueryStep}
    (hs : ∀ f, s ≠ .modifyStatement f) :
    q.LastChangeLimits (steps ++ [s]) ↔ q.LastChangeLimits steps := by
  constructor
  · rintro ⟨before, g, rest, hsteps, hrest, hlimit⟩
    obtain rfl | ⟨init, last, rfl⟩ := List.eq_nil_or_concat rest
    · obtain ⟨-, hlast⟩ := List.append_inj' hsteps rfl
      cases hlast
      exact absurd rfl (hs g)
    · rw [List.concat_eq_append, ← List.cons_append, ← List.append_assoc] at hsteps
      obtain ⟨hinit, -⟩ := List.append_inj' hsteps rfl
      exact ⟨before, g, init, hinit, fun k hk => hrest k (by simp [hk]), hlimit⟩
  · rintro ⟨before, g, rest, rfl, hrest, hlimit⟩
    refine ⟨before, g, rest ++ [s], by simp, fun k hk => ?_, hlimit⟩
    obtain hk | hk := List.mem_append.1 hk
    · exact hrest k hk
    · exact hs k (List.mem_singleton.1 hk).symm

theorem limitsRows_after_iff {q : BaseQuery} (hq : q.Fresh) (steps : List QueryStep) :
    (q.after steps).isolate.statement.limitsRows = true ↔ q.LastChangeLimits steps := by
  -- from the end of the sequence: a change decides by itself, any other step keeps what was there
  induction steps using List.reverseRecOn with
  | nil =>
    have hnone : q.isolate.statement.limitsRows = false :=
      limitsRows_isolate fun hisolated => by rw [hq.isolated] at hisolated; cases hisolated
    refine iff_of_false ?_ ?_
    · change ¬q.isolate.statement.limitsRows = true
      rw [hnone]
      exact Bool.false_ne_true
    · rintro ⟨before, f, rest, hnil, -, -⟩
      cases before <;> cases hnil
  | append_singleton steps s ih =>
    rw [after_concat]
    by_cases hs : ∃ f, s = .modifyStatement f
    · obtain ⟨f, rfl⟩ := hs
      rw [lastChangeLimits_concat_modify]
      change ((q.after steps).modifyStatement f).isolate.statement.limitsRows = true ↔ _
      rw [isolate_modifyStatement]
      rfl
    · have hother : ∀ f, s ≠ .modifyStatement f := fun f hf => hs ⟨f, hf⟩
      rw [limitsRows_step _ hother, lastChangeLimits_concat q steps hother]
      exact ih

end BaseQuery

/-! ## The text of a limit -/

namespace Select

def withoutLimit (s : Select) : Select := { s with limit := none, offset := none }

/-- The limit and the offset of the statement itself. -/
def limitPieces (s : Select) : List Piece :=
  boundPieces " LIMIT " s.limit ++ boundPieces " OFFSET " s.offset

/-- What the limit and the offset add to the text of the rest. -/
def limitText (backend : Backend) (s : Select) : String :=
  Piece.sqlFrom backend (Piece.values (s.withoutLimit.pieces backend)).length s.limitPieces

theorem pieces_eq_append_limitPieces (backend : Backend) (s : Select) :
    s.pieces backend = s.withoutLimit.pieces backend ++ s.limitPieces := by
  cases s
  simp only [pieces, withoutLimit, limitPieces, boundPieces, List.append_nil, List.append_assoc]

theorem sql_statement_eq (backend : Backend) (s : Select) :
    (s.statement backend).sql = (s.withoutLimit.statement backend).sql ++ s.limitText backend := by
  change Piece.sqlFrom backend 0 (s.pieces backend) = _
  rw [pieces_eq_append_limitPieces, Piece.sqlFrom_append, Nat.zero_add]
  rfl

theorem limitText_eq_empty_iff (backend : Backend) (s : Select) :
    s.limitText backend = "" ↔ s.limitsRows = false := by
  have hword : ∀ (word rest : String), word ≠ "" → word ++ rest ≠ "" := by
    intro word rest hword hempty
    exact hword (String.append_eq_empty_iff.1 hempty).1
  unfold limitText limitPieces limitsRows
  cases s.limit with
  | some n => exact iff_of_false (hword " LIMIT " _ (by decide)) (by simp)
  | none =>
    cases s.offset with
    | some n => exact iff_of_false (hword " OFFSET " _ (by decide)) (by simp)
    | none => exact iff_of_true rfl rfl

end Select

namespace BaseQuery

/-- **Sort keys and the page come after a limit exactly when the last change of the statement itself
leaves one.** The text is the statement without its limit, that limit, the sort keys and one page
clause; no other step can put a limit there, nor can the statement that the query started from. -/
theorem build_after {q : BaseQuery} (hq : q.Fresh) (steps : List QueryStep)
    (h : (q.after steps).orders ≠ [] ∨ (q.after steps).page ≠ none) :
    ((q.after steps).statement.limitsRows = true ↔ q.LastChangeLimits steps) ∧
      ∀ (backend : Backend) (dialect : Dialect),
        ((q.after steps).build backend dialect).sql =
          ((q.after steps).statement.withoutLimit.statement backend).sql ++
            (q.after steps).statement.limitText backend ++
            orderSuffix backend ((q.after steps).statement.statement backend)
              (q.after steps).orders ++
            pageSuffix dialect (q.after steps).page ∧
        ((q.after steps).statement.limitText backend = "" ↔ ¬q.LastChangeLimits steps) := by
  have hsame : (q.after steps).isolate = q.after steps :=
    isolate_of_isolated (hq.checked.after steps h)
  have hlimit : (q.after steps).statement.limitsRows = true ↔ q.LastChangeLimits steps := by
    rw [← limitsRows_after_iff hq steps, hsame]
  refine ⟨hlimit, fun backend dialect => ⟨?_, ?_⟩⟩
  · rw [← Select.sql_statement_eq]
    rfl
  · rw [Select.limitText_eq_empty_iff, ← hlimit, Bool.not_eq_true]

/-- Five users, then the first page of them. -/
def limitThenPage : List QueryStep :=
  [.modifyStatement fun s => { s with limit := some 5 }, .paginate ⟨0, 10⟩]

/-- The page comes after the limit. -/
theorem limit_before_page :
    ((ofTable "users").after limitThenPage).page = some ⟨0, 10⟩ ∧
      ((ofTable "users").after limitThenPage).statement.limitsRows = true ∧
      (((ofTable "users").after limitThenPage).build .sqlite .sqlite).sql =
        "SELECT \"users\".* FROM \"users\" LIMIT ? LIMIT 10 OFFSET 0" := by
  decide +kernel

/-- The change sets the limit, and it is the last one. -/
theorem build_after_limitThenPage :
    (ofTable "users").Fresh ∧ (ofTable "users").LastChangeLimits limitThenPage ∧
      ((ofTable "users").after limitThenPage).statement.limitText .sqlite = " LIMIT ?" := by
  have hpage : ((ofTable "users").after limitThenPage).page ≠ none := by decide
  have hbuild := build_after (fresh_ofTable "users") limitThenPage (.inr hpage)
  exact ⟨fresh_ofTable "users", hbuild.1.1 (by decide), by decide +kernel⟩

end BaseQuery

end ServerGrid
