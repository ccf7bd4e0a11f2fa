import Mathlib.Data.List.Forall2
import ServerGrid.Count
import ServerGrid.Ordering
import ServerGrid.Paging
import ServerGrid.Proofs.Column.Hidden
import ServerGrid.Proofs.Search.Narrowing
import ServerGrid.Proofs.Sql.Shape

/-!
# Requests that differ in their keywords

Two requests are alike when they only differ in the text of keywords and in how sort directions are
spelled (`Request.Alike`), and two queries are alike when they only differ in values that the WHERE
clause binds (`BaseQuery.Alike`). Without custom filters, alike requests search and order alike
queries into alike queries, and what alike queries are written as has the same outline.
-/

namespace ServerGrid

variable {α : Type}

/-! ## Alike requests -/

/-- Searches that are read in the same way, for keywords that are both blank or both not. -/
structure SearchTerm.Alike (s s' : SearchTerm) : Prop where
  regex : s.regex = s'.regex
  isEmpty : s.keyword.isEmpty = s'.keyword.isEmpty

/-- Columns that only differ in the text of the keyword. -/
structure ColumnRequest.Alike (c c' : ColumnRequest) : Prop where
  data : c.data = c'.data
  name : c.name = c'.name
  searchable : c.searchable = c'.searchable
  orderable : c.orderable = c'.orderable
  search : c.search.Alike c'.search

/-- Directives that only differ in the spelling of the direction. -/
structure OrderRequest.Alike (o o' : OrderRequest) : Prop where
  column : o.column = o'.column
  direction : SortDirection.ofText o.dir = .ofText o'.dir

/-- Requests that only differ in the text of keywords and in the spelling of directions. A global
keyword that is cut into terms has as many of them in both. -/
structure Request.Alike (config : Config) (r r' : Request) : Prop where
  draw : r.draw = r'.draw
  columns : List.Forall₂ ColumnRequest.Alike r.columns r'.columns
  order : List.Forall₂ OrderRequest.Alike r.order r'.order
  start : r.start = r'.start
  length : r.length = r'.length
  search : r.search.Alike r'.search
  terms : config.multiTerm = true → r.search.regex = false →
    (Text.words r.keyword).length = (Text.words r'.keyword).length

theorem ColumnRequest.Alike.label? {c c' : ColumnRequest} (h : c.Alike c') :
    c.label? = c'.label? := by
  unfold ColumnRequest.label?
  rw [h.data, h.name]

/-- Related members that add related results. -/
theorem map_filterMap_of_forall₂ {β γ : Type} {R : α → α → Prop} {f f' : α → Option β}
    {g : β → γ} (hf : ∀ a a', R a a' → (f a).map g = (f' a').map g) {l l' : List α}
    (h : List.Forall₂ R l l') : (l.filterMap f).map g = (l'.filterMap f').map g := by
  induction h with
  | nil => rfl
  | @cons a a' rest rest' ha _ ih =>
    have hhead := hf a a' ha
    cases hfa : f a with
    | none =>
      rw [hfa, Option.map_none, eq_comm, Option.map_eq_none_iff] at hhead
      rw [List.filterMap_cons_none hfa, List.filterMap_cons_none hhead, ih]
    | some b =>
      rw [hfa, Option.map_some, eq_comm, Option.map_eq_some_iff] at hhead
      obtain ⟨b', hfa', hb⟩ := hhead
      rw [List.filterMap_cons_some hfa, List.filterMap_cons_some hfa', List.map_cons,
        List.map_cons, hb, ih]

theorem filterMap_of_forall₂ {β : Type} {R : α → α → Prop} {f f' : α → Option β}
    (hf : ∀ a a', R a a' → f a = f' a') {l l' : List α} (h : List.Forall₂ R l l') :
    l.filterMap f = l'.filterMap f' := by
  have hmap := map_filterMap_of_forall₂ (g := id)
    (fun a a' ha => congrArg (Option.map id) (hf a a' ha)) h
  rwa [List.map_id, List.map_id] at hmap

/-- Related members at an index, or none in both lists. -/
theorem getElem?_of_forall₂ {R : α → α → Prop} {l l' : List α} (h : List.Forall₂ R l l')
    (index : Nat) :
    (l[index]? = none ∧ l'[index]? = none) ∨ ∃ a a', l[index]? = some a ∧ l'[index]? = some a' ∧
      R a a' := by
  induction h generalizing index with
  | nil => exact .inl ⟨rfl, rfl⟩
  | cons ha _ ih =>
    cases index with
    | zero => exact .inr ⟨_, _, rfl, rfl, ha⟩
    | succ index => exact ih index

namespace Request

section Columns

variable {R : ColumnRequest → ColumnRequest → Prop} {r r' : Request}
  (h : List.Forall₂ R r.columns r'.columns)
include h

theorem searchableColumns_of_forall₂ (hsearchable : ∀ c c', R c c' → c.searchable = c'.searchable) :
    List.Forall₂ R r.searchableColumns r'.searchableColumns :=
  List.rel_filter (fun c c' hc => iff_of_eq (congrArg (· = true) (hsearchable c c' hc))) h

theorem columnName?_of_forall₂ (hlabel : ∀ c c', R c c' → c.label? = c'.label?) (index : Nat) :
    r.columnName? index = r'.columnName? index := by
  unfold columnName? column?
  obtain ⟨hnone, hnone'⟩ | ⟨c, c', hsome, hsome', hc⟩ := getElem?_of_forall₂ h index
  · rw [hnone, hnone']
  · rw [hsome, hsome']
    exact hlabel c c' hc

theorem keeps_of_forall₂ (horderable : ∀ c c', R c c' → c.orderable = c'.orderable) :
    r.keeps = r'.keeps := by
  funext o
  unfold keeps column?
  obtain ⟨hnone, hnone'⟩ | ⟨c, c', hsome, hsome', hc⟩ := getElem?_of_forall₂ h o.column.toNat
  · rw [hnone, hnone']
  · rw [hsome, hsome']
    exact horderable c c' hc

end Columns

end Request

namespace Request.Alike

variable {config : Config} {r r' : Request} (h : r.Alike config r')
include h

theorem searchableColumns :
    List.Forall₂ ColumnRequest.Alike r.searchableColumns r'.searchableColumns :=
  searchableColumns_of_forall₂ h.columns fun _ _ hc => hc.searchable

theorem columnName? (index : Nat) : r.columnName? index = r'.columnName? index :=
  columnName?_of_forall₂ h.columns (fun _ _ hc => hc.label?) index

theorem directives : r.directives = r'.directives := by
  have hkeeps : ∀ o o', OrderRequest.Alike o o' → r.keeps o = r'.keeps o' := by
    intro o o' ho
    rw [keeps_of_forall₂ h.columns fun _ _ hc => hc.orderable]
    unfold keeps
    rw [ho.column]
  have hread : ∀ {l l' : List OrderRequest}, List.Forall₂ OrderRequest.Alike l l' →
      l.map (fun o => (⟨o.column, .ofText o.dir⟩ : OrderDirective)) =
        l'.map fun o => ⟨o.column, .ofText o.dir⟩ := by
    intro l l' hl
    induction hl with
    | nil => rfl
    | cons ho _ ih => rw [List.map_cons, List.map_cons, ih, ho.column, ho.direction]
  rw [Request.directives_eq, Request.directives_eq]
  exact hread (List.rel_filter
    (fun o o' ho => iff_of_eq (congrArg (· = true) (hkeeps o o' ho))) h.order)

theorem isSearchable : r.isSearchable = r'.isSearchable := congrArg (!·) h.search.isEmpty

theorem page? : r.page? = r'.page? := by
  unfold Request.page? Request.isPaged
  rw [h.start, h.length]

end Request.Alike

/-! ## Alike conditions -/

namespace SearchContext

/-- A default predicate shows nothing of the keyword. -/
theorem redacted_defaultPredicate (ctx : SearchContext) (name bound bound' : String)
    (regex : Bool) :
    (ctx.defaultPredicate name bound regex).redacted =
      (ctx.defaultPredicate name bound' regex).redacted := by
  have hmatch : ∀ m : Dialect.RegexMatch,
      (m.predicate bound).redacted = (m.predicate bound').redacted := by
    intro m
    unfold Dialect.RegexMatch.predicate
    cases m.form <;> rfl
  unfold defaultPredicate
  split
  · exact hmatch _
  · rfl

variable {registry : Registry} (hfilters : ∀ name, registry.filter? name = none)
  (resolver : Resolver) {config : Config} {r r' : Request} (h : r.Alike config r')

include hfilters in
theorem map_redacted_clause? (request request' : Request) (name keyword keyword' bound : String)
    (bound' : String) (regex : Bool) :
    ((⟨request, registry, resolver, config⟩ : SearchContext).clause? name keyword bound
        regex).map (·.mapLeaves Predicate.redacted) =
      ((⟨request', registry, resolver, config⟩ : SearchContext).clause? name keyword' bound'
        regex).map (·.mapLeaves Predicate.redacted) := by
  simp only [clause?, behavior?, hfilters]
  cases registry.isHidden name with
  | true => rfl
  | false =>
    simp only [Bool.false_eq_true, ite_false, Option.map_some, Clause.mapLeaves]
    exact congrArg (some ∘ Clause.leaf) (redacted_defaultPredicate
      ⟨request, registry, resolver, config⟩ name bound bound' regex)

include hfilters h in
theorem redacted_columnCondition :
    (⟨r, registry, resolver, config⟩ : SearchContext).columnCondition.redacted =
      (⟨r', registry, resolver, config⟩ : SearchContext).columnCondition.redacted := by
  rw [columnCondition, columnCondition, Condition.redacted, Condition.redacted,
    ← Condition.foldl_add_mapLeaves, ← Condition.foldl_add_mapLeaves]
  refine congrArg (List.foldl _ _) (map_filterMap_of_forall₂ (fun c c' hc => ?_) h.columns)
  have hsearched : c.isSearched = c'.isSearched := by
    unfold ColumnRequest.isSearched
    rw [hc.searchable, hc.search.isEmpty]
  unfold columnClause?
  rw [hsearched, hc.label?, hc.search.regex]
  split
  · cases c'.label? with
    | none => rfl
    | some name => exact map_redacted_clause? hfilters resolver r r' name _ _ _ _ _
  · rfl

include hfilters h in
theorem redacted_termCondition (term term' : String) :
    ((⟨r, registry, resolver, config⟩ : SearchContext).termCondition term).redacted =
      ((⟨r', registry, resolver, config⟩ : SearchContext).termCondition term').redacted := by
  rw [termCondition, termCondition, Condition.redacted, Condition.redacted,
    ← Condition.foldl_add_mapLeaves, ← Condition.foldl_add_mapLeaves]
  refine congrArg (List.foldl _ _)
    (map_filterMap_of_forall₂ (fun c c' hc => ?_) h.searchableColumns)
  simp only [termClause?, hc.label?, h.search.regex]
  cases c'.label? with
  | none => rfl
  | some name => exact map_redacted_clause? hfilters resolver r r' name _ _ _ _ _

include h in
theorem length_terms :
    (⟨r, registry, resolver, config⟩ : SearchContext).terms.length =
      (⟨r', registry, resolver, config⟩ : SearchContext).terms.length := by
  unfold terms
  simp only [h.search.regex]
  split
  · next hsplit =>
    rw [Bool.and_eq_true, Bool.not_eq_true'] at hsplit
    exact h.terms hsplit.1 (h.search.regex.trans hsplit.2)
  · rfl

end SearchContext

/-! ## Counting -/

namespace Select

theorem pieces_countOf (backend : Backend) (s : Select) : s.countOf.pieces backend =
    [.text "SELECT ", .raw "COUNT(*)", .text " AS ", .name countColumn, .text " FROM "] ++
      Piece.parenthesised (s.pieces backend) ++ [.text " AS ", .name "count_row_table"] := by
  rw [countOf, empty, pieces, Source.pieces, membersPieces]
  simp [listPieces, conditionPieces, boundPieces, SelectItem.pieces, labelPieces, Piece.separated]

theorem outline_countOf_congr (backend : Backend) {s s' : Select}
    (h : (s.pieces backend).map Piece.redacted = (s'.pieces backend).map Piece.redacted) :
    (s.countOf.statement backend).outline = (s'.countOf.statement backend).outline := by
  apply Piece.outline_congr
  rw [pieces_countOf, pieces_countOf]
  simp only [List.map_append, Piece.map_redacted_parenthesised, h]

end Select

/-! ## Alike queries -/

namespace BaseQuery

/-- Queries that only differ in values that their WHERE clauses bind, if they differ at all. -/
inductive Alike : BaseQuery → BaseQuery → Prop
  | refl (q : BaseQuery) : Alike q q
  | filters (q : BaseQuery) {filter filter' : Condition}
      (h : filter.redacted = filter'.redacted) :
      Alike (q.withFilter (some filter)) (q.withFilter (some filter'))

/-- Alike queries, with the same report. -/
def FoundAlike (found found' : BaseQuery × α) : Prop :=
  found.1.Alike found'.1 ∧ found.2 = found'.2

theorem addCondition_withFilter (q : BaseQuery) (filter : Option Condition) (c : Condition) :
    (q.withFilter filter).addCondition c =
      q.withFilter (some (Condition.conjoin filter c)) := by
  rw [addCondition, modifyStatement, isolate_withFilter]
  rfl

theorem orderBy_withFilter (q : BaseQuery) (filter : Option Condition) (sql : String)
    (values : List Value) :
    (q.withFilter filter).orderBy sql values = (q.orderBy sql values).withFilter filter := by
  rw [orderBy, isolate_withFilter, withFilter, withFilter, modifyStatement, modifyStatement,
    isolate_orderBy]
  rfl

theorem paginate_withFilter (q : BaseQuery) (filter : Option Condition) (page : Page) :
    (q.withFilter filter).paginate page = (q.paginate page).withFilter filter := by
  rw [paginate, isolate_withFilter, withFilter, withFilter, modifyStatement, modifyStatement,
    isolate_paginate]
  rfl

namespace Alike

variable {q q' : BaseQuery} (h : q.Alike q')
include h

theorem scope : q.scope = q'.scope := by
  cases h with
  | refl => rfl
  | filters => rfl

theorem addCondition {c c' : Condition} (hc : c.redacted = c'.redacted) :
    (q.addCondition c).Alike (q'.addCondition c') := by
  -- both cases come down to what was there, narrowed by what is added
  have hconjoin : ∀ current current' : Option Condition,
      current.map Condition.redacted = current'.map Condition.redacted →
        (Condition.conjoin current c).redacted = (Condition.conjoin current' c').redacted := by
    intro current current' hcurrent
    rw [Condition.redacted, Condition.redacted, ← Condition.conjoin_mapLeaves,
      ← Condition.conjoin_mapLeaves]
    exact congrArg₂ Condition.conjoin hcurrent hc
  cases h with
  | refl =>
    exact .filters q (hconjoin q.isolate.statement.filter q.isolate.statement.filter rfl)
  | @filters p filter filter' hfilter =>
    rw [addCondition_withFilter, addCondition_withFilter]
    exact .filters p (hconjoin (some filter) (some filter') (congrArg some hfilter))

theorem addNonEmpty {c c' : Condition} (hc : c.redacted = c'.redacted) :
    FoundAlike (q.addNonEmpty c) (q'.addNonEmpty c') := by
  have hempty : c.isEmpty = c'.isEmpty := by
    rw [← Condition.isEmpty_mapLeaves Predicate.redacted c,
      ← Condition.isEmpty_mapLeaves Predicate.redacted c']
    exact congrArg Condition.isEmpty hc
  unfold BaseQuery.addNonEmpty
  rw [hempty]
  split
  · exact ⟨h, rfl⟩
  · exact ⟨h.addCondition hc, rfl⟩

theorem orderBy (sql : String) (values : List Value) :
    (q.orderBy sql values).Alike (q'.orderBy sql values) := by
  cases h with
  | refl => exact .refl _
  | filters p hfilter =>
    rw [orderBy_withFilter, orderBy_withFilter]
    exact .filters _ hfilter

theorem paginate (page : Page) : (q.paginate page).Alike (q'.paginate page) := by
  cases h with
  | refl => exact .refl _
  | filters p hfilter =>
    rw [paginate_withFilter, paginate_withFilter]
    exact .filters _ hfilter

theorem orders : q.orders = q'.orders := by
  cases h with
  | refl => rfl
  | filters => rfl

theorem page : q.page = q'.page := by
  cases h with
  | refl => rfl
  | filters => rfl

theorem map_redacted_pieces (backend : Backend) :
    (q.statement.pieces backend).map Piece.redacted =
      (q'.statement.pieces backend).map Piece.redacted := by
  cases h with
  | refl => rfl
  | filters p hfilter => exact p.isolate.statement.map_redacted_pieces_congr backend hfilter

theorem map_redacted_withConstantItem (backend : Backend) :
    (q.statement.withConstantItem.pieces backend).map Piece.redacted =
      (q'.statement.withConstantItem.pieces backend).map Piece.redacted := by
  cases h with
  | refl => rfl
  | filters p hfilter =>
    exact p.isolate.statement.withConstantItem.map_redacted_pieces_congr backend hfilter

/-- The count reads the text of the statement, and so decides the same for both. -/
theorem outline_countStatement (backend : Backend) :
    (q.countStatement backend).outline = (q'.countStatement backend).outline := by
  have hsql : (q.statement.statement backend).sql = (q'.statement.statement backend).sql :=
    (Prod.ext_iff.1 (Piece.outline_congr backend (h.map_redacted_pieces backend))).1
  unfold countStatement Select.counted
  rw [hsql]
  split
  · exact Select.outline_countOf_congr backend (h.map_redacted_pieces backend)
  · exact Select.outline_countOf_congr backend (h.map_redacted_withConstantItem backend)

theorem outline_build (backend : Backend) (dialect : Dialect) :
    (q.build backend dialect).outline = (q'.build backend dialect).outline := by
  obtain ⟨hsql, hlength⟩ := Prod.ext_iff.1
    (Piece.outline_congr backend (h.map_redacted_pieces backend))
  have hsql' : (q.statement.statement backend).sql = (q'.statement.statement backend).sql := hsql
  have hlength' : (q.statement.statement backend).values.length =
      (q'.statement.statement backend).values.length := hlength
  simp only [Statement.outline, build, orderSuffix, h.orders, h.page, hsql', hlength',
    List.length_append]

/-! ### Searching and ordering -/

section Requests

variable {registry : Registry} (hfilters : ∀ name, registry.filter? name = none)
  (resolver : Resolver) {config : Config} {r r' : Request} (hr : r.Alike config r')

include hfilters hr in
theorem searchColumns :
    FoundAlike (q.searchColumns ⟨r, registry, resolver, config⟩)
      (q'.searchColumns ⟨r', registry, resolver, config⟩) :=
  h.addNonEmpty (SearchContext.redacted_columnCondition hfilters resolver hr)

omit h in
include hfilters hr in
/-- Each term narrows both queries, or neither. -/
theorem searchTerms {terms terms' : List String} (hlength : terms.length = terms'.length)
    {found found' : BaseQuery × Bool} (hfound : FoundAlike found found') :
    FoundAlike (BaseQuery.searchTerms ⟨r, registry, resolver, config⟩ found terms)
      (BaseQuery.searchTerms ⟨r', registry, resolver, config⟩ found' terms') := by
  induction terms generalizing terms' found found' with
  | nil =>
    rw [List.length_eq_zero_iff.1 hlength.symm, BaseQuery.searchTerms, BaseQuery.searchTerms]
    exact hfound
  | cons term rest ih =>
    obtain ⟨term', rest', rfl⟩ := List.exists_cons_of_length_eq_add_one hlength.symm
    obtain ⟨hquery, happlied⟩ := hfound
    obtain ⟨hnext, hmore⟩ := hquery.addNonEmpty
      (SearchContext.redacted_termCondition hfilters resolver hr term term')
    rw [BaseQuery.searchTerms, BaseQuery.searchTerms]
    exact ih (Nat.succ.inj hlength) ⟨hnext, congrArg₂ (· || ·) happlied hmore⟩

include hfilters hr in
theorem searchGlobally :
    FoundAlike (q.searchGlobally ⟨r, registry, resolver, config⟩)
      (q'.searchGlobally ⟨r', registry, resolver, config⟩) := by
  unfold BaseQuery.searchGlobally
  simp only [hr.isSearchable]
  split
  · exact searchTerms hfilters resolver hr (SearchContext.length_terms resolver hr) ⟨h, rfl⟩
  · exact ⟨h, rfl⟩

omit h in
include hr in
theorem clause_eq (d : OrderDirective) :
    (⟨r, registry, resolver, config⟩ : OrderContext).clause d =
      (⟨r', registry, resolver, config⟩ : OrderContext).clause d := by
  unfold OrderContext.clause
  simp only [hr.columns.length_eq, hr.columnName?]
  rfl

include hr in
theorem orderDirectives (directives : List OrderDirective) :
    FoundAlike (q.orderDirectives ⟨r, registry, resolver, config⟩ directives)
      (q'.orderDirectives ⟨r', registry, resolver, config⟩ directives) := by
  induction directives generalizing q q' with
  | nil => exact ⟨h, rfl⟩
  | cons d rest ih =>
    rw [BaseQuery.orderDirectives, BaseQuery.orderDirectives, clause_eq resolver hr d]
    split
    · exact ⟨h, rfl⟩
    · exact ih h
    · next added _ => exact ih (h.orderBy added.sql added.values)

include hr in
theorem applyOrdering :
    FoundAlike (q.applyOrdering ⟨r, registry, resolver, config⟩)
      (q'.applyOrdering ⟨r', registry, resolver, config⟩) := by
  unfold BaseQuery.applyOrdering
  rw [hr.directives]
  exact h.orderDirectives resolver hr r'.directives

include hr in
theorem applyPaging :
    FoundAlike (q.applyPaging r) (q'.applyPaging r') := by
  unfold BaseQuery.applyPaging
  rw [hr.page?]
  split
  · next page _ => exact ⟨h.paginate page, rfl⟩
  · exact ⟨h, rfl⟩

end Requests

end Alike

end BaseQuery

end ServerGrid
