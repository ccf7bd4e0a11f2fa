import ServerGrid.Proofs.Query.Isolation
import ServerGrid.Proofs.Sql.Truth
import ServerGrid.Proofs.Text.Cutting
import ServerGrid.Search

/-!
# What a search reports

A search tells whether it added anything. A condition that is added always shows: an addition makes
the `rank` of the WHERE clause of an isolated query grow, and isolates the others. What decides is
whether some column takes the keyword up (`TakesUp`), through its custom filter or because it is not
hidden. Main statement: `searches_exact`, both searches report exactly what they did, and when they
do anything.
-/

namespace ServerGrid

/-! ## Additions show -/

namespace Condition

/-- How far a WHERE clause has been narrowed: additions to a plain conjunction add members, and
anything else first becomes one. -/
def rank : Option Condition → Nat
  | none => 0
  | some c => if c.isPlainAll then c.members.length + 2 else 1

theorem rank_of_isPlainAll {c : Condition} (h : c.isPlainAll = true) :
    rank (some c) = c.members.length + 2 := if_pos h

theorem rank_withMembers {c : Condition} (h : c.isPlainAll = true) (members : List Clause) :
    rank (some { c with members }) = members.length + 2 := if_pos h

theorem rank_lt_rank_conjoin (current : Option Condition) {addition : Condition}
    (h : addition.isEmpty = false) : rank current < rank (some (conjoin current addition)) := by
  cases current with
  | none =>
    change 0 < if addition.isPlainAll then addition.members.length + 2 else 1
    split <;> omega
  | some current =>
    by_cases hcurrent : current.isPlainAll = true
    · rw [conjoin, if_pos hcurrent, rank_of_isPlainAll hcurrent]
      split
      · have hlength : 0 < addition.members.length :=
          List.length_pos_iff.2 (List.isEmpty_eq_false_iff.1 h)
        rw [rank_withMembers hcurrent, List.length_append]
        omega
      · rw [add, rank_withMembers hcurrent, List.length_append, List.length_singleton]
        omega
    · -- what was there and the addition become members of a new conjunction
      have hrank : rank (some current) = 1 := if_neg hcurrent
      have hplain : all.isPlainAll = true := rfl
      rw [conjoin, if_neg hcurrent, hrank, add, add, rank_withMembers hplain]
      simp

end Condition

namespace BaseQuery

/-- The query after conditions, one after the other. -/
def addConditions (q : BaseQuery) (added : List Condition) : BaseQuery := added.foldl addCondition q

/-- An addition isolates a query, or narrows one that was isolated. -/
structure Grown (q q' : BaseQuery) : Prop where
  isolated : q'.isolated = true
  rank_lt : q.isolated = true →
    Condition.rank q.statement.filter < Condition.rank q'.statement.filter

theorem Grown.trans {q q' q'' : BaseQuery} (h : q.Grown q') (h' : q'.Grown q'') : q.Grown q'' where
  isolated := h'.isolated
  rank_lt hisolated := (h.rank_lt hisolated).trans (h'.rank_lt h.isolated)

theorem Grown.ne {q q' : BaseQuery} (h : q.Grown q') : q' ≠ q := by
  rintro rfl
  exact Nat.lt_irrefl _ (h.rank_lt h.isolated)

theorem grown_addCondition (q : BaseQuery) {c : Condition} (h : c.isEmpty = false) :
    q.Grown (q.addCondition c) where
  isolated := q.isolated_isolate
  rank_lt hisolated := by
    rw [addCondition, modifyStatement, isolate_of_isolated hisolated]
    exact Condition.rank_lt_rank_conjoin q.statement.filter h

theorem grown_addConditions : ∀ {added : List Condition} (q : BaseQuery), added ≠ [] →
    (∀ c ∈ added, c.isEmpty = false) → q.Grown (q.addConditions added)
  | [], _, hne, _ => absurd rfl hne
  | [c], q, _, h => q.grown_addCondition (h c List.mem_cons_self)
  | c :: next :: rest, q, _, h => by
    rw [List.forall_mem_cons] at h
    exact (q.grown_addCondition h.1).trans
      (grown_addConditions (q.addCondition c) (List.cons_ne_nil next rest) h.2)

/-! ## Reports -/

/-- What a search did and what it reports agree: nothing at all, or at least one condition. -/
structure Reported (q : BaseQuery) (found : BaseQuery × Bool) : Prop where
  eq_false_iff : found.2 = false ↔ found.1 = q
  eq_true_iff : found.2 = true ↔ ∃ added : List Condition, added ≠ [] ∧
    (∀ c ∈ added, c.isEmpty = false) ∧ found.1 = q.addConditions added

/-- A search that adds conditions and tells whether there are any. -/
theorem reported_addConditions (q : BaseQuery) {found : BaseQuery × Bool} {added : List Condition}
    (hadded : ∀ c ∈ added, c.isEmpty = false) (h : found = (q.addConditions added, !added.isEmpty)) :
    q.Reported found := by
  subst h
  cases added with
  | nil =>
    refine ⟨iff_of_true rfl rfl, iff_of_false Bool.false_ne_true ?_⟩
    rintro ⟨added, hne, hall, hsame⟩
    exact (grown_addConditions q hne hall).ne hsame.symm
  | cons c rest =>
    have hgrown := grown_addConditions q (List.cons_ne_nil c rest) hadded
    refine ⟨iff_of_false Bool.false_ne_true.symm hgrown.ne, iff_of_true rfl ?_⟩
    exact ⟨_, List.cons_ne_nil c rest, hadded, rfl⟩

/-- The conditions that are not empty. -/
def nonEmpty (conditions : List Condition) : List Condition := conditions.filter (!·.isEmpty)

theorem isEmpty_of_mem_nonEmpty (conditions : List Condition) :
    ∀ c ∈ nonEmpty conditions, c.isEmpty = false := by
  intro c hc
  simpa using (List.mem_filter.1 hc).2

theorem nonEmpty_ne_nil_iff {conditions : List Condition} :
    nonEmpty conditions ≠ [] ↔ ∃ c ∈ conditions, c.isEmpty = false := by
  simp [nonEmpty, List.filter_eq_nil_iff]

theorem addNonEmpty_eq (q : BaseQuery) (c : Condition) :
    q.addNonEmpty c = (q.addConditions (nonEmpty [c]), !(nonEmpty [c]).isEmpty) := by
  cases hc : c.isEmpty <;> simp [addNonEmpty, nonEmpty, addConditions, hc]

theorem searchTerms_eq (ctx : SearchContext) : ∀ (terms : List String) (q : BaseQuery)
    (applied : Bool), searchTerms ctx (q, applied) terms =
      (q.addConditions (nonEmpty (terms.map ctx.termCondition)),
        applied || !(nonEmpty (terms.map ctx.termCondition)).isEmpty)
  | [], q, applied => by
    simp [searchTerms, nonEmpty, addConditions]
  | term :: rest, q, applied => by
    cases hterm : (ctx.termCondition term).isEmpty with
    | true =>
      have hadd : q.addNonEmpty (ctx.termCondition term) = (q, false) := if_pos hterm
      simp only [searchTerms, hadd, searchTerms_eq ctx rest]
      simp [nonEmpty, hterm]
    | false =>
      have hadd : q.addNonEmpty (ctx.termCondition term) =
          (q.addCondition (ctx.termCondition term), true) :=
        if_neg (Bool.eq_false_iff.1 hterm)
      simp only [searchTerms, hadd, searchTerms_eq ctx rest]
      simp [nonEmpty, hterm, addConditions]

end BaseQuery

/-! ## Keywords -/

/-- A keyword of blanks only. -/
def SearchTerm.Blank (s : SearchTerm) : Prop := ∀ x ∈ s.value.toList, Text.isBlank x = true

theorem SearchTerm.isEmpty_keyword_iff {s : SearchTerm} : s.keyword.isEmpty = true ↔ s.Blank := by
  rw [String.isEmpty_iff, keyword, Text.trim, ← String.toList_inj, String.toList_ofList]
  exact Text.trimList_eq_nil_iff

namespace SearchContext

variable (ctx : SearchContext)

theorem isSearchable_iff : ctx.request.isSearchable = true ↔ ¬ctx.request.search.Blank := by
  rw [← SearchTerm.isEmpty_keyword_iff, Request.isSearchable, Request.keyword]
  simp

/-- The cut into words and the trimming agree on what is blank. -/
theorem terms_ne_nil (h : ¬ctx.request.search.Blank) : ctx.terms ≠ [] := by
  unfold terms
  split
  · rw [Ne, Text.words_eq_nil_iff, Request.keyword, SearchTerm.keyword, Text.trim, Text.trim,
      String.toList_ofList, ← String.toList_inj, String.toList_ofList]
    intro htrim
    exact h (Text.trimList_eq_nil_iff.1 (Text.trimList_trimList_eq_nil_iff.1 htrim))
  · exact List.cons_ne_nil _ _

/-! ## Columns that take a keyword up -/

/-- A name takes a keyword up when it is not hidden, or when it has a custom filter, which then
decides alone, and the filter adds something. -/
inductive TakesUp (name keyword : String) : Prop
  | default (hnone : ctx.registry.filter? name = none) (hshown : ctx.registry.isHidden name = false)
  | custom {f : FilterCallback} (hfilter : ctx.registry.filter? name = some f)
      (hadds : (f (.fresh ctx.resolver) keyword).added ≠ [])

variable {ctx}

theorem clause?_ne_none_iff {name keyword bound : String} {regex : Bool} :
    ctx.clause? name keyword bound regex ≠ none ↔ ctx.TakesUp name keyword := by
  unfold clause? behavior?
  cases hfilter : ctx.registry.filter? name with
  | some f =>
    have hadds : f.condition? ctx.resolver keyword = none ↔
        (f (.fresh ctx.resolver) keyword).added = [] := by
      rw [FilterCallback.condition?, FilterScope.isEmpty]
      simp
    simp only [Ne, Option.map_eq_none_iff, hadds]
    constructor
    · exact .custom hfilter
    · intro h
      cases h with
      | default hnone => cases hfilter.symm.trans hnone
      | custom hsome hadds =>
        cases hfilter.symm.trans hsome
        exact hadds
  | none =>
    cases hhidden : ctx.registry.isHidden name with
    | true =>
      refine iff_of_false (by simp) fun h => ?_
      cases h with
      | default _ hshown => cases hhidden.symm.trans hshown
      | custom hsome => cases hfilter.symm.trans hsome
    | false => exact iff_of_true (by simp) (.default hfilter hhidden)

theorem columnClause?_ne_none_iff {c : ColumnRequest} : ctx.columnClause? c ≠ none ↔
    c.searchable = true ∧ ¬c.search.Blank ∧
      ∃ name, c.label? = some name ∧ ctx.TakesUp name c.search.keyword := by
  have hsearched : c.isSearched = true ↔ c.searchable = true ∧ ¬c.search.Blank := by
    rw [← SearchTerm.isEmpty_keyword_iff, ColumnRequest.isSearched]
    simp
  rw [← and_assoc, ← hsearched]
  unfold columnClause?
  split
  · next h =>
    cases hlabel : c.label? with
    | none => simp
    | some name =>
      simp only [h, true_and, Option.some.injEq, exists_eq_left']
      exact clause?_ne_none_iff
  · next h => simp [h]

theorem termClause?_ne_none_iff {term : String} {c : ColumnRequest} :
    ctx.termClause? term c ≠ none ↔ ∃ name, c.label? = some name ∧ ctx.TakesUp name term := by
  unfold termClause?
  cases hlabel : c.label? with
  | none => simp
  | some name =>
    simp only [Option.some.injEq, exists_eq_left']
    exact clause?_ne_none_iff

theorem isEmpty_columnCondition_iff : ctx.columnCondition.isEmpty = false ↔
    ∃ c ∈ ctx.request.columns, ctx.columnClause? c ≠ none := by
  rw [columnCondition, Condition.isEmpty_foldl_add _ rfl, List.isEmpty_eq_false_iff, Ne,
    List.filterMap_eq_nil_iff]
  simp

theorem isEmpty_termCondition_iff {term : String} : (ctx.termCondition term).isEmpty = false ↔
    ∃ c ∈ ctx.request.columns, c.searchable = true ∧ ctx.termClause? term c ≠ none := by
  rw [termCondition, Condition.isEmpty_foldl_add _ rfl, List.isEmpty_eq_false_iff, Ne,
    List.filterMap_eq_nil_iff, Request.searchableColumns]
  simp

end SearchContext

namespace BaseQuery

section Searches

variable (q : BaseQuery) (ctx : SearchContext)

theorem reported_searchColumns : q.Reported (q.searchColumns ctx) :=
  q.reported_addConditions (isEmpty_of_mem_nonEmpty _) (q.addNonEmpty_eq ctx.columnCondition)

theorem searchColumns_eq_true_iff : (q.searchColumns ctx).2 = true ↔
    ctx.columnCondition.isEmpty = false := by
  rw [searchColumns, addNonEmpty]
  cases ctx.columnCondition.isEmpty <;> simp

theorem searchGlobally_eq : q.searchGlobally ctx =
    let added := nonEmpty (if ctx.request.isSearchable then ctx.terms.map ctx.termCondition else [])
    (q.addConditions added, !added.isEmpty) := by
  rw [searchGlobally]
  split
  · rw [searchTerms_eq, Bool.false_or]
  · rfl

theorem reported_searchGlobally : q.Reported (q.searchGlobally ctx) :=
  q.reported_addConditions (isEmpty_of_mem_nonEmpty _) (q.searchGlobally_eq ctx)

theorem searchGlobally_eq_true_iff : (q.searchGlobally ctx).2 = true ↔
    ctx.request.isSearchable = true ∧ ∃ term ∈ ctx.terms,
      (ctx.termCondition term).isEmpty = false := by
  rw [searchGlobally_eq]
  simp only [Bool.not_eq_true', List.isEmpty_eq_false_iff, nonEmpty_ne_nil_iff]
  split
  · next h => simp [h]
  · next h => simp [h]

end Searches

/-- **Both searches report exactly what they did.** A search that reports nothing has left the whole
query as it was, and one that reports something has added a condition. A column's own search does
something when it takes up its trimmed keyword, and the global one when some searchable column takes
up one of its terms, of which a keyword that is not blank has at least one. -/
theorem searches_exact (q : BaseQuery) (ctx : SearchContext) :
    let byColumn := q.searchColumns ctx
    let byKeyword := q.searchGlobally ctx
    q.Reported byColumn ∧ q.Reported byKeyword ∧
    (byColumn.2 = true ↔ ∃ c ∈ ctx.request.columns, c.searchable = true ∧ ¬c.search.Blank ∧
      ∃ name, c.label? = some name ∧ ctx.TakesUp name c.search.keyword) ∧
    (byKeyword.2 = true ↔ ¬ctx.request.search.Blank ∧
      ∃ term ∈ ctx.terms, ∃ c ∈ ctx.request.columns, c.searchable = true ∧
        ∃ name, c.label? = some name ∧ ctx.TakesUp name term) ∧
    (¬ctx.request.search.Blank → ctx.terms ≠ []) := by
  refine ⟨q.reported_searchColumns ctx, q.reported_searchGlobally ctx, ?_, ?_, ctx.terms_ne_nil⟩
  · rw [searchColumns_eq_true_iff, SearchContext.isEmpty_columnCondition_iff]
    simp only [SearchContext.columnClause?_ne_none_iff]
  · rw [searchGlobally_eq_true_iff, SearchContext.isSearchable_iff]
    simp only [SearchContext.isEmpty_termCondition_iff, SearchContext.termClause?_ne_none_iff]

end BaseQuery

end ServerGrid
