import ServerGrid.Search
import ServerGrid.Proofs.Query.Isolation
import ServerGrid.Proofs.Sql.Truth

/-!
# Searches narrow by conjunction

What a search asks of the rows is said without groups first: `SearchContext.demand?` is the truth of
what one column asks for a keyword, a row passes the column searches when it meets every demand
(`meetsColumns`), and it passes the global keyword when every term that some column takes up is met
by one of them (`meetsKeyword`). `BaseQuery.Narrows` says how a step that tells whether it added
anything relates to the query before: it is the query itself, and asked for nothing, or the isolated
query with a narrower WHERE clause. Main statement: `admits_searched`, the two searches leave exactly
the conjunction of the WHERE clause before and of what they ask for.
-/

namespace ServerGrid

/-! ## What is asked for -/

namespace SearchContext

variable (ctx : SearchContext)

/-- The default predicate of a column. -/
def defaultPredicate (name bound : String) (regex : Bool) : Predicate :=
  if regex then
    regexPredicate (ctx.resolver.columnSql name) bound ctx.resolver.dialect
      ctx.config.caseInsensitive
  else likePredicate (ctx.resolver.columnSql name) bound ctx.resolver.dialect ctx.config

/-- The truth of what a named column asks for a keyword: of everything that its custom filter adds,
else of its default predicate unless it is hidden. -/
def demand? (truth : Predicate → Bool) (name keyword bound : String) (regex : Bool) :
    Option Bool :=
  match ctx.registry.filter? name with
  | some f =>
    let added := (f (.fresh ctx.resolver) keyword).added
    if added.isEmpty then none else some (added.all (·.holds truth))
  | none =>
    if ctx.registry.isHidden name then none
    else some (truth (ctx.defaultPredicate name bound regex))

/-- What a column asks for its own keyword. -/
def columnDemand? (truth : Predicate → Bool) (c : ColumnRequest) : Option Bool :=
  if c.isSearched then do
    let name ← c.label?
    ctx.demand? truth name c.search.keyword (c.search.pattern ctx.config) c.search.regex
  else none

/-- What a column asks for a term of the global keyword. -/
def termDemand? (truth : Predicate → Bool) (term : String) (c : ColumnRequest) : Option Bool := do
  let name ← c.label?
  let regex := ctx.request.search.regex
  ctx.demand? truth name term (if regex then term else ctx.config.pattern term) regex

/-- Whether every column gets what it asks for its own keyword. -/
def meetsColumns (truth : Predicate → Bool) : Bool :=
  (ctx.request.columns.filterMap (ctx.columnDemand? truth)).all id

/-- Whether some column gets what it asks for a term, if any asks for something. -/
def meetsTerm (truth : Predicate → Bool) (term : String) : Bool :=
  let demands := ctx.request.searchableColumns.filterMap (ctx.termDemand? truth term)
  demands.isEmpty || demands.any id

/-- Whether every term of a global keyword that is not blank is met. -/
def meetsKeyword (truth : Predicate → Bool) : Bool :=
  !ctx.request.isSearchable || ctx.terms.all (ctx.meetsTerm truth)

end SearchContext

/-! ## Groups mean what is asked for -/

/-- A custom filter's group holds when everything that was added does. -/
theorem FilterScope.holds_condition (truth : Predicate → Bool) (s : FilterScope) :
    s.condition.holds truth = s.added.all (·.holds truth) := by
  have hfold : s.condition = (s.added.map Condition.toClause).foldl .add .all := by
    rw [condition, List.foldl_map]
  rw [hfold, Condition.holds_foldl_add truth _ rfl]
  change Junction.all.join true (Clause.holdsAll truth .all _) = _
  rw [Clause.holdsAll_all, List.all_map]
  rfl

namespace SearchContext

variable (ctx : SearchContext) (truth : Predicate → Bool)

theorem map_holds_clause? (name keyword bound : String) (regex : Bool) :
    (ctx.clause? name keyword bound regex).map (·.holds truth) =
      ctx.demand? truth name keyword bound regex := by
  unfold clause? demand? behavior?
  cases ctx.registry.filter? name with
  | some f =>
    simp only [FilterCallback.condition?, FilterScope.isEmpty]
    by_cases h : (f (.fresh ctx.resolver) keyword).added.isEmpty = true
    · simp only [h, ite_true, Option.map_none]
    · simp only [h, Bool.false_eq_true, ite_false, Option.map_some]
      rw [Condition.holds_toClause, FilterScope.holds_condition]
  | none =>
    by_cases h : ctx.registry.isHidden name = true
    · simp only [h, ite_true, Option.map_none]
    · simp only [h, Bool.false_eq_true, ite_false, Option.map_some]
      rfl

theorem map_holds_columnClause? (c : ColumnRequest) :
    (ctx.columnClause? c).map (·.holds truth) = ctx.columnDemand? truth c := by
  unfold columnClause? columnDemand?
  by_cases h : c.isSearched = true
  · simp only [h, ite_true]
    cases c.label? with
    | none => rfl
    | some name => exact ctx.map_holds_clause? truth name _ _ _
  · simp only [h, Bool.false_eq_true, ite_false, Option.map_none]

theorem map_holds_termClause? (term : String) (c : ColumnRequest) :
    (ctx.termClause? term c).map (·.holds truth) = ctx.termDemand? truth term c := by
  unfold termClause? termDemand?
  cases c.label? with
  | none => rfl
  | some name => exact ctx.map_holds_clause? truth name _ _ _

theorem columnDemands_eq_map :
    ctx.request.columns.filterMap (ctx.columnDemand? truth) =
      (ctx.request.columns.filterMap ctx.columnClause?).map (·.holds truth) := by
  rw [List.map_filterMap]
  exact congrArg (ctx.request.columns.filterMap ·)
    (funext fun c => (ctx.map_holds_columnClause? truth c).symm)

theorem termDemands_eq_map (term : String) :
    ctx.request.searchableColumns.filterMap (ctx.termDemand? truth term) =
      (ctx.request.searchableColumns.filterMap (ctx.termClause? term)).map (·.holds truth) := by
  rw [List.map_filterMap]
  exact congrArg (ctx.request.searchableColumns.filterMap ·)
    (funext fun c => (ctx.map_holds_termClause? truth term c).symm)

theorem holds_columnCondition : ctx.columnCondition.holds truth = ctx.meetsColumns truth := by
  rw [columnCondition, Condition.holds_foldl_add truth _ rfl, meetsColumns, columnDemands_eq_map,
    List.all_map]
  exact (Bool.true_and _).trans (Clause.holdsAll_all truth _)

theorem holds_termCondition {term : String} (h : (ctx.termCondition term).isEmpty = false) :
    (ctx.termCondition term).holds truth = ctx.meetsTerm truth term := by
  rw [termCondition, Condition.isEmpty_foldl_add _ rfl] at h
  rw [termCondition, Condition.holds_foldl_add truth _ rfl, meetsTerm, termDemands_eq_map,
    List.isEmpty_map, h, Bool.false_or, List.any_map]
  exact (Bool.false_or _).trans (Clause.holdsAll_any truth _)

theorem meetsColumns_of_isEmpty (h : ctx.columnCondition.isEmpty = true) :
    ctx.meetsColumns truth = true := by
  rw [columnCondition, Condition.isEmpty_foldl_add _ rfl, List.isEmpty_iff] at h
  rw [meetsColumns, columnDemands_eq_map, h]
  rfl

/-- A term that no column takes up asks for nothing. -/
theorem meetsTerm_of_isEmpty {term : String} (h : (ctx.termCondition term).isEmpty = true) :
    ctx.meetsTerm truth term = true := by
  rw [termCondition, Condition.isEmpty_foldl_add _ rfl] at h
  rw [meetsTerm, termDemands_eq_map, List.isEmpty_map, h, Bool.true_or]

end SearchContext

/-! ## Narrowing steps -/

namespace BaseQuery

/-- The WHERE clause that additions narrow: the one of a fresh outer query for a limited statement,
else the statement's own. -/
theorem admits_isolate (q : BaseQuery) (truth : Predicate → Bool) :
    q.isolate.statement.admits truth =
      ((!q.isolated && q.statement.limitsRows) || q.statement.admits truth) := by
  unfold isolate
  cases q.isolated
  · cases q.statement.limitsRows <;> rfl
  · rfl

/-- The isolated query with another WHERE clause. -/
def withFilter (q : BaseQuery) (filter : Option Condition) : BaseQuery :=
  q.modifyStatement fun s => { s with filter }

@[simp] theorem isolate_withFilter (q : BaseQuery) (filter : Option Condition) :
    (q.withFilter filter).isolate = q.withFilter filter :=
  isolate_of_isolated q.isolated_isolate

@[simp] theorem withFilter_withFilter (q : BaseQuery) (filter filter' : Option Condition) :
    (q.withFilter filter).withFilter filter' = q.withFilter filter' := by
  rw [withFilter, modifyStatement, isolate_withFilter]
  rfl

/-- How a step that tells whether it added anything relates to the query before, when it asks the
rows for something: it is the same query, and asked for nothing, or the isolated query with a
narrower WHERE clause. -/
def Narrows (q : BaseQuery) (found : BaseQuery × Bool) (asked : (Predicate → Bool) → Bool) : Prop :=
  (found = (q, false) ∧ ∀ truth, asked truth = true) ∨
    ∃ filter, found = (q.withFilter filter, true) ∧
      ∀ truth, found.1.statement.admits truth = (q.isolate.statement.admits truth && asked truth)

namespace Narrows

variable {q : BaseQuery} {asked asked' : (Predicate → Bool) → Bool}

theorem congr {found : BaseQuery × Bool} (h : q.Narrows found asked)
    (same : ∀ truth, asked truth = asked' truth) : q.Narrows found asked' := by
  rwa [← funext same]

/-- A step that does nothing asks for nothing. -/
theorem refl : q.Narrows (q, false) fun _ => true :=
  .inl ⟨rfl, fun _ => rfl⟩

/-- Steps in a row ask for the conjunction of what each asks for. -/
theorem trans {first : BaseQuery × Bool} {second : BaseQuery × Bool}
    (h : q.Narrows first asked) (h' : first.1.Narrows second asked') :
    q.Narrows (second.1, first.2 || second.2) fun truth => asked truth && asked' truth := by
  obtain ⟨rfl, hall⟩ | ⟨filter, rfl, hadmits⟩ := h
  · exact h'.congr fun truth => by rw [hall, Bool.true_and]
  · obtain ⟨rfl, hall'⟩ | ⟨filter', rfl, hadmits'⟩ := h'
    · refine .inr ⟨filter, rfl, fun truth => ?_⟩
      simp only [hadmits, hall', Bool.and_true]
    · refine .inr ⟨filter', by rw [withFilter_withFilter]; rfl, fun truth => ?_⟩
      rw [hadmits', isolate_withFilter, hadmits, Bool.and_assoc]

end Narrows

theorem narrows_addCondition (q : BaseQuery) (c : Condition) :
    q.Narrows (q.addCondition c, true) (c.holds ·) :=
  .inr ⟨some (Condition.conjoin q.isolate.statement.filter c), rfl,
    fun truth => q.isolate.statement.admits_conjoin truth c⟩

/-- A condition is added unless it is empty; an empty one must ask for nothing. -/
theorem narrows_addNonEmpty (q : BaseQuery) {c : Condition} {asked : (Predicate → Bool) → Bool}
    (hempty : c.isEmpty = true → ∀ truth, asked truth = true)
    (hholds : c.isEmpty = false → ∀ truth, c.holds truth = asked truth) :
    q.Narrows (q.addNonEmpty c) asked := by
  unfold addNonEmpty
  cases h : c.isEmpty
  · exact (q.narrows_addCondition c).congr (hholds h)
  · exact .inl ⟨rfl, hempty h⟩

theorem narrows_searchColumns (q : BaseQuery) (ctx : SearchContext) :
    q.Narrows (q.searchColumns ctx) ctx.meetsColumns :=
  q.narrows_addNonEmpty (fun h truth => ctx.meetsColumns_of_isEmpty truth h)
    fun _ truth => ctx.holds_columnCondition truth

/-- Each term narrows the query further. -/
theorem narrows_searchTerms (ctx : SearchContext) {q : BaseQuery} : ∀ (terms : List String)
    {found : BaseQuery × Bool} {asked : (Predicate → Bool) → Bool}, q.Narrows found asked →
      q.Narrows (searchTerms ctx found terms) fun truth =>
        asked truth && terms.all (ctx.meetsTerm truth)
  | [], _, _, h => h.congr fun _ => (Bool.and_true _).symm
  | term :: rest, (p, applied), asked, h => by
    have hterm : p.Narrows (p.addNonEmpty (ctx.termCondition term)) (ctx.meetsTerm · term) :=
      p.narrows_addNonEmpty (fun h truth => ctx.meetsTerm_of_isEmpty truth h)
        fun h truth => ctx.holds_termCondition truth h
    refine (narrows_searchTerms ctx rest (h.trans hterm)).congr fun truth => ?_
    rw [List.all_cons, Bool.and_assoc]

theorem narrows_searchGlobally (q : BaseQuery) (ctx : SearchContext) :
    q.Narrows (q.searchGlobally ctx) ctx.meetsKeyword := by
  unfold searchGlobally
  cases h : ctx.request.isSearchable
  · refine Narrows.refl.congr fun truth => ?_
    rw [SearchContext.meetsKeyword, h]
    rfl
  · refine (narrows_searchTerms ctx ctx.terms Narrows.refl).congr fun truth => ?_
    rw [SearchContext.meetsKeyword, h]
    rfl

/-- The searches of single columns, then the search by the global keyword, and whether either
narrowed the query. -/
def searched (q : BaseQuery) (ctx : SearchContext) : BaseQuery × Bool :=
  let byColumn := q.searchColumns ctx
  let byKeyword := byColumn.1.searchGlobally ctx
  (byKeyword.1, byColumn.2 || byKeyword.2)

theorem narrows_searched (q : BaseQuery) (ctx : SearchContext) :
    q.Narrows (q.searched ctx) fun truth => ctx.meetsColumns truth && ctx.meetsKeyword truth :=
  (q.narrows_searchColumns ctx).trans ((q.searchColumns ctx).1.narrows_searchGlobally ctx)

/-- **Searches compose by conjunction.** After both searches the WHERE clause says what it said
before, and what every searched column and every term of the global keyword asks for. Before means
the statement as it is when nothing was added, and else the isolated one, whose WHERE clause is
empty when the statement was limited. -/
theorem admits_searched (q : BaseQuery) (ctx : SearchContext) (truth : Predicate → Bool) :
    (q.searched ctx).1.statement.admits truth =
        ((if (q.searched ctx).2 then q.isolate else q).statement.admits truth &&
          ctx.meetsColumns truth && ctx.meetsKeyword truth) ∧
      q.isolate.statement.admits truth =
        ((!q.isolated && q.statement.limitsRows) || q.statement.admits truth) := by
  refine ⟨?_, q.admits_isolate truth⟩
  rw [Bool.and_assoc]
  obtain ⟨hsame, hall⟩ | ⟨filter, hfound, hadmits⟩ := q.narrows_searched ctx
  · have hasked : (ctx.meetsColumns truth && ctx.meetsKeyword truth) = true := hall truth
    rw [hsame, hasked, Bool.and_true]
    rfl
  · rw [hadmits, hfound]
    rfl

end BaseQuery

end ServerGrid
