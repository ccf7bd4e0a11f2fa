import ServerGrid.Proofs.Search.Keywords
import ServerGrid.Proofs.Text.Cutting

/-!
# One keyword, asked of a column or of the grid

With one searchable column a keyword may be asked of that column or as the global one. The first way
adds its clause to a group of `all`, the second to a group of `any`, and the groups go into the WHERE
clause by different rules; but a group of one member is written as the member
(`formula_conjoin_lone`). Main statement: `searched_alike`, both ways lead to the same statements.
-/

namespace ServerGrid

/-! ## Requests for one column -/

namespace Request

/-- The only searchable column asks for a keyword of its own, and the global keyword is blank. -/
structure AsksColumn (r : Request) (c : ColumnRequest) (s : SearchTerm) : Prop where
  columns : r.searchableColumns = [{ c with search := s }]
  search : r.isSearchable = false

/-- The only searchable column has no keyword of its own, and the global keyword is given. -/
structure AsksGlobally (r : Request) (c : ColumnRequest) (s : SearchTerm) : Prop where
  columns : ∃ own : SearchTerm, own.keyword.isEmpty = true ∧
    r.searchableColumns = [{ c with search := own }]
  search : r.search = s

end Request

namespace SearchContext

/-- The clause that a column adds for a keyword, whichever way it is asked for. -/
def soughtClause? (ctx : SearchContext) (c : ColumnRequest) (s : SearchTerm) : Option Clause := do
  let name ← c.label?
  ctx.clause? name s.keyword (s.pattern ctx.config) s.regex

/-- Only searchable columns take part in the searches of single columns. -/
theorem filterMap_columnClause? (ctx : SearchContext) :
    ctx.request.columns.filterMap ctx.columnClause? =
      ctx.request.searchableColumns.filterMap ctx.columnClause? := by
  rw [Request.searchableColumns, List.filterMap_filter]
  congr 1
  funext c
  cases hc : c.searchable with
  | true => rfl
  | false => simp [columnClause?, ColumnRequest.isSearched, hc]

section OneColumn

variable {registry : Registry} {resolver : Resolver} {config : Config} {r : Request}
  {c : ColumnRequest} {s : SearchTerm}

theorem columnCondition_of_asksColumn (hr : r.AsksColumn c s) (hs : s.keyword.isEmpty = false) :
    let ctx : SearchContext := ⟨r, registry, resolver, config⟩
    ctx.columnCondition = (ctx.soughtClause? c s).toList.foldl .add .all := by
  intro ctx
  have hsearchable : c.searchable = true := by
    have hmem : { c with search := s } ∈ r.searchableColumns := by
      rw [hr.columns]
      exact List.mem_singleton_self _
    exact (List.mem_filter.1 hmem).2
  have hclause : ctx.columnClause? { c with search := s } = ctx.soughtClause? c s := by
    simp only [columnClause?, ColumnRequest.isSearched, hsearchable, hs]
    rfl
  rw [columnCondition, filterMap_columnClause?]
  change (r.searchableColumns.filterMap _).foldl _ _ = _
  rw [hr.columns, List.filterMap_cons, hclause]
  cases ctx.soughtClause? c s <;> rfl

theorem columnCondition_of_asksGlobally (hr : r.AsksGlobally c s) :
    (⟨r, registry, resolver, config⟩ : SearchContext).columnCondition = .all := by
  obtain ⟨own, hown, hcolumns⟩ := hr.columns
  rw [columnCondition, filterMap_columnClause?]
  change (r.searchableColumns.filterMap _).foldl _ _ = _
  rw [hcolumns]
  simp [columnClause?, ColumnRequest.isSearched, hown]

theorem termCondition_of_asksGlobally (hr : r.AsksGlobally c s) :
    let ctx : SearchContext := ⟨r, registry, resolver, config⟩
    ctx.termCondition s.keyword = (ctx.soughtClause? c s).toList.foldl .add .any := by
  intro ctx
  obtain ⟨own, -, hcolumns⟩ := hr.columns
  have hclause : ctx.termClause? s.keyword { c with search := own } = ctx.soughtClause? c s := by
    have hsearch : ctx.request.search = s := hr.search
    rw [termClause?, hsearch]
    rfl
  rw [termCondition]
  change (r.searchableColumns.filterMap _).foldl _ _ = _
  rw [hcolumns, List.filterMap_cons, hclause]
  cases ctx.soughtClause? c s <;> rfl

/-- A keyword that is not cut is the only term. -/
theorem terms_of_whole (hr : r.AsksGlobally c s) (hs : s.keyword.isEmpty = false)
    (hwhole : config.multiTerm = false ∨ s.regex = true ∨
      ∀ x ∈ s.keyword.toList, Text.isBlank x = false) :
    (⟨r, registry, resolver, config⟩ : SearchContext).terms = [s.keyword] := by
  have hkeyword : r.keyword = s.keyword := congrArg SearchTerm.keyword hr.search
  rw [terms, hr.search, hkeyword]
  rcases hwhole with hsingle | hregex | hblank
  · simp [hsingle]
  · simp [hregex]
  · rw [Text.words_of_forall hblank hs, ite_self]

end OneColumn

end SearchContext

/-! ## Groups of one member -/

/-- A group of one member narrows a condition to the same text, whatever its junction. -/
theorem Condition.formula_conjoin_lone (current : Option Condition) (member : Clause) :
    (conjoin current (all.add member)).formula = (conjoin current (any.add member)).formula := by
  cases current with
  | none => rfl
  | some current =>
    by_cases hcurrent : current.isPlainAll = true
    · simp only [conjoin, hcurrent, ite_true]
      rfl
    · simp only [conjoin, hcurrent]
      rfl

theorem Select.pieces_congr (backend : Backend) (s : Select) {c c' : Condition}
    (h : c.formula = c'.formula) :
    { s with filter := some c }.pieces backend = { s with filter := some c' }.pieces backend := by
  cases s
  simp only [Select.pieces, conditionPieces, Condition.pieces, h]

namespace BaseQuery

/-- Queries with WHERE clauses of one formula are fetched and counted by the same statements. -/
theorem statements_withFilter (q : BaseQuery) {c c' : Condition} (h : c.formula = c'.formula)
    (backend : Backend) (dialect : Dialect) :
    (q.withFilter (some c)).build backend dialect = (q.withFilter (some c')).build backend dialect ∧
      (q.withFilter (some c)).countStatement backend =
        (q.withFilter (some c')).countStatement backend := by
  have hpieces := q.isolate.statement.pieces_congr backend h
  have hconstant := q.isolate.statement.withConstantItem.pieces_congr backend h
  have hstatement : (q.withFilter (some c)).statement.statement backend =
      (q.withFilter (some c')).statement.statement backend :=
    congrArg (Piece.statement backend) hpieces
  constructor
  · rw [build, build, hstatement]
    rfl
  · have hcounted : ((q.withFilter (some c)).statement.counted backend).pieces backend =
        ((q.withFilter (some c')).statement.counted backend).pieces backend := by
      rw [Select.counted, Select.counted, hstatement]
      split
      · exact hpieces
      · exact hconstant
    rw [countStatement, countStatement, Select.statement, Select.statement, Select.pieces_countOf,
      Select.pieces_countOf, hcounted]

/-- A lone member narrows a query to the same statements, whatever group it comes in. -/
theorem statements_addNonEmpty (q : BaseQuery) (member? : Option Clause) :
    let ofAll := q.addNonEmpty (member?.toList.foldl .add .all)
    let ofAny := q.addNonEmpty (member?.toList.foldl .add .any)
    ofAll.2 = ofAny.2 ∧ ∀ backend dialect,
      ofAll.1.build backend dialect = ofAny.1.build backend dialect ∧
        ofAll.1.countStatement backend = ofAny.1.countStatement backend := by
  cases member? with
  | none => exact ⟨rfl, fun _ _ => ⟨rfl, rfl⟩⟩
  | some member =>
    exact ⟨rfl, q.statements_withFilter
      (Condition.formula_conjoin_lone q.isolate.statement.filter member)⟩

section OneColumn

variable (q : BaseQuery) (registry : Registry) (resolver : Resolver) (config : Config)
  {r r' : Request} {c : ColumnRequest} {s : SearchTerm}

theorem searched_of_asksColumn (hr : r.AsksColumn c s) (hs : s.keyword.isEmpty = false) :
    let ctx : SearchContext := ⟨r, registry, resolver, config⟩
    q.searched ctx = q.addNonEmpty ((ctx.soughtClause? c s).toList.foldl .add .all) := by
  intro ctx
  have hglobally : ∀ p : BaseQuery, p.searchGlobally ctx = (p, false) := by
    intro p
    rw [searchGlobally]
    exact if_neg (Bool.eq_false_iff.1 hr.search)
  rw [searched, hglobally, searchColumns, SearchContext.columnCondition_of_asksColumn hr hs,
    Bool.or_false]

theorem searched_of_asksGlobally (hr : r.AsksGlobally c s) (hs : s.keyword.isEmpty = false)
    (hwhole : config.multiTerm = false ∨ s.regex = true ∨
      ∀ x ∈ s.keyword.toList, Text.isBlank x = false) :
    let ctx : SearchContext := ⟨r, registry, resolver, config⟩
    q.searched ctx = q.addNonEmpty ((ctx.soughtClause? c s).toList.foldl .add .any) := by
  intro ctx
  have hcolumns : q.searchColumns ctx = (q, false) := by
    rw [searchColumns, SearchContext.columnCondition_of_asksGlobally hr]
    rfl
  have hsearchable : ctx.request.isSearchable = true := by
    change (!r.search.keyword.isEmpty) = true
    rw [hr.search, hs]
    rfl
  have hterm : ctx.termCondition s.keyword = _ := SearchContext.termCondition_of_asksGlobally hr
  rw [searched, hcolumns, searchGlobally, if_pos hsearchable,
    SearchContext.terms_of_whole hr hs hwhole, ← hterm]
  simp only [searchTerms, Bool.false_or]

/-- **A column's own search and the global one agree.** A keyword that is not cut into terms leads to
the same statements, and is told to have narrowed the query or not in the same way, whether the only
searchable column asks for it or it is the global keyword. -/
theorem searched_alike (hr : r.AsksColumn c s) (hr' : r'.AsksGlobally c s)
    (hs : s.keyword.isEmpty = false)
    (hwhole : config.multiTerm = false ∨ s.regex = true ∨
      ∀ x ∈ s.keyword.toList, Text.isBlank x = false) :
    let byColumn := q.searched ⟨r, registry, resolver, config⟩
    let byKeyword := q.searched ⟨r', registry, resolver, config⟩
    byColumn.2 = byKeyword.2 ∧ ∀ backend dialect,
      byColumn.1.build backend dialect = byKeyword.1.build backend dialect ∧
        byColumn.1.countStatement backend = byKeyword.1.countStatement backend := by
  let ctx : SearchContext := ⟨r, registry, resolver, config⟩
  intro byColumn byKeyword
  have hcolumn : byColumn = q.addNonEmpty ((ctx.soughtClause? c s).toList.foldl .add .all) :=
    q.searched_of_asksColumn registry resolver config hr hs
  have hkeyword : byKeyword = q.addNonEmpty ((ctx.soughtClause? c s).toList.foldl .add .any) :=
    q.searched_of_asksGlobally registry resolver config hr' hs hwhole
  rw [hcolumn, hkeyword]
  exact q.statements_addNonEmpty (ctx.soughtClause? c s)

end OneColumn

/-- A request with one searchable column, which asks for a keyword of its own beside the global
one. -/
def oneSearchable (own globally : SearchTerm) : Request :=
  { Request.empty with
    columns := [{ ColumnRequest.ofName "bio" with searchable := false },
      { ColumnRequest.ofName "name" with search := own }]
    search := globally }

/-- A column that is searched for a keyword in two others. -/
def inTwoColumns : Registry :=
  Registry.empty.registerFilter "name" fun scope keyword =>
    (scope.columnEquals "first" (.ofString keyword)).columnEquals "last" (.ofString keyword)

/-- A keyword between blanks for a column with a custom filter. -/
theorem searched_alike_john :
    let s : SearchTerm := ⟨" John ", false⟩
    let name := ColumnRequest.ofName "name"
    let q := ofTable "users"
    let byColumn :=
      q.searched ⟨oneSearchable s .blank, inTwoColumns, ⟨q.scope, .postgres⟩, .default⟩
    let byKeyword :=
      q.searched ⟨oneSearchable .blank s, inTwoColumns, ⟨q.scope, .postgres⟩, .default⟩
    (oneSearchable s .blank).AsksColumn name s ∧ (oneSearchable .blank s).AsksGlobally name s ∧
      s.keyword.isEmpty = false ∧ (∀ x ∈ s.keyword.toList, Text.isBlank x = false) ∧
      byColumn.2 = true ∧ byKeyword.2 = true ∧
      byColumn.1.build .postgres .postgres = byKeyword.1.build .postgres .postgres ∧
      byColumn.1.countStatement .postgres = byKeyword.1.countStatement .postgres := by
  intro s name q byColumn byKeyword
  have hr : (oneSearchable s .blank).AsksColumn name s := ⟨rfl, rfl⟩
  have hr' : (oneSearchable .blank s).AsksGlobally name s := ⟨⟨.blank, rfl, rfl⟩, rfl⟩
  have hs : s.keyword.isEmpty = false := by decide
  have hall : s.keyword.toList.all (!Text.isBlank ·) = true := by decide
  have hblank : ∀ x ∈ s.keyword.toList, Text.isBlank x = false := by
    simpa only [List.all_eq_true, Bool.not_eq_true'] using hall
  obtain ⟨happlied, hsame⟩ := searched_alike q inTwoColumns ⟨q.scope, .postgres⟩ .default hr hr' hs
    (.inr (.inr hblank))
  have hcolumn : byColumn.2 = true := by decide
  exact ⟨hr, hr', hs, hblank, hcolumn, happlied ▸ hcolumn, hsame .postgres .postgres⟩

end BaseQuery

end ServerGrid
