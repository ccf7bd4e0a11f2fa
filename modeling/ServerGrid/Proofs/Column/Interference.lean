import ServerGrid.Proofs.Grid.Trace
import ServerGrid.Proofs.Search.Keywords

/-!
# Hidden columns have no effect

A client can send a keyword for a hidden column and sort on it. Without a custom filter or template
that changes nothing: requests that differ in nothing else (`Request.SameShown`) search and order
every query alike, wherever the hidden columns stand among the others, and whatever the others do.
Main statement: `without_effect`, which takes this to the runs of any grid.
-/

namespace ServerGrid

/-! ## Requests that differ in hidden columns -/

/-- Whether the registry lets clients search a name. -/
def Registry.searches (registry : Registry) (name : String) : Bool :=
  (registry.filter? name).isSome || !registry.isHidden name

/-- Whether the registry lets clients sort on a name. -/
def Registry.sorts (registry : Registry) (name : String) : Bool :=
  (registry.order? name).isSome || !registry.isHidden name

/-- Columns that only differ in the keyword, if clients cannot search their name. -/
structure ColumnRequest.SameShown (registry : Registry) (c c' : ColumnRequest) : Prop where
  data : c.data = c'.data
  name : c.name = c'.name
  searchable : c.searchable = c'.searchable
  orderable : c.orderable = c'.orderable
  search : c.search = c'.search ∨ ∃ name, c.label? = some name ∧ registry.searches name = false

/-- Whether a directive points at no column, at one without a name, or at a name that clients can
sort on. -/
def Request.sorts (registry : Registry) (r : Request) (o : OrderRequest) : Bool :=
  match r.columnName? o.column.toNat with
  | some name => registry.sorts name
  | none => true

/-- Requests that only differ in keywords of columns that clients cannot search, and in directives
on columns that they cannot sort on. -/
structure Request.SameShown (registry : Registry) (r r' : Request) : Prop where
  draw : r.draw = r'.draw
  start : r.start = r'.start
  length : r.length = r'.length
  search : r.search = r'.search
  columns : List.Forall₂ (ColumnRequest.SameShown registry) r.columns r'.columns
  order : r.order.filter (r.sorts registry) = r'.order.filter (r'.sorts registry)

theorem ColumnRequest.SameShown.label? {registry : Registry} {c c' : ColumnRequest}
    (h : c.SameShown registry c') : c.label? = c'.label? := by
  unfold ColumnRequest.label?
  rw [h.data, h.name]

theorem ColumnRequest.SameShown.eq_of_search {registry : Registry} {c c' : ColumnRequest}
    (h : c.SameShown registry c') (hsearch : c.search = c'.search) : c = c' := by
  obtain ⟨data, name, searchable, orderable, search⟩ := c
  obtain ⟨data', name', searchable', orderable', search'⟩ := c'
  obtain ⟨rfl, rfl, rfl, rfl, -⟩ := h
  exact congrArg (ColumnRequest.mk data name searchable orderable) hsearch

theorem Registry.searches_eq_false_iff {registry : Registry} {name : String} :
    registry.searches name = false ↔
      registry.filter? name = none ∧ registry.isHidden name = true := by
  simp [searches]

theorem Registry.sorts_eq_false_iff {registry : Registry} {name : String} :
    registry.sorts name = false ↔
      registry.order? name = none ∧ registry.isHidden name = true := by
  simp [sorts]

namespace Request.SameShown

variable {registry : Registry} {r r' : Request} (h : r.SameShown registry r')
  (resolver : Resolver) (config : Config)

/-! ## Searching -/

variable (r r') in
theorem columnClause?_eq {c c' : ColumnRequest} (hc : c.SameShown registry c') :
    (⟨r, registry, resolver, config⟩ : SearchContext).columnClause? c =
      (⟨r', registry, resolver, config⟩ : SearchContext).columnClause? c' := by
  rcases hc.search with hsearch | ⟨name, hlabel, hhidden⟩
  · rw [hc.eq_of_search hsearch]
    rfl
  · have hlabel' : c'.label? = some name := hc.label?.symm.trans hlabel
    obtain ⟨hfilter, hhidden⟩ := Registry.searches_eq_false_iff.1 hhidden
    have hnone : ∀ (r : Request) (keyword bound : String) (regex : Bool),
        (⟨r, registry, resolver, config⟩ : SearchContext).clause? name keyword bound regex =
          none := fun _ => SearchContext.clause?_eq_none hfilter hhidden
    rw [SearchContext.columnClause?_eq_none hlabel (hnone r),
      SearchContext.columnClause?_eq_none hlabel' (hnone r')]

include h

theorem columnCondition_eq :
    (⟨r, registry, resolver, config⟩ : SearchContext).columnCondition =
      (⟨r', registry, resolver, config⟩ : SearchContext).columnCondition := by
  refine congrArg (List.foldl Condition.add Condition.all) ?_
  refine filterMap_of_forall₂ (fun c c' hc => ?_) h.columns
  exact columnClause?_eq r r' resolver config hc

theorem searchableColumns :
    List.Forall₂ (ColumnRequest.SameShown registry) r.searchableColumns r'.searchableColumns :=
  searchableColumns_of_forall₂ h.columns fun _ _ hc => hc.searchable

/-- The global keyword does not look at the keywords of columns. -/
theorem termCondition_eq (term : String) :
    (⟨r, registry, resolver, config⟩ : SearchContext).termCondition term =
      (⟨r', registry, resolver, config⟩ : SearchContext).termCondition term := by
  refine congrArg (List.foldl Condition.add Condition.any) ?_
  refine filterMap_of_forall₂ (fun c c' hc => ?_) h.searchableColumns
  unfold SearchContext.termClause?
  simp only [hc.label?, h.search]
  rfl

theorem searchColumns_eq (q : BaseQuery) :
    q.searchColumns ⟨r', registry, resolver, config⟩ =
      q.searchColumns ⟨r, registry, resolver, config⟩ :=
  q.searchColumns_congr _ _ (h.columnCondition_eq resolver config).symm

theorem searchGlobally_eq (q : BaseQuery) :
    q.searchGlobally ⟨r', registry, resolver, config⟩ =
      q.searchGlobally ⟨r, registry, resolver, config⟩ := by
  refine q.searchGlobally_congr _ _ ?_ ?_ fun term =>
    (h.termCondition_eq resolver config term).symm
  · unfold Request.isSearchable Request.keyword
    rw [h.search]
  · unfold SearchContext.terms Request.keyword
    rw [h.search]

/-! ## Ordering -/

theorem columnName?_eq (index : Nat) : r.columnName? index = r'.columnName? index :=
  columnName?_of_forall₂ h.columns (fun _ _ hc => hc.label?) index

theorem keeps_eq : r.keeps = r'.keeps :=
  keeps_of_forall₂ h.columns fun _ _ hc => hc.orderable

theorem clause_eq (d : OrderDirective) :
    (⟨r', registry, resolver, config⟩ : OrderContext).clause d =
      (⟨r, registry, resolver, config⟩ : OrderContext).clause d := by
  unfold OrderContext.clause
  simp only [← h.columnName?_eq, ← h.columns.length_eq]
  rfl

end Request.SameShown

namespace Request

variable (registry : Registry) (r : Request)

/-- The directives that clients can sort by, and those on no named column. -/
def sortedDirectives : List OrderDirective :=
  ((r.order.filter (r.sorts registry)).filter r.keeps).map fun o => ⟨o.column, .ofText o.dir⟩

variable {registry r}

/-- The other directives add no sort key. -/
theorem orderDirectives_sortedDirectives (resolver : Resolver) (config : Config) (q : BaseQuery) :
    q.orderDirectives ⟨r, registry, resolver, config⟩ (r.sortedDirectives registry) =
      q.applyOrdering ⟨r, registry, resolver, config⟩ := by
  let ctx : OrderContext := ⟨r, registry, resolver, config⟩
  have hnone : ∀ d : OrderDirective,
      r.sorts registry ⟨d.column, ""⟩ = false → ctx.clause d = .ok none := by
    intro d hd
    unfold sorts at hd
    split at hd
    · next name hname =>
      obtain ⟨horder, hhidden⟩ := Registry.sorts_eq_false_iff.1 hd
      exact OrderContext.clause_eq_none horder hname hhidden
    · cases hd
  have hkept : r.sortedDirectives registry =
      r.directives.filter fun d => r.sorts registry ⟨d.column, ""⟩ := by
    rw [directives_eq, List.filter_map, List.filter_filter, sortedDirectives, List.filter_filter]
    refine congrArg (List.map _) (List.filter_congr fun o _ => Bool.and_comm _ _)
  rw [hkept]
  exact BaseQuery.orderDirectives_filter hnone r.directives q

theorem SameShown.applyOrdering_eq {r' : Request} (h : r.SameShown registry r')
    (resolver : Resolver) (config : Config) (q : BaseQuery) :
    q.applyOrdering ⟨r', registry, resolver, config⟩ =
      q.applyOrdering ⟨r, registry, resolver, config⟩ := by
  have hdirectives : r'.sortedDirectives registry = r.sortedDirectives registry := by
    unfold sortedDirectives
    rw [← h.keeps_eq, h.order]
  calc q.applyOrdering ⟨r', registry, resolver, config⟩
      = q.orderDirectives ⟨r', registry, resolver, config⟩ (r'.sortedDirectives registry) :=
        (orderDirectives_sortedDirectives resolver config q).symm
    _ = q.orderDirectives ⟨r, registry, resolver, config⟩ (r.sortedDirectives registry) := by
        rw [hdirectives]
        exact BaseQuery.orderDirectives_congr _ _ (h.clause_eq resolver config) _ q
    _ = q.applyOrdering ⟨r, registry, resolver, config⟩ :=
        orderDirectives_sortedDirectives resolver config q

end Request

/-! ## Runs -/

/-- Grids that match and only differ in the request answer the same but for the request itself. -/
theorem Grid.make_of_match {g : Grid} {r' : Request} {backend : Backend}
    (h : Grid.Match backend id Eq g { g with request := r' }) (hdraw : g.request.draw = r'.draw)
    (replies : List Reply) :
    ({ g with request := r' }.make backend replies).sent = (g.make backend replies).sent ∧
      ({ g with request := r' }.make backend replies).result =
        { (g.make backend replies).result with input := { g with request := r' }.input } := by
  let g' : Grid := { g with request := r' }
  have hsent : g'.statements backend replies = g.statements backend replies :=
    (h.statements_eq replies).symm
  have hlog : (g'.finished backend replies).log = (g.finished backend replies).log := by
    change (if g.config.debug then (g'.statements backend replies).filterMap _ else []) = _
    rw [hsent]
    rfl
  change (g'.make backend replies).sent = _ ∧ (g'.make backend replies).result = _
  rw [make_eq, make_eq, ← h.outcome_eq replies]
  refine ⟨hsent, ?_⟩
  cases g.outcome backend replies with
  | ok page =>
    simp only [respond, hlog, g', hdraw]
  | error f =>
    simp only [respondFailure, hlog, g', hdraw]
    rfl

theorem Request.SameShown.match_grid {g : Grid} {r' : Request}
    (h : g.request.SameShown g.registry r') (backend : Backend) :
    Grid.Match backend id Eq g { g with request := r' } := by
  have hpage : r'.page? = g.request.page? := by
    unfold page? isPaged
    rw [h.start, h.length]
  exact Grid.match_of_reads g backend r' g.config (fun resolver => h.searchColumns_eq resolver _)
    (fun resolver => h.searchGlobally_eq resolver _)
    (fun resolver => h.applyOrdering_eq resolver _) hpage

/-- **Hidden columns have no effect.** Requests that only differ in keywords of columns that clients
cannot search, and in directives on columns that they cannot sort on, make both searches and the
ordering do the same to every query, with the same results. So the runs of every grid send the same
statements, and answer the same but for the request that is told while debugging. -/
theorem Request.SameShown.without_effect (registry : Registry) (config : Config) (r r' : Request)
    (h : r.SameShown registry r') :
    (∀ (resolver : Resolver) (q : BaseQuery),
      q.searchColumns ⟨r', registry, resolver, config⟩ =
          q.searchColumns ⟨r, registry, resolver, config⟩ ∧
        q.searchGlobally ⟨r', registry, resolver, config⟩ =
          q.searchGlobally ⟨r, registry, resolver, config⟩ ∧
        q.applyOrdering ⟨r', registry, resolver, config⟩ =
          q.applyOrdering ⟨r, registry, resolver, config⟩) ∧
    ∀ (g : Grid) (backend : Backend) (replies : List Reply),
      g.request = r → g.registry = registry → g.config = config →
        ({ g with request := r' }.make backend replies).sent = (g.make backend replies).sent ∧
          ({ g with request := r' }.make backend replies).result =
            { (g.make backend replies).result with input := { g with request := r' }.input } := by
  refine ⟨fun resolver q => ⟨h.searchColumns_eq resolver config q,
    h.searchGlobally_eq resolver config q, h.applyOrdering_eq resolver config q⟩, ?_⟩
  rintro g backend replies rfl rfl rfl
  exact Grid.make_of_match (h.match_grid backend) h.draw replies

/-- A request for names and passwords, with a keyword for both. -/
def probe (password : SearchTerm) (order : List OrderRequest) : Request where
  draw := 1
  columns := [⟨"name", none, true, true, ⟨"ann", false⟩⟩, ⟨"password", none, true, true, password⟩]
  order := order
  start := none
  length := none
  search := ⟨"a", false⟩

/-- Neither a keyword for the password nor sorts on it are noticed. -/
theorem without_effect_password :
    let users : Grid := (Grid.new (.ofTable "users")
      (probe ⟨"", false⟩ [⟨0, "asc"⟩])).hide ["password"]
    let guess := probe ⟨"^s3cret", true⟩ [⟨1, "desc"⟩, ⟨0, "asc"⟩, ⟨1, "asc"⟩]
    let replies : List Reply := [.rows [[("aggregate", .bigInt (some 5))]],
      .rows [[("aggregate", .bigInt (some 2))]], .rows []]
    guess ≠ users.request ∧ (users.make .sqlite replies).sent.length = 3 ∧
      ({ users with request := guess }.make .sqlite replies).sent =
        (users.make .sqlite replies).sent := by
  refine ⟨by decide, by decide +kernel, ?_⟩
  refine ((Request.SameShown.without_effect _ _ _ _ ?_).2 _ _ _ rfl rfl rfl).1
  exact {
    draw := rfl
    start := rfl
    length := rfl
    search := rfl
    columns := .cons ⟨rfl, rfl, rfl, rfl, .inl rfl⟩
      (.cons ⟨rfl, rfl, rfl, rfl, .inr ⟨"password", rfl, by decide⟩⟩ .nil)
    order := by decide }

end ServerGrid
