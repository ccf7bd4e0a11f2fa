import ServerGrid.Proofs.Column.Reading
import ServerGrid.Proofs.Search.Dependence
import ServerGrid.Proofs.Sql.Truth

/-!
# Columns that are passed over

A search passes a name over when it does the same to every query after the columns of that name are
taken out of the searchable ones, and likewise for the ordering. Without a custom filter or template
that is so exactly for hidden names. What is hidden is a spelling, though, and one column has
several. Main statement: `hidden_under_every_spelling_iff`, a column is out of reach under every
spelling exactly when every spelling is hidden.
-/

namespace ServerGrid

/-! ## Requests without a column -/

namespace Request

/-- The request with the columns of a name changed. -/
def changeColumns (r : Request) (name : String) (change : ColumnRequest → ColumnRequest) :
    Request :=
  { r with columns := r.columns.map fun c => if c.label? = some name then change c else c }

/-- The request with the columns of a name not searchable. -/
def withoutSearch (r : Request) (name : String) : Request :=
  r.changeColumns name fun c => { c with searchable := false }

/-- The request with the columns of a name not orderable. -/
def withoutOrder (r : Request) (name : String) : Request :=
  r.changeColumns name fun c => { c with orderable := false }

end Request

/-- Whether a column can have a name. -/
def isLabel (name : String) : Bool := !name.toList.all Char.isDigit

theorem isLabel_of_label? {c : ColumnRequest} {name : String} (h : c.label? = some name) :
    isLabel name = true := by
  have hgiven : ∀ given : String,
      (if given.toList.all Char.isDigit then none else some given) = some name →
        isLabel name = true := by
    intro given heq
    split at heq
    · cases heq
    · next hdigits =>
      cases heq
      rw [isLabel, Bool.eq_false_iff.2 hdigits]
      rfl
  exact hgiven _ h

/-- A column that is searched and can be ordered. -/
def ColumnRequest.ofName (name : String) : ColumnRequest := ⟨name, none, true, true, ⟨"x", false⟩⟩

theorem ColumnRequest.label?_ofName {name : String} (h : isLabel name = true) :
    (ofName name).label? = some name := by
  have hdigits : name.toList.all Char.isDigit = false := Bool.not_eq_true' _ ▸ h
  unfold label?
  simp only [ofName, hdigits]
  rfl

theorem ColumnRequest.isSearched_ofName (name : String) : (ofName name).isSearched = true := by
  have hkeyword : (SearchTerm.keyword ⟨"x", false⟩).isEmpty = false := by decide
  change (true && !(SearchTerm.keyword ⟨"x", false⟩).isEmpty) = true
  rw [hkeyword]
  rfl

/-- One column, with a keyword of its own and a sort on it. -/
def Request.ofName (name : String) : Request :=
  { Request.empty with columns := [.ofName name], order := [⟨0, "asc"⟩] }

/-! ## Searching -/

namespace SearchContext

variable {ctx : SearchContext} {name : String}

/-- A hidden name without a custom filter has no clause. -/
theorem clause?_eq_none (hfilter : ctx.registry.filter? name = none)
    (hhidden : ctx.registry.isHidden name = true) (keyword bound : String) (regex : Bool) :
    ctx.clause? name keyword bound regex = none := by
  unfold clause? behavior?
  rw [hfilter, hhidden]
  rfl

theorem columnClause?_eq_none {c : ColumnRequest} (hlabel : c.label? = some name)
    (hnone : ∀ keyword bound regex, ctx.clause? name keyword bound regex = none) :
    ctx.columnClause? c = none := by
  unfold columnClause?
  split
  · rw [hlabel]
    exact hnone _ _ _
  · rfl

theorem columnCondition_withoutSearch
    (hnone : ∀ keyword bound regex, ctx.clause? name keyword bound regex = none) :
    ({ ctx with request := ctx.request.withoutSearch name } : SearchContext).columnCondition =
      ctx.columnCondition := by
  have hclause : ∀ c : ColumnRequest, ctx.columnClause?
      (if c.label? = some name then { c with searchable := false } else c) =
        ctx.columnClause? c := by
    intro c
    split
    · next hlabel =>
      rw [columnClause?_eq_none hlabel hnone]
      rfl
    · rfl
  unfold columnCondition
  refine congrArg (List.foldl Condition.add Condition.all) ?_
  change (List.map _ ctx.request.columns).filterMap ctx.columnClause? = _
  rw [List.filterMap_map]
  exact congrArg (ctx.request.columns.filterMap ·) (funext hclause)

theorem termCondition_withoutSearch
    (hnone : ∀ keyword bound regex, ctx.clause? name keyword bound regex = none) (term : String) :
    ({ ctx with request := ctx.request.withoutSearch name } : SearchContext).termCondition term =
      ctx.termCondition term := by
  unfold termCondition
  refine congrArg (List.foldl Condition.add Condition.any) ?_
  change ((List.map _ ctx.request.columns).filter _).filterMap (ctx.termClause? term) = _
  rw [Request.searchableColumns, List.filterMap_filter, List.filterMap_filter, List.filterMap_map]
  refine congrArg (ctx.request.columns.filterMap ·) (funext fun c => ?_)
  by_cases hlabel : c.label? = some name
  · have hterm : ctx.termClause? term c = none := by
      unfold termClause?
      rw [hlabel]
      exact hnone _ _ _
    simp [hlabel, hterm]
  · simp [hlabel]

end SearchContext

section Search

variable (registry : Registry) (resolver : Resolver) (name : String)

/-- Both searches do the same without the columns of a name. -/
def SearchPassesOver : Prop :=
  ∀ (request : Request) (config : Config) (q : BaseQuery),
    let ctx : SearchContext := ⟨request, registry, resolver, config⟩
    let without : SearchContext := ⟨request.withoutSearch name, registry, resolver, config⟩
    q.searchColumns without = q.searchColumns ctx ∧ q.searchGlobally without = q.searchGlobally ctx

variable {registry resolver name}

theorem searchPassesOver_of_isHidden (hfilter : registry.filter? name = none)
    (hhidden : registry.isHidden name = true) : SearchPassesOver registry resolver name := by
  intro request config q ctx without
  have hnone : ∀ keyword bound regex, ctx.clause? name keyword bound regex = none :=
    SearchContext.clause?_eq_none hfilter hhidden
  constructor
  · exact q.searchColumns_congr without ctx (SearchContext.columnCondition_withoutSearch hnone)
  · exact q.searchGlobally_congr without ctx rfl rfl
      (SearchContext.termCondition_withoutSearch hnone)

theorem snd_searchColumns (q : BaseQuery) (ctx : SearchContext) :
    (q.searchColumns ctx).2 = !(ctx.request.columns.filterMap ctx.columnClause?).isEmpty := by
  have hempty : ctx.columnCondition.isEmpty =
      (ctx.request.columns.filterMap ctx.columnClause?).isEmpty := by
    rw [SearchContext.columnCondition, Condition.isEmpty_foldl_add _ rfl]
  unfold BaseQuery.searchColumns BaseQuery.addNonEmpty
  rw [hempty]
  cases (ctx.request.columns.filterMap ctx.columnClause?).isEmpty <;> rfl

/-- A name that is not hidden and has no custom filter adds its default predicate. -/
theorem isHidden_of_searchPassesOver (hlabel : isLabel name = true)
    (hfilter : registry.filter? name = none) (h : SearchPassesOver registry resolver name) :
    registry.isHidden name = true := by
  by_contra hhidden
  rw [Bool.not_eq_true] at hhidden
  have hname := ColumnRequest.label?_ofName hlabel
  let ctx : SearchContext := ⟨.ofName name, registry, resolver, .default⟩
  have hclause : ∃ clause, ctx.columnClause? (.ofName name) = some clause := by
    unfold SearchContext.columnClause?
    rw [if_pos (ColumnRequest.isSearched_ofName name), hname]
    simp only [Option.bind_eq_bind, Option.bind_some, SearchContext.clause?,
      SearchContext.behavior?, ctx, hfilter, hhidden]
    exact ⟨_, rfl⟩
  have hsame := congrArg Prod.snd (h (.ofName name) .default (.ofStatement .empty)).1
  rw [snd_searchColumns, snd_searchColumns] at hsame
  -- the column adds its clause, and none once it is not searchable
  have hadds : ([ColumnRequest.ofName name].filterMap ctx.columnClause?).isEmpty = false := by
    obtain ⟨clause, hclause⟩ := hclause
    rw [List.filterMap_cons_some hclause]
    rfl
  have hnone : ((((Request.ofName name).withoutSearch name).columns).filterMap
      ctx.columnClause?).isEmpty = true := by
    have hcolumns : ((Request.ofName name).withoutSearch name).columns =
        [{ ColumnRequest.ofName name with searchable := false }] := by
      change [if (ColumnRequest.ofName name).label? = some name then _ else _] = _
      rw [if_pos hname]
    rw [hcolumns]
    rfl
  have hcontra : true = false := hnone.symm.trans ((Bool.not_inj hsame).trans hadds)
  cases hcontra

end Search

/-! ## Ordering -/

namespace Request

variable (r : Request) (name : String) (index : Nat)

theorem column?_withoutOrder : (r.withoutOrder name).column? index =
    (r.column? index).map fun c =>
      if c.label? = some name then { c with orderable := false } else c :=
  List.getElem?_map

theorem columnName?_withoutOrder :
    (r.withoutOrder name).columnName? index = r.columnName? index := by
  unfold columnName?
  rw [column?_withoutOrder]
  cases r.column? index with
  | none => rfl
  | some c =>
    change ColumnRequest.label? (if c.label? = some name then _ else c) = c.label?
    split
    · rfl
    · rfl

/-- Whether a directive is kept: one past the columns is, and one on an orderable column. -/
def keeps (o : OrderRequest) : Bool :=
  match r.column? o.column.toNat with
  | some c => c.orderable
  | none => true

theorem directives_eq : r.directives =
    (r.order.filter r.keeps).map fun o => ⟨o.column, .ofText o.dir⟩ := rfl

theorem keeps_withoutOrder (o : OrderRequest) : (r.withoutOrder name).keeps o =
    (r.keeps o && (r.columnName? o.column.toNat != some name)) := by
  unfold keeps columnName?
  rw [column?_withoutOrder]
  cases r.column? o.column.toNat with
  | none => rfl
  | some c =>
    change ColumnRequest.orderable (if c.label? = some name then _ else c) =
      (c.orderable && c.label? != some name)
    split
    · next hlabel => simp [hlabel]
    · next hlabel => simp [hlabel]

end Request

section Order

variable (registry : Registry) (resolver : Resolver) (name : String)

/-- The ordering does the same without the columns of a name. -/
def OrderPassesOver : Prop :=
  ∀ (request : Request) (config : Config) (q : BaseQuery),
    q.applyOrdering ⟨request.withoutOrder name, registry, resolver, config⟩ =
      q.applyOrdering ⟨request, registry, resolver, config⟩

variable {registry resolver name}

theorem Request.lt_of_columnName? {r : Request} {index : Nat}
    (h : r.columnName? index = some name) : index < r.columns.length := by
  by_contra hge
  have hcolumn : r.column? index = none := List.getElem?_eq_none (Nat.not_lt.1 hge)
  rw [columnName?, hcolumn] at h
  cases h

section Clause

variable {ctx : OrderContext} {d : OrderDirective} (horder : ctx.registry.order? name = none)
  (hname : ctx.request.columnName? d.column.toNat = some name)
include horder hname

/-- A directive on a hidden name without a custom template adds no sort key. -/
theorem OrderContext.clause_eq_none (hhidden : ctx.registry.isHidden name = true) :
    ctx.clause d = .ok none := by
  unfold OrderContext.clause
  rw [if_pos (Request.lt_of_columnName? hname), hname]
  simp only [horder, hhidden, ite_true]

theorem OrderContext.clause_eq_default (hhidden : ctx.registry.isHidden name = false) :
    ctx.clause d = .ok (some ⟨ctx.defaultSql name d.direction, []⟩) := by
  unfold OrderContext.clause
  rw [if_pos (Request.lt_of_columnName? hname), hname]
  simp only [horder, hhidden, Bool.false_eq_true, ite_false]

end Clause

theorem OrderContext.clause_withoutOrder (ctx : OrderContext) (d : OrderDirective) :
    ({ ctx with request := ctx.request.withoutOrder name } : OrderContext).clause d =
      ctx.clause d := by
  have hlength : (ctx.request.withoutOrder name).columns.length = ctx.request.columns.length :=
    List.length_map _
  unfold OrderContext.clause
  rw [hlength, Request.columnName?_withoutOrder]
  rfl

/-- The directives on the columns of a name are left out. -/
theorem directives_withoutOrder (r : Request) (name : String) :
    (r.withoutOrder name).directives =
      r.directives.filter fun d => r.columnName? d.column.toNat != some name := by
  rw [Request.directives_eq, Request.directives_eq, List.filter_map, List.filter_filter]
  refine congrArg (List.map _) (List.filter_congr fun o _ => ?_)
  rw [Request.keeps_withoutOrder, Bool.and_comm]
  rfl

theorem orderPassesOver_of_isHidden (horder : registry.order? name = none)
    (hhidden : registry.isHidden name = true) : OrderPassesOver registry resolver name := by
  intro request config q
  let ctx : OrderContext := ⟨request, registry, resolver, config⟩
  have hnone : ∀ d : OrderDirective, (request.columnName? d.column.toNat != some name) = false →
      ctx.clause d = .ok none := fun d hd =>
    OrderContext.clause_eq_none horder (bne_eq_false_iff_eq.1 hd) hhidden
  unfold BaseQuery.applyOrdering
  rw [directives_withoutOrder, BaseQuery.orderDirectives_congr _ ctx ctx.clause_withoutOrder]
  exact BaseQuery.orderDirectives_filter hnone request.directives q

/-- A name that is not hidden and has no custom template adds its default sort key. -/
theorem isHidden_of_orderPassesOver (hlabel : isLabel name = true)
    (horder : registry.order? name = none) (h : OrderPassesOver registry resolver name) :
    registry.isHidden name = true := by
  by_contra hhidden
  rw [Bool.not_eq_true] at hhidden
  have hname := ColumnRequest.label?_ofName hlabel
  let ctx : OrderContext := ⟨.ofName name, registry, resolver, .default⟩
  have hcolumn : ctx.request.columnName? 0 = some name := hname
  have hclause : ctx.clause ⟨0, .ofText "asc"⟩ =
      .ok (some ⟨ctx.defaultSql name (.ofText "asc"), []⟩) :=
    OrderContext.clause_eq_default horder hcolumn hhidden
  have hadds : (BaseQuery.applyOrdering (.ofStatement .empty) ctx).1.orders =
      [⟨ctx.defaultSql name (.ofText "asc"), []⟩] := by
    change (BaseQuery.orderDirectives ctx _ [⟨0, .ofText "asc"⟩]).1.orders = _
    rw [BaseQuery.orderDirectives, hclause]
    rfl
  have hnone : ((Request.ofName name).withoutOrder name).directives = [] := by
    have hkeeps := (Request.ofName name).keeps_withoutOrder name ⟨0, "asc"⟩
    have hdropped : ((Request.ofName name).columnName? 0 != some name) = false :=
      bne_eq_false_iff_eq.2 hname
    rw [show (⟨0, "asc"⟩ : OrderRequest).column.toNat = 0 from rfl, hdropped, Bool.and_false]
      at hkeeps
    rw [Request.directives_eq]
    change List.map _ (List.filter _ [_]) = []
    rw [List.filter_cons_of_neg (by rw [hkeeps]; decide)]
    rfl
  have hsame := congrArg (fun found => found.1.orders)
    (h (.ofName name) .default (.ofStatement .empty))
  change _ = (BaseQuery.applyOrdering (.ofStatement .empty) ctx).1.orders at hsame
  rw [hadds, BaseQuery.applyOrdering, hnone] at hsame
  cases hsame

end Order

/-! ## Every spelling of a hidden column -/

theorem changeColumns_of_not_isLabel {name : String} (h : isLabel name = false) (r : Request)
    (change : ColumnRequest → ColumnRequest) : r.changeColumns name change = r := by
  have hsame : ∀ c : ColumnRequest, (if c.label? = some name then change c else c) = c := by
    intro c
    refine if_neg fun hlabel => ?_
    rw [isLabel_of_label? hlabel] at h
    cases h
  unfold Request.changeColumns
  simp only [hsame, List.map_id']

theorem searchPassesOver_iff {registry : Registry} {resolver : Resolver} {name : String}
    (hfilter : registry.filter? name = none) : SearchPassesOver registry resolver name ↔
      (isLabel name = true → registry.isHidden name = true) := by
  constructor
  · intro h hlabel
    exact isHidden_of_searchPassesOver hlabel hfilter h
  · intro h
    cases hlabel : isLabel name with
    | true => exact searchPassesOver_of_isHidden hfilter (h hlabel)
    | false =>
      intro request config q
      rw [Request.withoutSearch, changeColumns_of_not_isLabel hlabel]
      exact ⟨rfl, rfl⟩

theorem orderPassesOver_iff {registry : Registry} {resolver : Resolver} {name : String}
    (horder : registry.order? name = none) : OrderPassesOver registry resolver name ↔
      (isLabel name = true → registry.isHidden name = true) := by
  constructor
  · intro h hlabel
    exact isHidden_of_orderPassesOver hlabel horder h
  · intro h
    cases hlabel : isLabel name with
    | true => exact orderPassesOver_of_isHidden horder (h hlabel)
    | false =>
      intro request config q
      rw [Request.withoutOrder, changeColumns_of_not_isLabel hlabel]

/-- **Hidden columns are out of reach under every spelling exactly when every spelling is hidden.**
Among plain words there is one spelling only, but a plain column of the base table has a second one,
with the table in front. -/
theorem hidden_under_every_spelling_iff (registry : Registry) (resolver : Resolver) :
    ((∀ b ∈ registry.hidden, ∀ name, resolver.columnSql name = resolver.columnSql b →
        (registry.filter? name = none → SearchPassesOver registry resolver name) ∧
        (registry.order? name = none → OrderPassesOver registry resolver name)) ↔
      ∀ b ∈ registry.hidden, ∀ name, resolver.reading name = resolver.reading b →
        isLabel name = true → registry.filter? name = none ∨ registry.order? name = none →
          registry.isHidden name = true) ∧
    (∀ b name, Scope.isWord b.toList = true → Scope.isWord name.toList = true →
      (resolver.columnSql name = resolver.columnSql b ↔ name = b)) ∧
    (∀ table b, resolver.scope.table = some table → Scope.isSimpleIdentifier table = true →
      resolver.scope.eagerTable? table = none → Scope.isWord b.toList = true →
        resolver.columnSql (table ++ "." ++ b) = resolver.columnSql b) := by
  refine ⟨⟨fun h b hb name hreading hlabel hdefault => ?_, fun h b hb name hsql => ⟨?_, ?_⟩⟩,
    fun b name hb hname => ?_, fun table b htable hsimple hrelation hb => ?_⟩
  · obtain ⟨hsearch, hordering⟩ := h b hb name ((resolver.columnSql_eq_iff name b).2 hreading)
    rcases hdefault with hfilter | horder
    · exact (searchPassesOver_iff hfilter).1 (hsearch hfilter) hlabel
    · exact (orderPassesOver_iff horder).1 (hordering horder) hlabel
  · intro hfilter
    have hreading := (resolver.columnSql_eq_iff name b).1 hsql
    exact (searchPassesOver_iff hfilter).2 fun hlabel =>
      h b hb name hreading hlabel (.inl hfilter)
  · intro horder
    have hreading := (resolver.columnSql_eq_iff name b).1 hsql
    exact (orderPassesOver_iff horder).2 fun hlabel =>
      h b hb name hreading hlabel (.inr horder)
  · exact (resolver.columnSql_eq_iff name b).trans (resolver.reading_eq_iff_of_isWord hname hb)
  · exact (resolver.columnSql_eq_iff _ b).2
      (resolver.reading_qualified htable hsimple hrelation hb)

/-- A registry that hides the passwords. -/
def hidesPassword : Registry := Registry.empty.hide ["password"]

/-- The columns of the users. -/
def usersResolver : Resolver := ⟨(BaseQuery.ofTable "users").scope, .sqlite⟩

/-- Passwords are searched and ordered by their qualified name. -/
theorem password_within_reach :
    "password" ∈ hidesPassword.hidden ∧
      usersResolver.columnSql "users.password" = usersResolver.columnSql "password" ∧
      hidesPassword.filter? "users.password" = none ∧
      hidesPassword.order? "users.password" = none ∧
      ¬SearchPassesOver hidesPassword usersResolver "users.password" ∧
      ¬OrderPassesOver hidesPassword usersResolver "users.password" := by
  refine ⟨by decide, by decide, rfl, rfl, fun h => ?_, fun h => ?_⟩
  · have hsame := congrArg Prod.snd (h (.ofName "users.password") .default (.ofTable "users")).1
    exact absurd hsame (by decide)
  · have hsame := congrArg (fun found => found.1.orders.length)
      (h (.ofName "users.password") .default (.ofTable "users"))
    exact absurd hsame (by decide)

end ServerGrid
