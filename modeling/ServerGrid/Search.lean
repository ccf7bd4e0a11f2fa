import ServerGrid.Column.Registry
import ServerGrid.Search.Predicate

/-!
# Search

Every searched column adds one clause, and all of them must hold. The global keyword adds one group
for each of its terms, in which any searchable column may hold. Columns without a name, and hidden
ones without a custom filter, take no part. Both searches tell whether they added anything.
-/

namespace ServerGrid

/-- What a search reads. -/
structure SearchContext where
  request : Request
  registry : Registry
  resolver : Resolver
  config : Config

/-- How a column is searched. -/
inductive SearchBehavior where
  | default
  | custom (f : FilterCallback)

namespace SearchContext

/-- How a column is searched, `none` when it is hidden and has no custom filter. -/
def behavior? (ctx : SearchContext) (name : String) : Option SearchBehavior :=
  match ctx.registry.filter? name with
  | some f => some (.custom f)
  | none => if ctx.registry.isHidden name then none else some .default

/-- The clause that a keyword adds for a named column: what the custom filter adds for `keyword`, or
the default predicate for what is bound. -/
def clause? (ctx : SearchContext) (name keyword bound : String) (regex : Bool) : Option Clause :=
  match ctx.behavior? name with
  | none => none
  | some (.custom f) => (f.condition? ctx.resolver keyword).map Condition.toClause
  | some .default =>
    let column := ctx.resolver.columnSql name
    let dialect := ctx.resolver.dialect
    some (.leaf (if regex then
        regexPredicate column bound dialect ctx.config.caseInsensitive
      else likePredicate column bound dialect ctx.config))

/-! ## Search by column -/

/-- The clause of a column's own search, if it has one. -/
def columnClause? (ctx : SearchContext) (c : ColumnRequest) : Option Clause :=
  if c.isSearched then do
    let name ← c.label?
    ctx.clause? name c.search.keyword (c.search.pattern ctx.config) c.search.regex
  else none

/-- What the searches of single columns ask for together. -/
def columnCondition (ctx : SearchContext) : Condition :=
  (ctx.request.columns.filterMap ctx.columnClause?).foldl .add .all

/-! ## Search by the global keyword -/

/-- The terms of the global keyword. -/
def terms (ctx : SearchContext) : List String :=
  if ctx.config.multiTerm && !ctx.request.search.regex then Text.words ctx.request.keyword
  else [ctx.request.keyword]

/-- The clause of a searchable column for a term of the global keyword, if it has one. -/
def termClause? (ctx : SearchContext) (term : String) (c : ColumnRequest) : Option Clause := do
  let name ← c.label?
  let regex := ctx.request.search.regex
  ctx.clause? name term (if regex then term else ctx.config.pattern term) regex

/-- What a term of the global keyword asks for. -/
def termCondition (ctx : SearchContext) (term : String) : Condition :=
  (ctx.request.searchableColumns.filterMap (ctx.termClause? term)).foldl .add .any

end SearchContext

namespace BaseQuery

/-- Narrow the rows by a condition unless it is empty, and tell whether that was done. -/
def addNonEmpty (q : BaseQuery) (c : Condition) : BaseQuery × Bool :=
  if c.isEmpty then (q, false) else (q.addCondition c, true)

/-- Narrow the rows by the searches of single columns. -/
def searchColumns (q : BaseQuery) (ctx : SearchContext) : BaseQuery × Bool :=
  q.addNonEmpty ctx.columnCondition

/-- Narrow the rows by terms in order, and tell whether any of them did. -/
def searchTerms (ctx : SearchContext) : BaseQuery × Bool → List String → BaseQuery × Bool
  | found, [] => found
  | (q, applied), term :: rest =>
    let (q, more) := q.addNonEmpty (ctx.termCondition term)
    searchTerms ctx (q, applied || more) rest

/-- Narrow the rows by the global keyword. -/
def searchGlobally (q : BaseQuery) (ctx : SearchContext) : BaseQuery × Bool :=
  if ctx.request.isSearchable then searchTerms ctx (q, false) ctx.terms else (q, false)

end BaseQuery

end ServerGrid
