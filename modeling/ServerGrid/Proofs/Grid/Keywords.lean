import ServerGrid.Proofs.Grid.TwoRuns
import ServerGrid.Proofs.Search.Keywords

/-!
# Keywords are bound, never written

A run reads keywords when it searches, and all that a search makes of a keyword without custom
filters are bound values. Main statement: `outlines_make`, runs for alike requests send statements
with the same texts and as many values.
-/

namespace ServerGrid.Grid

/-- The query that is searched, and whether the callback has changed it. -/
def called (g : Grid) (q : BaseQuery) : BaseQuery × Bool :=
  match g.filterCallback with
  | some callback => (callback q.isolate, true)
  | none => (q.isolate, false)

/-- What the searches of a query read. -/
def searchContext (g : Grid) (backend : Backend) (q : BaseQuery) : SearchContext :=
  ⟨g.request, g.registry, g.resolver backend q, g.config⟩

theorem filtered_eq (g : Grid) (backend : Backend) (q : BaseQuery) : g.filtered backend q =
    let ctx := g.searchContext backend (g.called q).1
    let byColumn := (g.called q).1.searchColumns ctx
    let byKeyword :=
      if g.searchesGlobally then byColumn.1.searchGlobally ctx else (byColumn.1, false)
    (byKeyword.1, (g.called q).2 || byColumn.2 || byKeyword.2) := rfl

variable {g : Grid} {r' : Request}

/-- The callback gets the same query in both runs, and the searches leave alike queries. -/
theorem alike_filtered (hfilters : ∀ name, g.registry.filter? name = none)
    (hr : g.request.Alike g.config r') (backend : Backend) (q : BaseQuery) :
    BaseQuery.FoundAlike (g.filtered backend q)
      ({ g with request := r' }.filtered backend q) := by
  let p := (g.called q).1
  let ctx := g.searchContext backend p
  let ctx' := { g with request := r' }.searchContext backend p
  obtain ⟨hcolumn, hbyColumn⟩ :
      BaseQuery.FoundAlike (p.searchColumns ctx) (p.searchColumns ctx') :=
    (BaseQuery.Alike.refl p).searchColumns hfilters (g.resolver backend p) hr
  obtain ⟨hkeyword, hbyKeyword⟩ :
      BaseQuery.FoundAlike ((p.searchColumns ctx).1.searchGlobally ctx)
        ((p.searchColumns ctx').1.searchGlobally ctx') :=
    hcolumn.searchGlobally hfilters (g.resolver backend p) hr
  rw [filtered_eq, filtered_eq]
  cases hglobal : g.searchesGlobally with
  | true =>
    simp only [ite_true]
    exact ⟨hkeyword, congrArg₂ (· || ·) (congrArg ((g.called q).2 || ·) hbyColumn) hbyKeyword⟩
  | false =>
    simp only [Bool.false_eq_true, ite_false]
    exact ⟨hcolumn, congrArg (fun added => (g.called q).2 || added || false) hbyColumn⟩

theorem match_of_alike (hfilters : ∀ name, g.registry.filter? name = none)
    (horder : g.orderCallback = none) (hr : g.request.Alike g.config r') (backend : Backend) :
    Grid.Match backend Statement.outline BaseQuery.Alike g { g with request := r' } where
  query := rfl
  totalRecords := rfl
  filteredRecords := rfl
  skipsPaging := rfl
  shape := rfl
  refl := .refl
  filtered := alike_filtered hfilters hr backend
  ordered := by
    intro q q' hq
    unfold ordered resolver
    simp only [horder, hq.scope]
    exact hq.applyOrdering _ hr
  paged := fun _ _ hq => hq.applyPaging hr
  count := fun _ _ hq => hq.outline_countStatement backend
  build := fun _ _ hq => hq.outline_build backend (g.activeDialect backend)

/-- **Keywords are bound, never written.** When requests only differ in the text of keywords and in
the spelling of directions, their runs send the same texts with as many values, one after the other,
whatever the callback on the query, the database and everything else may be. -/
theorem outlines_make (g : Grid) (r' : Request) (backend : Backend) (replies : List Reply)
    (hfilters : ∀ name, g.registry.filter? name = none) (horder : g.orderCallback = none)
    (hr : g.request.Alike g.config r') :
    (g.make backend replies).sent.map Statement.outline =
      ({ g with request := r' }.make backend replies).sent.map Statement.outline :=
  view_sent_make (match_of_alike hfilters horder hr backend) replies

/-- A request for two columns, with a keyword for the first one and a sort on the second one. -/
def lookup (globally keyword dir : String) : Request where
  draw := 1
  columns := [{ ColumnRequest.ofName "name" with search := ⟨keyword, false⟩ },
    { ColumnRequest.ofName "bio" with search := ⟨"", true⟩ }]
  order := [⟨1, dir⟩]
  start := some 0
  length := some 10
  search := ⟨globally, false⟩

/-- Both counts and the page are the same texts for a harmless and for a hostile keyword. -/
theorem outlines_make_lookup :
    let g := Grid.new (.ofTable "users") (lookup "ann lee" "a" "desc")
    let hostile := lookup "'; DROP" "' OR 1=1 ? $1 ORDER BY (" " DESC "
    let replies : List Reply := [.rows [[("aggregate", .bigInt (some 5))]],
      .rows [[("aggregate", .bigInt (some 2))]], .rows []]
    (g.make .postgres replies).sent.length = 3 ∧
      (g.make .postgres replies).sent.map Statement.outline =
        ({ g with request := hostile }.make .postgres replies).sent.map Statement.outline := by
  refine ⟨by decide +kernel, outlines_make _ _ _ _ (fun _ => rfl) rfl ?_⟩
  exact {
    draw := rfl
    columns := .cons ⟨rfl, rfl, rfl, rfl, rfl, by decide⟩
      (.cons ⟨rfl, rfl, rfl, rfl, rfl, rfl⟩ .nil)
    order := .cons ⟨rfl, by decide⟩ .nil
    start := rfl
    length := rfl
    search := ⟨rfl, by decide⟩
    terms := fun _ _ => by decide }

end ServerGrid.Grid
