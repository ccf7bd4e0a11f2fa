import ServerGrid.Proofs.Grid.Keywords
import ServerGrid.Proofs.Grid.Trace
import ServerGrid.Proofs.Query.Additions

/-!
# What is counted is what is fetched

A count binds the values of the statement that it counts, whatever becomes of the select list
(`values_countStatement`). Ordering and paging are steps that leave an isolated statement alone
(`statement_arranged`), and the searches leave an isolated query isolated. Main statement:
`counted_eq_fetched`, the page is fetched from the statement whose rows were counted last, unless a
callback put another limited query in its place.
-/

namespace ServerGrid

/-! ## Values of a count -/

theorem Piece.values_separated (separator : String) : ∀ groups : List (List Piece),
    values (separated separator groups) = groups.flatMap values
  | [] => rfl
  | [one] => (List.append_nil _).symm
  | first :: second :: rest => by
    rw [separated, values_append, values, values_separated separator (second :: rest)]
    rfl

theorem SelectItem.values_pieces (item : SelectItem) : Piece.values item.pieces = [] := by
  have hcolumn : ∀ c : ColumnRef, Piece.values c.pieces = [] := by
    intro c
    cases c <;> rfl
  have hlabel : ∀ label, Piece.values (labelPieces label) = [] := by
    intro label
    cases label <;> rfl
  cases item with
  | column c => exact hcolumn c
  | aggregate f c label => simp [pieces, Piece.values, hcolumn, hlabel]
  | raw sql label => exact hlabel label

namespace Select

theorem values_items (items : List SelectItem) :
    Piece.values (Piece.separated ", " (items.map SelectItem.pieces)) = [] := by
  rw [Piece.values_separated, List.flatMap_map, List.flatMap_eq_nil_iff]
  exact fun item _ => item.values_pieces

theorem values_withConstantItem (backend : Backend) (s : Select) :
    Piece.values (s.withConstantItem.pieces backend) = Piece.values (s.pieces backend) := by
  cases s
  simp only [withConstantItem, pieces, Piece.values, Piece.values_append, values_items]

end Select

/-- The rows of one statement are counted, and nothing else is written. -/
theorem BaseQuery.sql_countStatement (q : BaseQuery) (backend : Backend) :
    (q.countStatement backend).sql =
      "SELECT COUNT(*) AS " ++ Identifier.quoted backend.quote countColumn ++ " FROM (" ++
        ((q.statement.counted backend).statement backend).sql ++ ") AS " ++
        Identifier.quoted backend.quote "count_row_table" := by
  have hhead : ∀ rest : String,
      "SELECT " ++ ("COUNT(*)" ++ (" AS " ++ rest)) = "SELECT COUNT(*) AS " ++ rest := by
    intro rest
    rw [← String.append_assoc, ← String.append_assoc]
    rfl
  have hopen : ∀ body : String, " FROM " ++ ("(" ++ body) = " FROM (" ++ body := by
    intro body
    rw [← String.append_assoc]
    rfl
  have hclose : ∀ name : String, ")" ++ (" AS " ++ name) = ") AS " ++ name := by
    intro name
    rw [← String.append_assoc]
    rfl
  simp only [countStatement, Select.statement, Piece.statement, Select.pieces_countOf,
    Piece.sqlFrom_append]
  simp [Piece.sqlFrom, Piece.values, Piece.parenthesised, Piece.sqlFrom_append, hhead, hclose,
    hopen, String.append_assoc]

theorem BaseQuery.values_countStatement (q : BaseQuery) (backend : Backend) :
    (q.countStatement backend).values = (q.statement.statement backend).values := by
  have hcounted : Piece.values ((q.statement.counted backend).pieces backend) =
      Piece.values (q.statement.pieces backend) := by
    unfold Select.counted
    split
    · rfl
    · exact q.statement.values_withConstantItem backend
  simp only [countStatement, Select.statement, Piece.statement, Select.pieces_countOf, ← hcounted]
  simp [Piece.values, Piece.parenthesised]

/-! ## Searches keep a query isolated -/

namespace BaseQuery

theorem Narrows.isolated {q : BaseQuery} {found : BaseQuery × Bool}
    {asked : (Predicate → Bool) → Bool} (h : q.Narrows found asked) (hq : q.isolated = true) :
    found.1.isolated = true := by
  obtain ⟨rfl, -⟩ | ⟨filter, rfl, -⟩ := h
  · exact hq
  · exact q.isolated_isolate

/-- A step that reports nothing has done nothing. -/
theorem Narrows.eq_of_not_found {q : BaseQuery} {found : BaseQuery × Bool}
    {asked : (Predicate → Bool) → Bool} (h : q.Narrows found asked) (hfound : found.2 = false) :
    found.1 = q := by
  obtain ⟨rfl, -⟩ | ⟨filter, rfl, -⟩ := h
  · rfl
  · cases hfound

/-! ## Ordering and paging are steps -/

theorem exists_steps_orderDirectives (ctx : OrderContext) : ∀ (directives : List OrderDirective)
    (q : BaseQuery), ∃ clauses : List OrderClause, (q.orderDirectives ctx directives).1 =
      q.after (clauses.map fun clause => .orderBy clause.sql clause.values)
  | [], q => ⟨[], rfl⟩
  | d :: rest, q => by
    unfold orderDirectives
    split
    · exact ⟨[], rfl⟩
    · exact exists_steps_orderDirectives ctx rest q
    · next clause _ =>
      obtain ⟨clauses, h⟩ :=
        exists_steps_orderDirectives ctx rest (q.orderBy clause.sql clause.values)
      exact ⟨clause :: clauses, h⟩

end BaseQuery

/-- The text of a page starts with that of its statement. -/
theorem BaseQuery.prefix_sql_build (q : BaseQuery) (backend : Backend) (dialect : Dialect) :
    (q.statement.statement backend).sql.toList <+: (q.build backend dialect).sql.toList := by
  simp only [build, String.append_assoc, String.toList_append]
  exact List.prefix_append _ _

namespace Grid

variable {g : Grid} {backend : Backend}

theorem exists_steps_arranged (backend : Backend) (horder : g.orderCallback = none)
    (q : BaseQuery) : ∃ steps : List QueryStep,
      g.paged (g.ordered backend q).1 = q.after steps ∧
      ∀ s ∈ steps, (∃ sql values, s = .orderBy sql values) ∨ ∃ page, s = .paginate page := by
  obtain ⟨clauses, hclauses⟩ := BaseQuery.exists_steps_orderDirectives
    ⟨g.request, g.registry, g.resolver backend q, g.config⟩ g.request.directives q
  have hordered : (g.ordered backend q).1 =
      q.after (clauses.map fun clause => .orderBy clause.sql clause.values) := by
    unfold ordered
    rw [horder]
    exact hclauses
  have hsteps : ∀ s ∈ clauses.map fun clause => QueryStep.orderBy clause.sql clause.values,
      (∃ sql values, s = .orderBy sql values) ∨ ∃ page, s = .paginate page := by
    intro s hs
    obtain ⟨clause, -, rfl⟩ := List.mem_map.1 hs
    exact .inl ⟨_, _, rfl⟩
  unfold paged
  rw [hordered]
  split
  · next page _ =>
    rw [← BaseQuery.step, ← BaseQuery.after_concat]
    refine ⟨_, rfl, fun s hs => ?_⟩
    obtain hs | hs := List.mem_append.1 hs
    · exact hsteps s hs
    · exact .inr ⟨page, List.mem_singleton.1 hs⟩
  · exact ⟨_, rfl, hsteps⟩

/-- Ordering and paging leave the statement, or isolate it. -/
theorem statement_arranged (backend : Backend) (horder : g.orderCallback = none)
    (q : BaseQuery) :
    (g.paged (g.ordered backend q).1).statement = q.statement ∨
      q.isolated = false ∧ q.statement.limitsRows = true ∧
        (g.paged (g.ordered backend q).1).statement =
          BaseQuery.derivedFrom q.statement q.derivedAlias := by
  obtain ⟨steps, hafter, hsteps⟩ := exists_steps_arranged backend horder q
  have hadds : ∀ s ∈ steps, ∀ f, s ≠ .modifyStatement f := by
    rintro s hs f rfl
    obtain ⟨sql, values, h⟩ | ⟨page, h⟩ := hsteps _ hs <;> cases h
  have hnone : steps.filterMap QueryStep.join? = [] ∧
      steps.filterMap QueryStep.condition? = [] := by
    constructor
    all_goals
      refine List.filterMap_eq_nil_iff.2 fun s hs => ?_
      obtain ⟨sql, values, rfl⟩ | ⟨page, rfl⟩ := hsteps s hs <;> rfl
  rw [hafter]
  by_cases hwraps : q.Wraps steps
  · right
    refine ⟨hwraps.1, hwraps.2.1, ?_⟩
    rw [(BaseQuery.after_of_wraps hadds hwraps).1, hnone.1, hnone.2, Select.extend_nil]
  · left
    rw [(BaseQuery.after_of_not_wraps hadds hwraps).1, hnone.1, hnone.2, Select.extend_nil]

/-! ## Narrowed queries -/

/-- What the callback leaves is narrowed by the searches. -/
theorem exists_narrows_filtered (g : Grid) (backend : Backend) (q : BaseQuery) :
    ∃ found asked, (g.called q).1.Narrows found asked ∧
      g.filtered backend q = (found.1, (g.called q).2 || found.2) := by
  let ctx := g.searchContext backend (g.called q).1
  have hcolumn := (g.called q).1.narrows_searchColumns ctx
  have hkeyword := ((g.called q).1.searchColumns ctx).1.narrows_searchGlobally ctx
  rw [filtered_eq]
  cases g.searchesGlobally with
  | true =>
    refine ⟨_, _, hcolumn.trans hkeyword, ?_⟩
    simp only [ite_true, Bool.or_assoc, ctx]
  | false =>
    refine ⟨_, _, hcolumn, ?_⟩
    simp only [Bool.false_eq_true, ite_false, Bool.or_false, ctx]

/-- Only a callback can leave a query behind that is not isolated. -/
theorem isolated_filtered (q : BaseQuery) (hcallback : g.filterCallback = none) :
    (g.filtered backend q).1.isolated = true := by
  obtain ⟨found, asked, hnarrows, hfiltered⟩ := g.exists_narrows_filtered backend q
  rw [hfiltered]
  refine hnarrows.isolated ?_
  rw [called, hcallback]
  exact q.isolated_isolate

/-- Without a callback and without a search that adds anything, the query is only isolated. -/
theorem filtered_of_not_applied {q : BaseQuery} (h : (g.filtered backend q).2 = false) :
    (g.filtered backend q).1 = q.isolate := by
  obtain ⟨found, asked, hnarrows, hfiltered⟩ := g.exists_narrows_filtered backend q
  rw [hfiltered] at h ⊢
  obtain ⟨hcalled, hfound⟩ := Bool.or_eq_false_iff.1 h
  refine (hnarrows.eq_of_not_found hfound).trans ?_
  unfold called at hcalled ⊢
  split
  · next hsome =>
    rw [hsome] at hcalled
    cases hcalled
  · rfl

/-! ## Counts and pages -/

/-- **The counts and the page describe the same rows.** A count binds the values of the statement,
a page those and then the values of its sort keys, and sort keys and page leave the count alone. A
run that succeeds with rows fetches the page from the statement that was counted last, when the
search or the callback had anything counted again. The callback can do anything, though: a limited
query that it puts in place of the one it gets is counted, and can be fetched with all its rows in a
derived table. Without a second count, the page is fetched from the statement of the base query, or
from all rows of it when that came with a limit. -/
theorem counted_eq_fetched :
    (∀ (q : BaseQuery) (backend : Backend),
      (q.countStatement backend).sql =
        "SELECT COUNT(*) AS " ++ Identifier.quoted backend.quote countColumn ++ " FROM (" ++
          ((q.statement.counted backend).statement backend).sql ++ ") AS " ++
          Identifier.quoted backend.quote "count_row_table" ∧
      (q.countStatement backend).values = (q.statement.statement backend).values ∧
      (∀ dialect, (q.build backend dialect).values =
        (q.statement.statement backend).values ++ q.orders.flatMap (·.values)) ∧
      ∀ orders page, { q with orders, page }.countStatement backend = q.countStatement backend) ∧
    ∀ (g : Grid) (backend : Backend) (replies : List Reply),
      g.totalRecords = none → g.filteredRecords = none → g.orderCallback = none →
      (g.make backend replies).result.error = none →
      0 < (g.make backend replies).result.recordsTotal →
      let narrowed := g.filtered backend g.query
      ∃ fetched : BaseQuery,
        (g.make backend replies).sent =
          [g.query.countStatement backend] ++
            (if narrowed.2 then [narrowed.1.countStatement backend] else []) ++
            [fetched.build backend (g.activeDialect backend)] ∧
        (narrowed.2 = true → fetched.statement = narrowed.1.statement ∨
          g.filterCallback.isSome = true ∧ narrowed.1.isolated = false ∧
            narrowed.1.statement.limitsRows = true ∧
            fetched.statement = BaseQuery.derivedFrom narrowed.1.statement
              narrowed.1.derivedAlias) ∧
        (narrowed.2 = false →
          (g.query.statement.limitsRows = false → fetched.statement = g.query.statement) ∧
          (g.query.isolated = false → g.query.statement.limitsRows = true →
            fetched.statement = { Select.empty with
              items := [.column .all]
              source := .derived g.query.statement g.query.derivedAlias })) := by
  refine ⟨fun q backend => ⟨q.sql_countStatement backend, q.values_countStatement backend,
    fun _ => rfl, fun _ _ => rfl⟩, ?_⟩
  intro g backend replies htotal hfiltered horder hok hpos narrowed
  have hsent := sent_make_of_ok hok
  rw [htotal, if_pos hpos, filteredCounts, hfiltered] at hsent
  have hstatement := statement_arranged backend horder narrowed.1
  refine ⟨g.answered backend g.query, ?_, fun _ => ?_, fun happlied => ?_⟩
  · rw [hsent, List.append_assoc]
    rfl
  · obtain hsame | ⟨hisolated, hlimits, hderived⟩ := hstatement
    · exact .inl hsame
    · refine .inr ⟨?_, hisolated, hlimits, hderived⟩
      rw [Option.isSome_iff_ne_none]
      intro hnone
      rw [isolated_filtered g.query hnone] at hisolated
      cases hisolated
  · have hnarrowed : narrowed.1 = g.query.isolate := filtered_of_not_applied happlied
    have hfetched : (g.answered backend g.query).statement = g.query.isolate.statement := by
      refine (hstatement.resolve_right fun h => ?_).trans (congrArg (·.statement) hnarrowed)
      rw [hnarrowed, g.query.isolated_isolate] at h
      cases h.1
    rw [hfetched, BaseQuery.statement_isolate]
    refine ⟨fun hlimits => if_neg fun h => ?_, fun hisolated hlimits => if_pos ⟨hisolated, hlimits⟩⟩
    rw [hlimits] at h
    cases h.2

/-- The latest users are looked up by name: both counts and the page speak of the same two. -/
theorem counted_eq_fetched_latestUsers :
    let g := Grid.new .latestUsers (lookup "ann" "" "desc")
    let replies : List Reply := [.rows [[("aggregate", .bigInt (some 5))]],
      .rows [[("aggregate", .bigInt (some 2))]], .rows []]
    let narrowed := (g.filtered .sqlite g.query).1
    (g.make .sqlite replies).result.error = none ∧
      0 < (g.make .sqlite replies).result.recordsTotal ∧
      (g.filtered .sqlite g.query).2 = true ∧
      ∃ fetched : BaseQuery, fetched.statement = narrowed.statement ∧
        (g.make .sqlite replies).sent = [g.query.countStatement .sqlite,
          narrowed.countStatement .sqlite, fetched.build .sqlite .sqlite] := by
  intro g replies narrowed
  have hok : (g.make .sqlite replies).result.error = none := by decide +kernel
  have hpos : 0 < (g.make .sqlite replies).result.recordsTotal := by decide +kernel
  have happlied : (g.filtered .sqlite g.query).2 = true := by decide +kernel
  obtain ⟨fetched, hsent, hsame, -⟩ :=
    counted_eq_fetched.2 g .sqlite replies rfl rfl rfl hok hpos
  rw [if_pos happlied] at hsent
  refine ⟨hok, hpos, happlied, fetched, (hsame happlied).resolve_right fun h => ?_, hsent⟩
  cases h.1

/-- Five of the users. -/
def fiveUsers : Select := { (BaseQuery.ofTable "users").statement with limit := some 5 }

/-- A callback that answers with another query has its limited statement counted, but all rows of it
fetched; and a limit that was set on a new query after it was checked stays in the page. -/
theorem counted_ne_fetched :
    (¬∀ (g : Grid) (backend : Backend) (replies : List Reply),
      g.totalRecords = none → g.filteredRecords = none → g.orderCallback = none →
      (g.make backend replies).result.error = none →
      0 < (g.make backend replies).result.recordsTotal →
      (g.filtered backend g.query).2 = true →
        ∃ fetched : BaseQuery, fetched.statement = (g.filtered backend g.query).1.statement ∧
          (g.make backend replies).sent.getLast? =
            some (fetched.build backend (g.activeDialect backend))) ∧
    (¬∀ (g : Grid) (backend : Backend) (replies : List Reply),
      g.totalRecords = none → g.filteredRecords = none → g.orderCallback = none →
      (g.make backend replies).result.error = none →
      0 < (g.make backend replies).result.recordsTotal →
      (g.filtered backend g.query).2 = false → g.query.statement.limitsRows = true →
        ∃ (fetched : BaseQuery) (label : String),
          fetched.statement = BaseQuery.derivedFrom g.query.statement label ∧
            (g.make backend replies).sent.getLast? =
              some (fetched.build backend (g.activeDialect backend))) := by
  constructor
  · intro h
    let g := (Grid.new (.ofTable "users") .empty).filter (fun _ => .ofStatement fiveUsers) false
    let replies : List Reply := [.rows [[("aggregate", .bigInt (some 9))]],
      .rows [[("aggregate", .bigInt (some 5))]], .rows []]
    obtain ⟨fetched, hstatement, hlast⟩ := h g .sqlite replies rfl rfl rfl (by decide +kernel)
      (by decide +kernel) rfl
    have hfive : fetched.statement = fiveUsers := hstatement
    have hsent : (g.make .sqlite replies).sent.getLast? =
        some ⟨"SELECT * FROM (SELECT \"users\".* FROM \"users\" LIMIT ?) AS \"base_query\" " ++
          "LIMIT 10 OFFSET 0", [.bigUnsigned (some 5)]⟩ := by decide +kernel
    have hprefix := fetched.prefix_sql_build .sqlite .sqlite
    have hbuild := Option.some.inj (hlast.symm.trans hsent)
    change fetched.build .sqlite .sqlite = _ at hbuild
    rw [hbuild, hfive] at hprefix
    revert hprefix
    decide +kernel
  · intro h
    let g := Grid.new ((BaseQuery.ofTable "users").modifyStatement fun _ => fiveUsers) .empty
    let replies : List Reply := [.rows [[("aggregate", .bigInt (some 5))]], .rows []]
    obtain ⟨fetched, label, hstatement, hlast⟩ := h g .sqlite replies rfl rfl rfl
      (by decide +kernel) (by decide +kernel) (by decide +kernel) rfl
    have hsent : (g.make .sqlite replies).sent.getLast? =
        some ⟨"SELECT \"users\".* FROM \"users\" LIMIT ? LIMIT 10 OFFSET 0",
          [.bigUnsigned (some 5)]⟩ := by decide +kernel
    have hderived := Select.statement_extend_derivedFrom .sqlite g.query.statement label [] []
    have hprefix := fetched.prefix_sql_build .sqlite .sqlite
    have hbuild := Option.some.inj (hlast.symm.trans hsent)
    change fetched.build .sqlite .sqlite = _ at hbuild
    rw [Select.extend_nil] at hderived
    rw [hbuild, hstatement, hderived] at hprefix
    have hopening := (List.prefix_append "SELECT * FROM (".toList _).trans
      (by simpa only [String.toList_append, List.append_assoc] using hprefix)
    revert hopening
    decide +kernel

end Grid

end ServerGrid
