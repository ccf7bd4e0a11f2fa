import ServerGrid.Ordering
import ServerGrid.Proofs.Column.Quoting
import ServerGrid.Proofs.Query.Isolation
import ServerGrid.Proofs.Sql.Placeholders
import ServerGrid.Proofs.Text.Replacing

/-!
# Bound values of sort keys

A sort key is balanced when it has as many placeholders as values. The keys that an ordering adds
are balanced: those of custom templates were checked, and the direction does not change their
placeholders; those of the default ordering have neither placeholders nor values. Main statement:
`build_applyOrdering`, each placeholder of a key is numbered by the place of its own value among the
values of the built statement.
-/

namespace ServerGrid

open Unquoted

/-- A sort key with as many values as placeholders. -/
def OrderClause.Balanced (c : OrderClause) : Prop := countPlaceholders c.sql = c.values.length

instance (c : OrderClause) : Decidable c.Balanced :=
  inferInstanceAs (Decidable (countPlaceholders c.sql = c.values.length))

/-! ## Custom templates -/

theorem SortDirection.filter_isMark_sql (direction : SortDirection) :
    direction.sql.toList.filter isMark = [] := by
  cases direction <;> decide

/-- The direction has no placeholders, and opens and closes no quotes. -/
theorem countPlaceholders_replaceAll (direction : SortDirection) (template : String) :
    countPlaceholders (Text.replaceAll "$1" direction.sql template) =
      countPlaceholders template := by
  apply countPlaceholders_congr
  rw [Text.replaceAll, String.toList_ofList]
  exact Text.filter_replaceFrom (by decide) direction.filter_isMark_sql (by decide) rfl

theorem CustomOrder.balanced_of_compile {o : CustomOrder} {column : String}
    {direction : SortDirection} {clause : OrderClause}
    (h : o.compile column direction.sql = .ok clause) : clause.Balanced := by
  simp only [compile] at h
  split at h
  · next hcount =>
    cases h
    exact (countPlaceholders_replaceAll direction o.sql).trans hcount
  · cases h

/-! ## Default keys -/

theorem Resolver.countPlaceholders_columnSql (r : Resolver) {name : String}
    (hcall : isFunctionCall name = true → '?' ∉ name.toList) :
    countPlaceholders (r.columnSql name) = 0 := by
  cases hname : isFunctionCall name with
  | true =>
    rw [r.columnSql_of_isFunctionCall hname, countPlaceholders, Text.trim, String.toList_ofList]
    refine countFrom_of_not_mem (fun hmem => ?_) none
    exact hcall hname ((List.dropWhile_sublist _).subset (Text.mem_of_mem_trimEndList hmem))
  | false =>
    obtain ⟨names, hnames, -⟩ := r.exists_names hname
    rw [countPlaceholders, r.toList_columnSql, hnames]
    exact countFrom_chars r.dialect.isQuote_quote names

/-- A null ordering template without marks has the marks of the column it is filled with. -/
theorem Dialect.filter_isMark_nullsLast (column : String) (direction : SortDirection)
    {template : String} (htemplate : template.toList.filter isMark = []) :
    (nullsLast column direction.sql template).toList.filter isMark =
      column.toList.filter isMark := by
  have hslots : ∃ used : String, used.toList.filter isMark = [] ∧
      Text.occursIn "%s".toList used.toList = true ∧
      (if Text.count "%s" template = 2 then template else defaultNullsLast) = used := by
    split
    · next hcount =>
      exact ⟨template, htemplate, Text.occursIn_of_countFrom_pos (hcount ▸ Nat.zero_lt_two), rfl⟩
    · exact ⟨defaultNullsLast, by decide, by decide, rfl⟩
  obtain ⟨used, hused, hslot, heq⟩ := hslots
  obtain ⟨before, after, htext, hfilled⟩ :=
    Text.replaceFirstList_of_occursIn (by decide) column.toList hslot
  rw [htext, List.filter_append, List.filter_append, List.append_eq_nil_iff,
    List.append_eq_nil_iff] at hused
  obtain ⟨⟨hbefore, -⟩, hafter⟩ := hused
  -- the next slot may stand in the column, but the direction has no marks wherever it goes
  rw [nullsLast, heq, Text.replaceFirst, String.toList_ofList,
    Text.filter_replaceFirstList (by decide) direction.filter_isMark_sql, Text.replaceFirst,
    String.toList_ofList, hfilled, List.filter_append, List.filter_append, hbefore, hafter,
    List.nil_append, List.append_nil]

namespace OrderContext

variable {ctx : OrderContext}
  (hexpressions : ∀ columns, ctx.registry.allowed = some columns →
    ∀ name ∈ columns, isFunctionCall name = true → '?' ∉ name.toList)
  (htemplate : ctx.config.nullsLastSql.toList.filter isMark = [])

include htemplate in
theorem filter_isMark_defaultSql (name : String) (direction : SortDirection) :
    (ctx.defaultSql name direction).toList.filter isMark =
      (ctx.resolver.columnSql name).toList.filter isMark := by
  rw [defaultSql]
  split
  · exact Dialect.filter_isMark_nullsLast _ direction htemplate
  · have hblank : (" " : String).toList.filter isMark = [] := by decide
    rw [String.toList_append, String.toList_append, List.filter_append, List.filter_append,
      direction.filter_isMark_sql, hblank, List.append_nil, List.append_nil]

include hexpressions htemplate in
theorem balanced_of_clause {d : OrderDirective} {clause : OrderClause}
    (h : ctx.clause d = .ok (some clause)) : clause.Balanced := by
  cases hname : ctx.request.columnName? d.column.toNat with
  | none =>
    unfold OrderContext.clause at h
    rw [hname] at h
    split at h <;> cases h
  | some name =>
    cases horder : ctx.registry.order? name with
    | some order =>
      have hlt := Request.lt_of_columnName? hname
      unfold OrderContext.clause at h
      simp only [hlt, if_true, hname, horder] at h
      cases hcompile : order.compile name d.direction.sql with
      | error fault =>
        rw [hcompile] at h
        cases h
      | ok compiled =>
        rw [hcompile] at h
        cases h
        exact CustomOrder.balanced_of_compile hcompile
    | none =>
      obtain ⟨hhidden, rfl⟩ := clause_of_default horder hname h
      have hcall : isFunctionCall name = true → '?' ∉ name.toList := by
        intro hname
        have hbyName := Registry.isAllowedByName_of_isFunctionCall hhidden hname
        unfold Registry.isAllowedByName at hbyName
        split at hbyName
        · next columns hallowed =>
          exact hexpressions columns hallowed name (List.contains_iff_mem.1 hbyName) hname
        · cases hbyName
      exact (countPlaceholders_congr (filter_isMark_defaultSql htemplate name d.direction)).trans
        (ctx.resolver.countPlaceholders_columnSql hcall)

end OrderContext

namespace BaseQuery

/-- Keys that are balanced stay so, and are joined by the keys of the directives. -/
theorem balanced_orderDirectives {ctx : OrderContext}
    (hclause : ∀ d clause, ctx.clause d = .ok (some clause) → clause.Balanced) :
    ∀ (directives : List OrderDirective) {q : BaseQuery}, (∀ clause ∈ q.orders, clause.Balanced) →
      ∀ clause ∈ (q.orderDirectives ctx directives).1.orders, clause.Balanced
  | [], _, hq => hq
  | d :: rest, q, hq => by
    unfold orderDirectives
    split
    · exact hq
    · exact balanced_orderDirectives hclause rest hq
    · next added hadded =>
      apply balanced_orderDirectives hclause rest
      intro clause hmem
      rw [orderBy, orders_isolate, List.mem_append, List.mem_singleton] at hmem
      obtain hold | rfl := hmem
      · exact hq clause hold
      · exact hclause d added hadded

/-! ## Where the values are -/

theorem length_orderTexts (backend : Backend) : ∀ (orders : List OrderClause) (bound : Nat),
    (orderTexts backend bound orders).length = orders.length
  | [], _ => rfl
  | _ :: rest, _ => congrArg (· + 1) (length_orderTexts backend rest _)

theorem getElem?_orderTexts (backend : Backend) (clause : OrderClause) (after : List OrderClause) :
    ∀ (before : List OrderClause) (bound : Nat),
      (orderTexts backend bound (before ++ clause :: after))[before.length]? =
        some (bindPlaceholders clause.sql backend
          (bound + (before.flatMap (·.values)).length))
  | [], bound => rfl
  | first :: before, bound => by
    rw [List.cons_append, orderTexts, List.length_cons, List.getElem?_cons_succ,
      getElem?_orderTexts backend clause after before, List.flatMap_cons, List.length_append,
      Nat.add_assoc]

theorem length_flatMap_values (orders : List OrderClause) :
    (orders.flatMap (·.values)).length = orders.foldr (·.values.length + ·) 0 := by
  induction orders with
  | nil => rfl
  | cons clause rest ih => rw [List.flatMap_cons, List.length_append, ih, List.foldr_cons]

theorem getElem?_values (base : List Value) (before : List OrderClause) (clause : OrderClause)
    (after : List OrderClause) {j : Nat} (hj : j < clause.values.length) :
    (base ++ (before ++ clause :: after).flatMap (·.values))[base.length +
      (before.flatMap (·.values)).length + j]? = clause.values[j]? := by
  rw [List.flatMap_append, List.flatMap_cons, ← List.append_assoc, ← List.length_append,
    List.getElem?_append_right (Nat.le_add_right _ _), Nat.add_sub_cancel_left,
    List.getElem?_append_left hj]

/-- **The placeholders and the bound values of the data statement line up.** After an ordering each
key has as many placeholders as values. The built statement binds the values of the base statement
and then those of the keys in order, and the placeholder of a key's `j`-th value is the one for the
place of that value. A template's placeholders do not depend on the direction. -/
theorem build_applyOrdering (q : BaseQuery) (ctx : OrderContext)
    (hown : ∀ clause ∈ q.orders, clause.Balanced)
    (hexpressions : ∀ columns, ctx.registry.allowed = some columns →
      ∀ name ∈ columns, isFunctionCall name = true → '?' ∉ name.toList)
    (htemplate : ctx.config.nullsLastSql.toList.filter isMark = []) :
    let ordered := (q.applyOrdering ctx).1
    (∀ clause ∈ ordered.orders, countPlaceholders clause.sql = clause.values.length) ∧
    (∀ (backend : Backend) (dialect : Dialect),
      let base := ordered.statement.statement backend
      let built := ordered.build backend dialect
      built.values = base.values ++ ordered.orders.flatMap (·.values) ∧
      built.values.length = base.values.length + ordered.orders.foldr (·.values.length + ·) 0 ∧
      ∃ texts, built.sql = base.sql ++ (if ordered.orders.isEmpty then "" else
          (if hasOrderBy base.sql then ", " else " ORDER BY ") ++ Text.join ", " texts) ++
            pageSuffix dialect ordered.page ∧
        texts.length = ordered.orders.length ∧
        ∀ before clause after, ordered.orders = before ++ clause :: after →
          let bound := base.values.length + (before.flatMap (·.values)).length
          let parts := cutFrom none clause.sql.toList
          clause.sql.toList = parts.1 ++ fill (fun _ => ['?']) 0 parts.2 ∧
          texts[before.length]? = some (.ofList (parts.1 ++
            fill (fun n => (backend.placeholder n).toList) (bound + 1) parts.2)) ∧
          parts.2.length = clause.values.length ∧
          ∀ j < clause.values.length, built.values[bound + j]? = clause.values[j]?) ∧
    ∀ (direction : SortDirection) (template : String),
      countPlaceholders (Text.replaceAll "$1" direction.sql template) =
        countPlaceholders template := by
  intro ordered
  have hbalanced : ∀ clause ∈ ordered.orders, clause.Balanced :=
    balanced_orderDirectives
      (fun _ _ h => OrderContext.balanced_of_clause hexpressions htemplate h) _ hown
  refine ⟨hbalanced, fun backend dialect => ?_, countPlaceholders_replaceAll⟩
  intro base built
  refine ⟨rfl, ?_, orderTexts backend base.values.length ordered.orders, rfl, ?_, ?_⟩
  · change (base.values ++ ordered.orders.flatMap (·.values)).length = _
    rw [List.length_append, length_flatMap_values]
  · exact length_orderTexts backend ordered.orders base.values.length
  · intro before clause after hsplit bound parts
    have hmem : clause ∈ ordered.orders := by
      rw [hsplit]
      exact List.mem_append_right _ List.mem_cons_self
    refine ⟨(fill_cutFrom clause.sql.toList none 0).symm, ?_,
      (length_cutFrom clause.sql.toList none).trans (hbalanced clause hmem), fun j hj => ?_⟩
    · rw [hsplit, getElem?_orderTexts, ← toList_bindPlaceholders, String.ofList_toList]
    · change (base.values ++ ordered.orders.flatMap (·.values))[bound + j]? = clause.values[j]?
      rw [hsplit, getElem?_values base.values before clause after hj]

/-- A template with a quoted question mark, and a client column with a question mark. -/
def ordersByRank : OrderContext where
  request := { Request.empty with
    columns := [.ofName "rank", .ofName "why?"], order := [⟨0, "DESC"⟩, ⟨1, "asc"⟩] }
  registry := (Registry.empty.registerOrder "rank"
    ⟨"FIELD(rank, ?, '?') $1", [.ofString "gold"]⟩).allowOnly ["rank", "why?", "LOWER(bio)"]
  resolver := ⟨(ofTable "users").scope, .postgres⟩
  config := { Config.default with nullsLast := true }

/-- The key that the application added itself comes first, and its value is numbered first. -/
theorem build_applyOrdering_rank :
    let ordered := ((ofTable "users").orderBy "id = ?" [.ofString "7"]).applyOrdering ordersByRank
    ordered.2 = .ok () ∧ (∀ clause ∈ ordered.1.orders,
      countPlaceholders clause.sql = clause.values.length) ∧
      ordered.1.build .postgres .postgres =
        ⟨"SELECT \"users\".* FROM \"users\" ORDER BY id = $1, FIELD(rank, $2, '?') desc, " ++
          "\"users\".\"why?\" asc NULLS LAST", [.ofString "7", .ofString "gold"]⟩ := by
  have hlined := build_applyOrdering ((ofTable "users").orderBy "id = ?" [.ofString "7"])
    ordersByRank (by decide) (fun columns hallowed => by cases hallowed; decide)
    (by decide)
  exact ⟨by decide, hlined.1, by decide⟩

end BaseQuery

end ServerGrid
