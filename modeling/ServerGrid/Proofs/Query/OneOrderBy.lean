import ServerGrid.Proofs.Column.Written
import ServerGrid.Proofs.Query.Steps
import ServerGrid.Proofs.Sql.OrderBys

/-!
# One ORDER BY clause

The sort keys of the engine continue the ORDER BY clause of the base statement when its text has
one, and start one otherwise. Main statement: `build_orders`, the test decides as the statement
does, the keys of the caller come before those of the engine, and there is one ORDER BY clause at
the top level besides what the keys of the engine bring themselves. The default keys of columns
bring none (`closed_defaultSql`), but a raw key can (`orderBys_build_ne_one`).
-/

namespace ServerGrid

open Unquoted

/-! ## The sort keys of the caller -/

namespace Piece

variable {backend : Backend}

/-- Without values to number, a text does not depend on what came before. -/
theorem sqlFrom_of_values_eq_nil : ∀ {pieces : List Piece} (bound : Nat), values pieces = [] →
    sqlFrom backend bound pieces = sqlFrom backend 0 pieces
  | [], _, _ => rfl
  | .text s :: _, bound, h => congrArg (s ++ ·) (sqlFrom_of_values_eq_nil bound h)
  | .name s :: _, bound, h =>
    congrArg (Identifier.quoted backend.quote s ++ ·) (sqlFrom_of_values_eq_nil bound h)
  | .raw s :: _, bound, h => congrArg (s ++ ·) (sqlFrom_of_values_eq_nil bound h)
  | .param _ :: _, _, h => by
    cases h

theorem sqlFrom_separated (separator : String) : ∀ {groups : List (List Piece)} (bound : Nat),
    (∀ group ∈ groups, values group = []) →
      sqlFrom backend bound (separated separator groups) =
        Text.join separator (groups.map (sqlFrom backend 0))
  | [], _, _ => rfl
  | [group], bound, h => sqlFrom_of_values_eq_nil bound (h group List.mem_cons_self)
  | first :: second :: rest, bound, h => by
    rw [List.forall_mem_cons] at h
    rw [separated, sqlFrom_append, sqlFrom_of_values_eq_nil bound h.1, sqlFrom,
      sqlFrom_separated separator _ h.2]
    exact (String.append_assoc ..).symm

end Piece

theorem ColumnRef.values_pieces (c : ColumnRef) : Piece.values c.pieces = [] := by
  cases c <;> rfl

theorem SortKey.values_pieces (k : SortKey) : Piece.values k.pieces = [] := by
  rw [SortKey.pieces, Piece.values_append, k.column.values_pieces]
  rfl

/-- A sort key of a statement as text. -/
def SortKey.text (backend : Backend) (k : SortKey) : String := Piece.sqlFrom backend 0 k.pieces

namespace Select

variable (backend : Backend) (s : Select)

/-- The statement without its sort keys and its limit. -/
def withoutOrder : Select := { s.withoutLimit with orderBy := [] }

theorem fragments_withoutOrder : s.withoutOrder.fragments = s.fragments := by
  cases s
  rfl

theorem membersUnordered_withoutOrder {s : Select} (h : s.MembersUnordered) :
    s.withoutOrder.MembersUnordered := by
  cases s
  exact h

theorem pieces_withoutLimit : s.withoutLimit.pieces backend = s.withoutOrder.pieces backend ++
    listPieces " ORDER BY " (s.orderBy.map SortKey.pieces) := by
  cases s
  simp only [pieces, withoutLimit, withoutOrder, listPieces, boundPieces, List.map_nil,
    List.append_nil]

/-- The sort keys of the caller come last, before the limit. -/
theorem sql_withoutLimit : (s.withoutLimit.statement backend).sql =
    (s.withoutOrder.statement backend).sql ++
      if s.orderBy = [] then "" else
        " ORDER BY " ++ Text.join ", " (s.orderBy.map (SortKey.text backend)) := by
  change Piece.sqlFrom backend 0 (s.withoutLimit.pieces backend) = _
  rw [pieces_withoutLimit, Piece.sqlFrom_append]
  refine congrArg ((s.withoutOrder.statement backend).sql ++ ·) ?_
  cases horder : s.orderBy with
  | nil => rfl
  | cons first rest =>
    have hvalues : ∀ group ∈ (first :: rest).map SortKey.pieces, Piece.values group = [] := by
      intro group hgroup
      obtain ⟨k, -, rfl⟩ := List.mem_map.1 hgroup
      exact k.values_pieces
    rw [if_neg (List.cons_ne_nil first rest)]
    refine congrArg (" ORDER BY " ++ ·) ?_
    rw [← List.map_cons, Piece.sqlFrom_separated ", " _ hvalues, List.map_map]
    rfl

end Select

/-! ## The sort keys of the engine -/

/-- A sort key that ends where it starts, and has no ORDER BY clause at the top level. -/
def OrderClause.Closed (c : OrderClause) : Prop := Adds c.sql.toList 0

theorem adds_join {texts : List String} (h : ∀ text ∈ texts, Adds text.toList 0) :
    Adds (Text.join ", " texts).toList 0 := by
  have hcomma : Adds ", ".toList 0 := adds_zero (by decide)
  induction texts with
  | nil => exact .nil
  | cons first rest ih =>
    rw [List.forall_mem_cons] at h
    cases rest with
    | nil => exact h.1
    | cons second rest =>
      rw [Text.join, String.toList_append, String.toList_append]
      exact (h.1.append hcomma).append (ih h.2)

theorem adds_pageSuffix (dialect : Dialect) (page : Option Page) :
    Adds (BaseQuery.pageSuffix dialect page).toList 0 := by
  cases page with
  | none => exact .nil
  | some page =>
    have hblank : Adds " ".toList 0 := adds_zero (by decide)
    have hclause : Adds (dialect.limitClause page.offset page.limit).toList 0 := by
      unfold Dialect.limitClause
      split
      · have hlimit : Adds "LIMIT ".toList 0 := adds_zero (by decide)
        have hoffset : Adds " OFFSET ".toList 0 := adds_zero (by decide)
        simp only [String.toList_append]
        exact ((hlimit.append (adds_repr _)).append hoffset).append (adds_repr _)
      · have hoffset : Adds "OFFSET ".toList 0 := adds_zero (by decide)
        have hfetch : Adds " ROWS FETCH NEXT ".toList 0 := adds_zero (by decide)
        have hrows : Adds " ROWS ONLY".toList 0 := adds_zero (by decide)
        simp only [String.toList_append]
        exact (((hoffset.append (adds_repr _)).append hfetch).append (adds_repr _)).append hrows
      · have hrows : Adds "ROWS ".toList 0 := adds_zero (by decide)
        have hto : Adds " TO ".toList 0 := adds_zero (by decide)
        simp only [String.toList_append]
        exact ((hrows.append (adds_repr _)).append hto).append (adds_repr _)
    rw [BaseQuery.pageSuffix, String.toList_append]
    exact hblank.append hclause

namespace BaseQuery

theorem adds_orderTexts (backend : Backend) : ∀ {orders : List OrderClause} (bound : Nat),
    (∀ clause ∈ orders, clause.Closed) →
      ∀ text ∈ orderTexts backend bound orders, Adds text.toList 0
  | [], _, _, _, htext => absurd htext List.not_mem_nil
  | clause :: rest, bound, h, text, htext => by
    rw [List.forall_mem_cons] at h
    rcases List.mem_cons.1 htext with rfl | htext
    · exact Adds.bindPlaceholders h.1 backend bound
    · exact adds_orderTexts backend _ h.2 text htext

end BaseQuery

/-- A template for the nulls with closed parts around its slots. -/
def ClosedTemplate (template : String) : Prop :=
  ∃ before between after, TwoSlots (Dialect.slotted template) before between after ∧
    Adds before.toList 0 ∧ Adds between.toList 0 ∧ Adds after.toList 0

theorem closedTemplate_defaultNullsLast : ClosedTemplate defaultNullsLast := by
  have hslotted : Dialect.slotted defaultNullsLast = defaultNullsLast := ite_self _
  refine ⟨"", " ", " NULLS LAST", ?_, .nil, adds_zero (by decide), adds_zero (by decide)⟩
  rw [hslotted]
  exact twoSlots_defaultNullsLast

theorem adds_direction (direction : SortDirection) : Adds direction.sql.toList 0 := by
  cases direction <;> exact adds_zero (by decide)

/-- The default key of a column that is no expression is closed. -/
theorem closed_defaultSql (ctx : OrderContext) {name : String} (direction : SortDirection)
    (hcall : isFunctionCall name = false)
    (htemplate : ctx.config.nullsLast = true → ClosedTemplate ctx.config.nullsLastSql) :
    OrderClause.Closed ⟨ctx.defaultSql name direction, []⟩ := by
  have htext := sortText_defaultSql ctx name direction
  unfold OrderClause.Closed
  cases hlast : ctx.config.nullsLast with
  | false =>
    have hcolumn : Adds (ctx.resolver.columnSql name).toList 0 :=
      (EngineSql.column ctx.resolver hcall).adds
    have hblank : Adds " ".toList 0 := adds_zero (by decide)
    rw [htext.plain hlast, String.toList_append, String.toList_append]
    exact (hcolumn.append hblank).append (adds_direction direction)
  | true =>
    obtain ⟨before, between, after, hslots, hbefore, hbetween, hafter⟩ := htemplate hlast
    obtain ⟨names, -, hnames⟩ := ctx.resolver.exists_names hcall
    obtain ⟨written, second, hplaced, -, hsql⟩ :=
      htext.path hlast hcall names before between after hnames hslots
    have hpath : Adds (Path.chars ctx.resolver.dialect.templates.quote written) 0 :=
      adds_chars ctx.resolver.dialect.isQuote_quote written
    have hsecond : Adds second.toList 0 := by
      cases hplaced with
      | behind => exact adds_direction direction
      | inside => exact adds_zero (by decide)
    simp only [hsql, String.toList_append, String.toList_ofList]
    exact (((hbefore.append hpath).append hbetween).append hsecond).append hafter

/-- A sort key of the engine: the default key of a column that is no expression, or another one that
is closed. -/
inductive EngineKey : OrderClause → Prop
  | default (ctx : OrderContext) {name : String} (direction : SortDirection)
      (hcall : isFunctionCall name = false)
      (htemplate : ctx.config.nullsLast = true → ClosedTemplate ctx.config.nullsLastSql) :
      EngineKey ⟨ctx.defaultSql name direction, []⟩
  | other {clause : OrderClause} (h : clause.Closed) : EngineKey clause

theorem EngineKey.closed {clause : OrderClause} (h : EngineKey clause) : clause.Closed := by
  cases h with
  | default ctx direction hcall htemplate => exact closed_defaultSql ctx direction hcall htemplate
  | other h => exact h

namespace BaseQuery

/-- What the engine adds to a base statement: its sort keys and the page. -/
def suffix (q : BaseQuery) (backend : Backend) (dialect : Dialect) : String :=
  Text.join ", " (orderTexts backend (q.statement.statement backend).values.length q.orders) ++
    pageSuffix dialect q.page

section Build

variable (q : BaseQuery) (backend : Backend) (dialect : Dialect)

theorem sql_build (horders : q.orders ≠ []) : (q.build backend dialect).sql =
    (q.statement.statement backend).sql ++
      (if hasOrderBy (q.statement.statement backend).sql then ", " else " ORDER BY ") ++
      q.suffix backend dialect := by
  have hnonempty : ¬q.orders.isEmpty = true := by
    rwa [List.isEmpty_iff]
  rw [build, orderSuffix, if_neg hnonempty, suffix]
  simp only [String.append_assoc]

theorem adds_suffix (h : ∀ clause ∈ q.orders, clause.Closed) :
    Adds (q.suffix backend dialect).toList 0 := by
  rw [suffix, String.toList_append]
  exact (adds_join (adds_orderTexts backend _ h)).append (adds_pageSuffix dialect q.page)

variable {q} (hfragments : Enclosed q.statement.fragments)
  (hmembers : q.statement.MembersUnordered)
include hfragments hmembers

/-- The statement and what comes before the engine's keys have one ORDER BY clause together. -/
theorem orderBys_build (horders : q.orders ≠ []) :
    orderBys (q.build backend dialect).sql = 1 + orderBys (q.suffix backend dialect) := by
  have htest := Select.hasOrderBy_statement_iff backend hfragments hmembers
  have hbase : Adds (q.statement.statement backend).sql.toList
      (if q.statement.orderBy = [] then 0 else 1) :=
    Select.outerOrderBys_eq backend hmembers ▸
      Select.hasOrderBys_pieces (hfragments.closed backend) 0
  have hcomma : Adds ", ".toList 0 := adds_zero (by decide)
  have hwords : Adds " ORDER BY ".toList 1 := adds_of_plain (by decide) (by decide)
  rw [sql_build q backend dialect horders, orderBys, String.toList_append, String.toList_append]
  by_cases h : q.statement.orderBy = []
  · rw [if_neg (mt htest.1 (not_not_intro h))]
    rw [if_pos h] at hbase
    exact (hbase.append hwords).top _
  · rw [if_pos (htest.2 h)]
    rw [if_neg h] at hbase
    exact (hbase.append hcomma).top _

/-- The keys of the caller come first. -/
theorem sql_build_eq (horders : q.orders ≠ []) : (q.build backend dialect).sql =
    (q.statement.withoutOrder.statement backend).sql ++
      (if q.statement.orderBy = [] then q.statement.limitText backend ++ " ORDER BY "
        else " ORDER BY " ++ Text.join ", " (q.statement.orderBy.map (SortKey.text backend)) ++
          q.statement.limitText backend ++ ", ") ++ q.suffix backend dialect := by
  have htest := Select.hasOrderBy_statement_iff backend hfragments hmembers
  rw [sql_build q backend dialect horders]
  by_cases h : q.statement.orderBy = []
  · rw [if_neg (mt htest.1 (not_not_intro h)), Select.sql_statement_eq, Select.sql_withoutLimit,
      if_pos h, if_pos h]
    simp only [String.append_assoc, String.empty_append]
  · rw [if_pos (htest.2 h), Select.sql_statement_eq, Select.sql_withoutLimit, if_neg h, if_neg h]
    simp only [String.append_assoc]

end Build

/-- **The engine's sort keys continue the caller's.** The test for an ORDER BY clause in the text of
a statement, whose raw SQL is the engine's own or closed and whose members do not sort, agrees with
the statement. So sort keys of the engine are put after a comma exactly when the statement sorts,
the caller's keys come first, and one ORDER BY clause stands at the top level besides those that the
engine's keys bring themselves. It is the only one when these are default keys of columns, or closed
ones. -/
theorem build_orders (q : BaseQuery) (backend : Backend) (dialect : Dialect)
    (hfragments : Enclosed q.statement.fragments) (hmembers : q.statement.MembersUnordered) :
    let s := q.statement
    let built := (q.build backend dialect).sql
    (hasOrderBy (s.statement backend).sql = true ↔ s.orderBy ≠ []) ∧
    (q.orders ≠ [] →
      built = (s.withoutOrder.statement backend).sql ++
          (if s.orderBy = [] then s.limitText backend ++ " ORDER BY "
            else " ORDER BY " ++ Text.join ", " (s.orderBy.map (SortKey.text backend)) ++
              s.limitText backend ++ ", ") ++ q.suffix backend dialect ∧
      orderBys (s.withoutOrder.statement backend).sql = 0 ∧
      orderBys built = 1 + orderBys (q.suffix backend dialect) ∧
      ((∀ clause ∈ q.orders, EngineKey clause) → orderBys built = 1)) := by
  intro s built
  refine ⟨Select.hasOrderBy_statement_iff backend hfragments hmembers, fun horders => ?_⟩
  have hcount := orderBys_build backend dialect hfragments hmembers horders
  refine ⟨sql_build_eq backend dialect hfragments hmembers horders, ?_, hcount, fun hkeys => ?_⟩
  · rw [← s.fragments_withoutOrder] at hfragments
    rw [Select.orderBys_statement backend hfragments,
      Select.outerOrderBys_eq backend (Select.membersUnordered_withoutOrder hmembers)]
    exact if_pos rfl
  · have hsuffix : orderBys (q.suffix backend dialect) = 0 :=
      (q.adds_suffix backend dialect fun clause hclause =>
        (hkeys clause hclause).closed).orderBysFrom_eq
    rw [hcount, hsuffix]

/-- The first rows by rank of a table with an odd name. -/
def firstByRank : Select :=
  { Select.empty with
    items := [.column (.allOf "order by (")]
    source := .table ⟨none, "order by ("⟩ none
    orderBy := [⟨.bare "rank", false⟩]
    limit := some 5 }

/-- Ranked rows of a sorted derived table, filtered by a sorted subquery too, and sorted by the
caller. -/
def sortedByCaller : Select :=
  let named := likePredicate (usersResolver.columnSql "na)me") "x%" .sqlite .default
  { Select.empty with
    items := [.column .all, .raw "RANK() OVER (ORDER BY id)" none]
    source := .derived firstByRank "we\"ird"
    filter := some ((Condition.ofPredicate named).add (.leaf (.nonempty firstByRank.subquery)))
    orderBy := [⟨.bare "id", true⟩] }

/-- A sort key of the engine behind that of the caller. -/
theorem build_orders_sortedByCaller :
    let ctx : OrderContext :=
      ⟨.empty, .empty, usersResolver, { Config.default with nullsLast := true }⟩
    let q := (ofStatement sortedByCaller).orderBy (ctx.defaultSql "a%s" .asc) []
    Enclosed q.statement.fragments ∧ q.statement.MembersUnordered ∧
      (∀ clause ∈ q.orders, EngineKey clause) ∧ orderBys (q.build .sqlite .sqlite).sql = 1 ∧
      (q.build .sqlite .sqlite).sql =
        "SELECT *, RANK() OVER (ORDER BY id) FROM " ++
          "(SELECT \"order by (\".* FROM \"order by (\" ORDER BY \"rank\" ASC LIMIT ?) " ++
          "AS \"we\"\"ird\" WHERE LOWER(\"users\".\"na)me\") LIKE ? " ++
          "AND EXISTS(SELECT \"order by (\".* FROM \"order by (\" ORDER BY \"rank\" ASC " ++
          "LIMIT ?) ORDER BY \"id\" DESC, \"users\".\"aasc\" %s NULLS LAST" := by
  intro ctx q
  have hfragments : Enclosed q.statement.fragments := by
    have hcall : isFunctionCall "na)me" = false := by decide
    have hnamed := EngineSql.lowered (.castToText .sqlite (.column usersResolver hcall))
    have hfirst : Enclosed firstByRank.fragments := List.forall_mem_nil _
    have hrank : Adds "RANK() OVER (ORDER BY id)".toList 0 := by
      have hname : Adds "RANK".toList 0 := adds_zero (by decide)
      have hover : Adds " OVER ".toList 0 := adds_zero (by decide)
      have hwindow : Adds "ORDER BY id".toList 1 := adds_of_plain (by decide) (by decide)
      exact (adds_call hname .nil).append (adds_call hover hwindow)
    exact List.forall_mem_cons.2 ⟨.other hrank,
      List.forall_mem_cons.2 ⟨.engine hnamed, List.forall_mem_singleton.2 (.body hfirst)⟩⟩
  have hcall : isFunctionCall "a%s" = false := by decide
  have hkeys : ∀ clause ∈ q.orders, EngineKey clause :=
    List.forall_mem_singleton.2 (.default ctx .asc hcall fun _ => closedTemplate_defaultNullsLast)
  have hmembers : q.statement.MembersUnordered := trivial
  have hbuild := q.build_orders .sqlite .sqlite hfragments hmembers
  have horders : q.orders ≠ [] := List.cons_ne_nil _ _
  obtain ⟨hsql, -, -, hone⟩ := hbuild.2 horders
  refine ⟨hfragments, hmembers, hkeys, hone hkeys, ?_⟩
  rw [hsql]
  decide +kernel

/-- A raw key is written as it stands, with the ORDER BY clause that it brings. -/
theorem orderBys_build_ne_one :
    ¬∀ (q : BaseQuery) (backend : Backend) (dialect : Dialect), Enclosed q.statement.fragments →
      q.statement.MembersUnordered → q.orders ≠ [] →
        orderBys (q.build backend dialect).sql = 1 := by
  intro h
  have hone := h ((ofTable "users").orderBy "rank ORDER BY id" []) .sqlite .sqlite
    (List.forall_mem_nil _) trivial (List.cons_ne_nil _ _)
  revert hone
  decide +kernel

end BaseQuery

end ServerGrid
