import ServerGrid.Proofs.Count.Markers
import ServerGrid.Proofs.Sql.Rows

/-!
# When a count keeps the select list

The decision is made on the text of the statement; here it is read off the statement. A statement is
`marked` when it or a statement inside it is DISTINCT, groups, has a HAVING clause, sorts or has a
union among its members: each of these leaves a marker in the text of every backend. The rest of the
text holds a marker only when something that the caller wrote holds one, a name or a piece of SQL
(`texts`). Main statement: `countStatement_eq`. INTERSECT, EXCEPT and aggregates leave no marker, so
that their select list is lost: `countStatement_of_count` and `countStatement_of_intersect`.
-/

namespace ServerGrid

/-! ## Clauses that leave a marker -/

mutual

/-- Whether a clause of the statement or of one inside it leaves a marker. -/
def Select.marked : Select → Bool
  | ⟨distinct, _, source, _, _, groupBy, having, members, orderBy, _, _⟩ =>
    distinct || Source.marked source || !groupBy.isEmpty || having.isSome ||
      Select.membersMarked members || !orderBy.isEmpty

def Source.marked : Source Select → Bool
  | .nothing | .table .. => false
  | .derived body _ => Select.marked body

def Select.membersMarked : List (SetOperator × Select) → Bool
  | [] => false
  | (operator, body) :: rest =>
    operator.isUnion || Select.marked body || Select.membersMarked rest

end

section Marked

variable (backend : Backend)

theorem exists_mem_listPieces {word : String} {groups : List (List Piece)} (h : groups ≠ []) :
    .text word ∈ listPieces word groups := by
  cases groups with
  | nil => exact absurd rfl h
  | cons first rest => exact List.mem_cons_self

mutual

theorem Select.exists_marker_mem_pieces : ∀ {s : Select}, s.marked = true →
    ∃ text, .text text ∈ s.pieces backend ∧ isComplexQuery text = true
  | ⟨distinct, items, source, joins, filter, groupBy, having, members, orderBy, limit, offset⟩,
      h => by
    simp only [Select.marked, Bool.or_eq_true] at h
    simp only [Select.pieces, List.mem_append, List.mem_cons]
    rcases h with ((((hdistinct | hsource) | hgroup) | hhaving) | hmembers) | horder
    · refine ⟨"SELECT DISTINCT ", ?_, by decide⟩
      rw [hdistinct]
      simp
    · obtain ⟨text, hmem, hmarker⟩ := Source.exists_marker_mem_pieces hsource
      exact ⟨text, by simp [hmem], hmarker⟩
    · have hne : groupBy.map ColumnRef.pieces ≠ [] := by
        simpa using hgroup
      exact ⟨" GROUP BY ", by simp [exists_mem_listPieces hne], by decide⟩
    · cases having with
      | none => cases hhaving
      | some c => exact ⟨" HAVING ", by simp [conditionPieces], by decide⟩
    · obtain ⟨text, hmem, hmarker⟩ := Select.exists_marker_mem_membersPieces hmembers
      exact ⟨text, by simp [hmem], hmarker⟩
    · have hne : orderBy.map SortKey.pieces ≠ [] := by
        simpa using horder
      exact ⟨" ORDER BY ", by simp [exists_mem_listPieces hne], by decide⟩

theorem Source.exists_marker_mem_pieces : ∀ {source : Source Select}, Source.marked source = true →
    ∃ text, .text text ∈ Source.pieces backend source ∧ isComplexQuery text = true
  | .derived body label, h => by
    obtain ⟨text, hmem, hmarker⟩ := Select.exists_marker_mem_pieces (s := body) h
    exact ⟨text, by simp [Source.pieces, Piece.parenthesised, hmem], hmarker⟩

theorem Select.exists_marker_mem_membersPieces : ∀ {members : List (SetOperator × Select)},
    Select.membersMarked members = true →
      ∃ text, .text text ∈ Select.membersPieces backend members ∧ isComplexQuery text = true
  | (operator, body) :: rest, h => by
    simp only [Select.membersMarked, Bool.or_eq_true] at h
    simp only [Select.membersPieces, List.mem_append]
    rcases h with (hunion | hbody) | hrest
    · refine ⟨operator.word, .inl List.mem_cons_self, ?_⟩
      cases operator with
      | unionAll => decide
      | union => decide
      | intersect => cases hunion
      | except => cases hunion
    · obtain ⟨text, hmem, hmarker⟩ := Select.exists_marker_mem_pieces (s := body) hbody
      refine ⟨text, .inl (List.mem_cons_of_mem _ ?_), hmarker⟩
      cases backend <;> simp [Piece.parenthesised, hmem]
    · obtain ⟨text, hmem, hmarker⟩ := Select.exists_marker_mem_membersPieces hrest
      exact ⟨text, .inr hmem, hmarker⟩

end

/-- A marked statement keeps its select list. -/
theorem Select.isComplexQuery_of_marked {s : Select} (h : s.marked = true) :
    isComplexQuery (s.statement backend).sql = true := by
  obtain ⟨text, hmem, hmarker⟩ := Select.exists_marker_mem_pieces backend h
  by_contra hcomplex
  rw [Bool.not_eq_true, isComplexQuery_eq_false_iff] at hcomplex
  have hpart := hcomplex.of_infix (Piece.infix_folded_of_mem hmem)
  rw [← isComplexQuery_eq_false_iff, hmarker] at hpart
  cases hpart

end Marked

/-! ## What the caller wrote -/

def ColumnRef.names : ColumnRef → List String
  | .all => []
  | .allOf table => [table]
  | .bare column => [column]
  | .qualified table column => [table, column]

def Operand.texts : Operand → List String
  | .column c => c.names
  | .verbatim sql => [sql]
  | .value _ => []

/-- The texts between the values of a subquery. -/
def Subquery.texts (body : Subquery) : List String :=
  Piece.runsFrom .mysql "" body.mysql ++ Piece.runsFrom .postgres "" body.postgres ++
    Piece.runsFrom .sqlite "" body.sqlite

/-- The names and the SQL in a predicate. An operator stands between two blanks, where it could
complete a marker that begins before it or ends after it. -/
def Predicate.texts : Predicate → List String
  | .compare _ left right => left.texts ++ right.texts
  | .isNull o | .isNotNull o | .oneOf o _ | .between o _ _ | .like o _ _ | .truth o => o.texts
  | .regex operator o pattern => ("order " ++ operator ++ " by") :: (o.texts ++ pattern.texts)
  | .call function arguments => function :: arguments.flatMap Operand.texts
  | .nonempty body => body.texts
  | .subquery _ o body => o.texts ++ body.texts
  | .raw sql => [sql]

def Formula.texts : Formula → List String
  | .leaf p => p.texts
  | .constant _ => []
  | .binary _ left right => left.texts ++ right.texts
  | .not f => f.texts

def SelectItem.texts : SelectItem → List String
  | .column c => c.names
  | .aggregate _ c label => c.names ++ label.toList
  | .raw sql label => sql :: label.toList

def Join.texts (j : Join) : List String := j.table :: j.on.formula.texts

mutual

/-- The names and the SQL in a statement, those of clauses that leave a marker aside. -/
def Select.texts : Select → List String
  | ⟨_, items, source, joins, filter, _, _, members, _, _, _⟩ =>
    items.flatMap SelectItem.texts ++ Source.texts source ++ joins.flatMap Join.texts ++
      filter.toList.flatMap (·.formula.texts) ++ Select.memberTexts members

def Source.texts : Source Select → List String
  | .nothing => []
  | .table name label => name.schema.toList ++ name.name :: label.toList
  | .derived body label => Select.texts body ++ [label]

def Select.memberTexts : List (SetOperator × Select) → List String
  | [] => []
  | (_, body) :: rest => Select.texts body ++ Select.memberTexts rest

end

/-- No text holds a marker. -/
def Plain (texts : List String) : Prop := ∀ text ∈ texts, isComplexQuery text = false

theorem plain_append {a b : List String} : Plain (a ++ b) ↔ Plain a ∧ Plain b :=
  List.forall_mem_append

theorem plain_cons {text : String} {rest : List String} :
    Plain (text :: rest) ↔ isComplexQuery text = false ∧ Plain rest :=
  List.forall_mem_cons

theorem Plain.of_mem_flatMap {α : Type} {f : α → List String} {l : List α}
    (h : Plain (l.flatMap f)) {x : α} (hx : x ∈ l) : Plain (f x) :=
  fun text htext => h text (List.mem_flatMap.2 ⟨x, hx, htext⟩)

/-! ## The other clauses leave none -/

section Quiet

open Text (fold)
open Piece (Quiet Trailing quiet_text quiet_name quiet_raw quiet_param quiet_nil)

variable {backend : Backend}

theorem ColumnRef.quiet_pieces {c : ColumnRef} (h : Plain c.names) : Quiet backend c.pieces := by
  cases c with
  | all => exact quiet_text (by decide)
  | allOf table =>
    have htable := (plain_cons.1 h).1
    exact (quiet_name htable).between (by decide) quiet_nil
  | bare column => exact quiet_name (plain_cons.1 h).1
  | qualified table column =>
    obtain ⟨htable, hrest⟩ := plain_cons.1 h
    exact (quiet_name htable).between (by decide) (quiet_name (plain_cons.1 hrest).1)

theorem Operand.quiet_pieces {o : Operand} (h : Plain o.texts) : Quiet backend o.pieces := by
  cases o with
  | column c => exact ColumnRef.quiet_pieces h
  | verbatim sql => exact quiet_raw (plain_cons.1 h).1
  | value v => exact quiet_param v

theorem Subquery.quiet_pieces {body : Subquery} (h : Plain body.texts) :
    Quiet backend (body.pieces backend) := by
  obtain ⟨hothers, hsqlite⟩ := plain_append.1 h
  obtain ⟨hmysql, hpostgres⟩ := plain_append.1 hothers
  cases backend with
  | mysql => exact Piece.quiet_of_runsFrom hmysql
  | postgres => exact Piece.quiet_of_runsFrom hpostgres
  | sqlite => exact Piece.quiet_of_runsFrom hsqlite

theorem Comparison.separates_sign (op : Comparison) :
    Separates (fold (" " ++ op.sign ++ " ").toList) := by
  cases op <;> decide

theorem SubqueryTest.separates_sign (test : SubqueryTest) :
    Separates (fold (" " ++ test.sign ++ " ").toList) := by
  cases test with
  | isIn => decide
  | notIn => decide
  | compare op => exact op.separates_sign

theorem Predicate.quiet_pieces {p : Predicate} (h : Plain p.texts) :
    Quiet backend (p.pieces backend) := by
  have hcomma : Separates (fold ", ".toList) := by decide
  cases p with
  | compare op left right =>
    obtain ⟨hleft, hright⟩ := plain_append.1 h
    exact (Operand.quiet_pieces hleft).between op.separates_sign (Operand.quiet_pieces hright)
  | isNull o => exact (Operand.quiet_pieces h).between (by decide) quiet_nil
  | isNotNull o => exact (Operand.quiet_pieces h).between (by decide) quiet_nil
  | oneOf o values =>
    cases values with
    | nil => exact (quiet_param _).between (by decide) (quiet_param _)
    | cons first rest =>
      refine (Operand.quiet_pieces h).between (by decide) ?_
      refine (Piece.trailing_parenthesised (Piece.quiet_separated hcomma ?_)).quiet
      intro group hgroup
      obtain ⟨v, -, rfl⟩ := List.mem_map.1 hgroup
      exact quiet_param v
  | between o low high =>
    have hbounds : Quiet backend ([.param low] ++ .text " AND " :: [.param high]) :=
      (quiet_param low).between (by decide) (quiet_param high)
    exact (Operand.quiet_pieces h).between (by decide) hbounds
  | like o pattern escaped =>
    have hlike : Quiet backend (o.pieces ++ [.text " LIKE ", .param (.ofString pattern)]) :=
      (Operand.quiet_pieces h).between (by decide) (quiet_param _)
    cases escaped with
    | false => exact hlike.append .nil
    | true =>
      have hescape : Separates (fold (" ESCAPE " ++ backend.backslashLiteral).toList) := by
        cases backend <;> decide
      exact hlike.between hescape quiet_nil
  | regex operator o pattern =>
    obtain ⟨hoperator, hrest⟩ := plain_cons.1 h
    obtain ⟨ho, hpattern⟩ := plain_append.1 hrest
    exact (Operand.quiet_pieces ho).between (separates_between_blanks hoperator)
      (Operand.quiet_pieces hpattern)
  | call function arguments =>
    obtain ⟨hfunction, harguments⟩ := plain_cons.1 h
    have hcall : Quiet backend [.text function] :=
      quiet_text ((isComplexQuery_eq_false_iff function).1 hfunction)
    refine hcall.append (Piece.trailing_parenthesised ?_)
    refine Piece.quiet_separated hcomma fun group hgroup => ?_
    obtain ⟨argument, hargument, rfl⟩ := List.mem_map.1 hgroup
    exact Operand.quiet_pieces (harguments.of_mem_flatMap hargument)
  | truth o => exact Operand.quiet_pieces h
  | nonempty body =>
    have hword : Quiet backend [.text "EXISTS"] := quiet_text (by decide)
    exact hword.append (Piece.trailing_parenthesised (Subquery.quiet_pieces h))
  | subquery test o body =>
    obtain ⟨ho, hbody⟩ := plain_append.1 h
    exact (Operand.quiet_pieces ho).between test.separates_sign
      (Piece.trailing_parenthesised (Subquery.quiet_pieces hbody)).quiet
  | raw sql => exact quiet_raw (plain_cons.1 h).1

theorem Formula.quiet_guarded {binds : Bool} {pieces : List Piece} (h : Quiet backend pieces) :
    Quiet backend (Formula.guarded binds pieces) := by
  cases binds with
  | false => exact (Piece.trailing_parenthesised h).quiet
  | true => exact h

theorem Formula.quiet_pieces {f : Formula} (h : Plain f.texts) :
    Quiet backend (f.pieces backend) := by
  induction f with
  | leaf p => exact Predicate.quiet_pieces h
  | constant b => cases b <;> exact quiet_text (by decide)
  | binary j left right ihleft ihright =>
    obtain ⟨hleft, hright⟩ := plain_append.1 h
    have hword : Separates (fold (Formula.word j).toList) := by
      cases j <;> decide
    exact (Formula.quiet_guarded (ihleft hleft)).between hword
      (Formula.quiet_guarded (ihright hright))
  | not f ih => exact (Formula.quiet_guarded (ih h)).text_cons (by decide) (by decide)

theorem trailing_labelPieces {label : Option String} (h : Plain label.toList) :
    Trailing backend (labelPieces label) := by
  cases label with
  | none => exact .nil
  | some label => exact .text_cons (by decide) (quiet_name (plain_cons.1 h).1)

theorem SelectItem.quiet_pieces {item : SelectItem} (h : Plain item.texts) :
    Quiet backend item.pieces := by
  cases item with
  | column c => exact ColumnRef.quiet_pieces h
  | aggregate f c label =>
    obtain ⟨hc, hlabel⟩ := plain_append.1 h
    have hclosed : Quiet backend (c.pieces ++ .text ")" :: labelPieces label) :=
      (ColumnRef.quiet_pieces hc).between (by decide) (trailing_labelPieces hlabel).quiet
    have hopening : Separates (fold f.opening.toList) := by
      cases f <;> decide
    exact hclosed.text_cons hopening.1 hopening.2.2
  | raw sql label =>
    obtain ⟨hsql, hlabel⟩ := plain_cons.1 h
    exact (quiet_raw hsql).append (trailing_labelPieces hlabel)

theorem TableName.quiet_pieces {t : TableName} (h : Plain (t.schema.toList ++ [t.name])) :
    Quiet backend t.pieces := by
  obtain ⟨schema, name⟩ := t
  cases schema with
  | none => exact quiet_name (plain_cons.1 h).1
  | some schema =>
    obtain ⟨hschema, hname⟩ := plain_cons.1 h
    exact (quiet_name hschema).between (by decide) (quiet_name (plain_cons.1 hname).1)

theorem Join.trailing_pieces {j : Join} (h : Plain j.texts) :
    Trailing backend (j.pieces backend) := by
  obtain ⟨htable, hon⟩ := plain_cons.1 h
  have hcondition : Quiet backend ([.name j.table] ++ .text " ON " :: j.on.pieces backend) :=
    (quiet_name htable).between (by decide) (Formula.quiet_pieces hon)
  exact .text_cons (by decide) hcondition

theorem trailing_boundPieces {word : String} (h : Separates (fold word.toList))
    (n : Option UInt64) : Trailing backend (boundPieces word n) := by
  cases n with
  | none => exact .nil
  | some n => exact .text_cons h (quiet_param _)

theorem trailing_memberPieces {operator : SetOperator} {body : List Piece}
    (hunion : operator.isUnion = false) (hbody : Quiet backend body) :
    Trailing backend (memberPieces backend operator body) := by
  have hword : Separates (fold operator.word.toList) := by
    cases operator with
    | unionAll => cases hunion
    | union => cases hunion
    | intersect => decide
    | except => decide
  refine .text_cons hword ?_
  cases backend with
  | sqlite => exact hbody
  | mysql => exact (Piece.trailing_parenthesised hbody).quiet
  | postgres => exact (Piece.trailing_parenthesised hbody).quiet

mutual

theorem Select.quiet_pieces : ∀ {s : Select}, s.marked = false → Plain s.texts →
    Quiet backend (s.pieces backend)
  | ⟨distinct, items, source, joins, filter, groupBy, having, members, orderBy, limit, offset⟩,
      hmarked, h => by
    simp only [Select.marked, Bool.or_eq_false_iff, Bool.not_eq_false', List.isEmpty_iff,
      Option.isSome_eq_false_iff, Option.isNone_iff_eq_none] at hmarked
    obtain ⟨⟨⟨⟨⟨rfl, hsource⟩, rfl⟩, rfl⟩, hmembers⟩, rfl⟩ := hmarked
    simp only [Select.texts, plain_append] at h
    obtain ⟨⟨⟨⟨hitems, hsourceTexts⟩, hjoins⟩, hfilter⟩, hmemberTexts⟩ := h
    have hlist : Quiet backend (Piece.separated ", " (items.map SelectItem.pieces)) := by
      refine Piece.quiet_separated (by decide) fun group hgroup => ?_
      obtain ⟨item, hitem, rfl⟩ := List.mem_map.1 hgroup
      exact SelectItem.quiet_pieces (hitems.of_mem_flatMap hitem)
    have hwhere : Trailing backend (conditionPieces backend " WHERE " filter) := by
      cases filter with
      | none => exact .nil
      | some c =>
        exact .text_cons (by decide) (Formula.quiet_pieces (hfilter.of_mem_flatMap (by simp)))
    have hjoined : Trailing backend (joins.flatMap (Join.pieces backend)) :=
      .flatMap fun j hj => Join.trailing_pieces (hjoins.of_mem_flatMap hj)
    have hselect : Quiet backend
        (.text "SELECT " :: Piece.separated ", " (items.map SelectItem.pieces)) :=
      hlist.text_cons (by decide) (by decide)
    exact (hselect.append (Source.trailing_pieces hsource hsourceTexts)).append hjoined
      |>.append hwhere |>.append .nil |>.append .nil
      |>.append (Select.trailing_membersPieces hmembers hmemberTexts) |>.append .nil
      |>.append (trailing_boundPieces (by decide) limit)
      |>.append (trailing_boundPieces (by decide) offset)

theorem Source.trailing_pieces : ∀ {source : Source Select}, Source.marked source = false →
    Plain (Source.texts source) → Trailing backend (Source.pieces backend source)
  | .nothing, _, _ => .nil
  | .table name label, _, h => by
    rw [Source.texts, ← List.singleton_append, ← List.append_assoc] at h
    obtain ⟨hname, hlabel⟩ := plain_append.1 h
    have hfrom : Trailing backend (.text " FROM " :: name.pieces) :=
      .text_cons (by decide) (TableName.quiet_pieces hname)
    exact hfrom.append (trailing_labelPieces hlabel)
  | .derived body label, hmarked, h => by
    obtain ⟨hbody, hlabel⟩ := plain_append.1 h
    have hinner := Piece.trailing_parenthesised (Select.quiet_pieces (s := body) hmarked hbody)
    have hfrom : Trailing backend (.text " FROM " :: Piece.parenthesised (body.pieces backend)) :=
      .text_cons (by decide) hinner.quiet
    have hnamed : Trailing backend (labelPieces (some label)) := trailing_labelPieces hlabel
    exact hfrom.append hnamed

theorem Select.trailing_membersPieces : ∀ {members : List (SetOperator × Select)},
    Select.membersMarked members = false → Plain (Select.memberTexts members) →
      Trailing backend (Select.membersPieces backend members)
  | [], _, _ => .nil
  | (operator, body) :: rest, hmarked, h => by
    simp only [Select.membersMarked, Bool.or_eq_false_iff] at hmarked
    obtain ⟨⟨hunion, hbody⟩, hrest⟩ := hmarked
    obtain ⟨hbodyTexts, hrestTexts⟩ := plain_append.1 h
    exact (trailing_memberPieces hunion (Select.quiet_pieces hbody hbodyTexts)).append
      (Select.trailing_membersPieces hrest hrestTexts)

end

/-- The text of a statement holds a marker exactly when the statement is marked, as long as what the
caller wrote holds none. -/
theorem Select.isComplexQuery_eq_marked {s : Select} (h : Plain s.texts) :
    isComplexQuery (s.statement backend).sql = s.marked := by
  cases hmarked : s.marked with
  | true => exact Select.isComplexQuery_of_marked backend hmarked
  | false => exact (isComplexQuery_eq_false_iff _).2 (Select.quiet_pieces hmarked h 0)

end Quiet

/-! ## The select list of a count -/

/-- Whether the select list aggregates all rows into one, without GROUP BY. An aggregate in raw SQL
is not seen. -/
def Select.aggregates (s : Select) : Bool :=
  s.groupBy.isEmpty && s.items.any fun
    | .aggregate .. => true
    | .column _ | .raw .. => false

/-- Whether another select list can change the number of rows. -/
def Select.itemsMatter (s : Select) : Bool :=
  s.distinct || !s.groupBy.isEmpty || s.having.isSome || !s.members.isEmpty || s.aggregates

theorem Select.membersMarked_eq_any : ∀ members : List (SetOperator × Select),
    Select.membersMarked members = members.any fun member => member.1.isUnion || member.2.marked
  | [] => rfl
  | (operator, body) :: rest => by
    rw [Select.membersMarked, Select.membersMarked_eq_any rest]
    rfl

theorem Select.marked_eq (s : Select) :
    s.marked = (s.distinct || Source.marked s.source || !s.groupBy.isEmpty || s.having.isSome ||
      (s.members.any fun member => member.1.isUnion || member.2.marked) || !s.orderBy.isEmpty) := by
  cases s
  rw [Select.marked, Select.membersMarked_eq_any]

theorem SetOperator.eq_of_isUnion_eq_false {operator : SetOperator}
    (h : operator.isUnion = false) : operator = .intersect ∨ operator = .except := by
  cases operator with
  | unionAll => cases h
  | union => cases h
  | intersect => exact .inl rfl
  | except => exact .inr rfl

/-- A statement without a marker whose select list matters intersects, subtracts or aggregates. -/
theorem Select.of_itemsMatter_of_unmarked {s : Select} (hitems : s.itemsMatter = true)
    (hmarked : s.marked = false) :
    (s.members ≠ [] ∧ ∀ member ∈ s.members, member.1 = .intersect ∨ member.1 = .except) ∨
      (s.members = [] ∧ s.aggregates = true) := by
  rw [Select.marked_eq] at hmarked
  simp only [Bool.or_eq_false_iff] at hmarked
  obtain ⟨⟨⟨⟨⟨hdistinct, -⟩, hgroup⟩, hhaving⟩, hmembers⟩, -⟩ := hmarked
  rw [Select.itemsMatter, hdistinct, hgroup, hhaving] at hitems
  by_cases hnil : s.members = []
  · rw [hnil] at hitems
    exact .inr ⟨hnil, hitems⟩
  · refine .inl ⟨hnil, fun member hmember => ?_⟩
    have hneither := List.any_eq_false.1 hmembers member hmember
    rw [Bool.not_eq_true, Bool.or_eq_false_iff] at hneither
    exact SetOperator.eq_of_isUnion_eq_false hneither.1

/-- **A count keeps the select list of a statement exactly when a clause leaves a marker.** The
select list matters to other statements too: to those with INTERSECT or EXCEPT members only, and to
those that aggregate without grouping. They lose it. -/
theorem BaseQuery.countStatement_eq (q : BaseQuery) (backend : Backend) :
    (q.statement.marked = true →
      q.countStatement backend = q.statement.countOf.statement backend) ∧
    (q.statement.marked = false → Plain q.statement.texts →
      q.countStatement backend = q.statement.withConstantItem.countOf.statement backend) ∧
    (q.statement.itemsMatter = true → q.statement.marked = true ∨
      (q.statement.members ≠ [] ∧
        ∀ member ∈ q.statement.members, member.1 = .intersect ∨ member.1 = .except) ∨
      (q.statement.members = [] ∧ q.statement.aggregates = true)) := by
  refine ⟨fun hmarked => ?_, fun hmarked hplain => ?_, fun hitems => ?_⟩
  · have hcomplex := Select.isComplexQuery_of_marked backend hmarked
    rw [countStatement, Select.counted, if_pos hcomplex]
  · have hsimple : isComplexQuery (q.statement.statement backend).sql = false :=
      (Select.isComplexQuery_eq_marked hplain).trans hmarked
    rw [countStatement, Select.counted, hsimple]
    rfl
  · cases hmarked : q.statement.marked with
    | true => exact .inl rfl
    | false => exact .inr (Select.of_itemsMatter_of_unmarked hitems hmarked)

/-- `SELECT COUNT(id) FROM users` -/
def countOfIds : Select :=
  { Select.empty with
    items := [.aggregate .count (.bare "id") none]
    source := .table ⟨none, "users"⟩ none }

/-- `SELECT name FROM users INTERSECT SELECT name FROM admins` -/
def commonNames : Select :=
  let namesOf (table : String) : Select :=
    { Select.empty with
      items := [.column (.bare "name")]
      source := .table ⟨none, table⟩ none }
  { namesOf "users" with members := [(.intersect, namesOf "admins")] }

/-- An aggregate and an intersection lose their select list. -/
theorem countStatement_of_countOfIds_of_commonNames :
    (countOfIds.itemsMatter = true ∧
      (BaseQuery.ofStatement countOfIds).countStatement .sqlite ≠
        countOfIds.countOf.statement .sqlite ∧
      ((BaseQuery.ofStatement countOfIds).countStatement .sqlite).sql =
        "SELECT COUNT(*) AS \"aggregate\" FROM (SELECT '1' AS \"row_count\" FROM \"users\") " ++
          "AS \"count_row_table\"") ∧
    (commonNames.itemsMatter = true ∧
      (BaseQuery.ofStatement commonNames).countStatement .sqlite ≠
        commonNames.countOf.statement .sqlite ∧
      ((BaseQuery.ofStatement commonNames).countStatement .sqlite).sql =
        "SELECT COUNT(*) AS \"aggregate\" FROM (SELECT '1' AS \"row_count\" FROM \"users\" " ++
          "INTERSECT SELECT \"name\" FROM \"admins\") AS \"count_row_table\"") := by
  decide +kernel

end ServerGrid
