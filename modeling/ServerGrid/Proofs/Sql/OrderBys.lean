import ServerGrid.Proofs.Column.Quoting
import ServerGrid.Proofs.Sql.TopLevel

/-!
# The ORDER BY of a statement

Every clause of a statement, in every nesting, leaves the scanner of its text where it was, so that
only the sort keys of the statement itself are found at the top level; on SQLite, where members of
set operations stand without parentheses, theirs are found too. That holds of statements whose raw
SQL, and that of the statements in their predicates, is what the engine writes for columns
(`EngineSql`) or closes what it opens (`Enclosed`). Main statement: `orderBys_statement`, the text
of such a statement has `outerOrderBys` clauses at the top level.
-/

namespace ServerGrid

open Unquoted

/-! ## Raw SQL -/

/-- The words of a match against a regular expression. -/
def RegexForm.words : RegexForm → List String
  | .operator symbol => [symbol]
  | .function name flags => name :: (flags.map fun f => "'" ++ f ++ "'").toList

/-- Raw SQL that the engine writes for a column which is no expression: the column itself, as text
or in lower case, and the words of its match against a regular expression. -/
inductive EngineSql : String → Prop
  | column (r : Resolver) {name : String} (hcall : isFunctionCall name = false) :
      EngineSql (r.columnSql name)
  | castToText (d : Dialect) {sql : String} (h : EngineSql sql) : EngineSql (d.castToText sql)
  | lowered {sql : String} (h : EngineSql sql) : EngineSql (Dialect.lowered sql)
  | regexWord {d : Dialect} {ignoreCase : Bool} {column word : String}
      (h : word ∈ (d.regexMatch column ignoreCase).form.words) : EngineSql word

/-- A text in parentheses behind a word. -/
theorem adds_call {word inner : List Char} {n : Nat} (hword : Adds word 0) (hinner : Adds inner n) :
    Adds (word ++ ('(' :: inner ++ [')'])) 0 := hword.append hinner.parenthesised

theorem adds_castToText (d : Dialect) {sql : String} (h : Adds sql.toList 0) :
    Adds (d.castToText sql).toList 0 := by
  have hcast : Adds "CAST".toList 0 := adds_zero (by decide)
  cases d with
  | postgres =>
    have htext : Adds " AS TEXT".toList 0 := adds_zero (by decide)
    have hwhole := adds_call hcast (h.append htext)
    simpa [Dialect.castToText, Dialect.templates] using hwhole
  | firebird =>
    have hvarchar : Adds " AS VARCHAR".toList 0 := adds_zero (by decide)
    have hlength : Adds "255".toList 0 := adds_zero (by decide)
    have hwhole := adds_call hcast (h.append (adds_call hvarchar hlength))
    simpa [Dialect.castToText, Dialect.templates] using hwhole
  | _ => exact h

theorem adds_lowered {sql : String} (h : Adds sql.toList 0) :
    Adds (Dialect.lowered sql).toList 0 := by
  have hlower : Adds "LOWER".toList 0 := adds_zero (by decide)
  have hwhole := adds_call hlower h
  simpa [Dialect.lowered] using hwhole

theorem adds_regexWord {d : Dialect} {ignoreCase : Bool} {column word : String}
    (h : word ∈ (d.regexMatch column ignoreCase).form.words) : Adds word.toList 0 := by
  have hform : word ∈ d.templates.regex.words ++ d.templates.regexIgnoringCase.words := by
    cases ignoreCase with
    | false => exact List.mem_append_left _ h
    | true => exact List.mem_append_right _ h
  have hwords : ∀ word ∈ d.templates.regex.words ++ d.templates.regexIgnoringCase.words,
      isSilent word.toList = true ∨ word = "'i'" := by
    cases d <;> decide
  rcases hwords word hform with hword | rfl
  · exact adds_zero hword
  · have hquote : isQuote '\x27' = true := rfl
    exact adds_encode hquote ['i']

theorem EngineSql.adds {sql : String} (h : EngineSql sql) : Adds sql.toList 0 := by
  induction h with
  | @column r name hcall =>
    obtain ⟨names, -, hnames⟩ := r.exists_names hcall
    rw [r.toList_columnSql_of_names hcall hnames]
    exact adds_chars r.dialect.isQuote_quote names
  | castToText d _ ih => exact adds_castToText d ih
  | lowered _ ih => exact adds_lowered ih
  | regexWord hword => exact adds_regexWord hword

/-! ## Pieces -/

namespace Piece

/-- The text of pieces adds a number of ORDER BY clauses, wherever it stands. -/
def HasOrderBys (backend : Backend) (pieces : List Piece) (n : Nat) : Prop :=
  ∀ bound, Adds (sqlFrom backend bound pieces).toList n

/-- The text of pieces adds no ORDER BY clause at the top level. -/
abbrev Silent (backend : Backend) (pieces : List Piece) : Prop := HasOrderBys backend pieces 0

variable {backend : Backend} {a b : List Piece} {m n : Nat}

theorem silent_nil : Silent backend [] := fun _ => .nil

theorem hasOrderBys_text {s : String} (h : Adds s.toList n) : HasOrderBys backend [.text s] n := by
  intro bound
  rwa [sqlFrom, sqlFrom, String.append_empty]

theorem silent_name (s : String) : Silent backend [.name s] := by
  intro bound
  have hquote : isQuote backend.quote = true := by
    cases backend <;> rfl
  rw [sqlFrom, sqlFrom, String.append_empty, Identifier.quoted, String.toList_ofList]
  exact adds_encode hquote s.toList

theorem silent_raw {s : String} (h : Adds s.toList 0) : Silent backend [.raw s] := by
  intro bound
  rwa [sqlFrom, sqlFrom, String.append_empty]

theorem silent_param (v : Value) : Silent backend [.param v] := by
  intro bound
  rw [sqlFrom, sqlFrom, String.append_empty]
  exact adds_placeholder backend (bound + 1)

theorem HasOrderBys.append (ha : HasOrderBys backend a m) (hb : HasOrderBys backend b n) :
    HasOrderBys backend (a ++ b) (m + n) := by
  intro bound
  rw [sqlFrom_append, String.toList_append]
  exact (ha bound).append (hb _)

/-- A fixed text before pieces. -/
theorem HasOrderBys.cons_text {s : String} (hb : HasOrderBys backend b n)
    (h : isSilent s.toList = true) : HasOrderBys backend (.text s :: b) n := by
  have hs : Silent backend [.text s] := hasOrderBys_text (adds_zero h)
  have happend := hs.append hb
  rwa [Nat.zero_add] at happend

/-- Pieces with a fixed text between them. -/
theorem Silent.between (ha : Silent backend a) {s : String} (h : isSilent s.toList = true)
    (hb : Silent backend b) : Silent backend (a ++ .text s :: b) :=
  ha.append (hb.cons_text h)

theorem HasOrderBys.call {opening : String} {word : List Char} (ha : HasOrderBys backend a n)
    (hopening : opening.toList = word ++ ['(']) (hword : Adds word 0) :
    Silent backend (.text opening :: a ++ [.text ")"]) := by
  intro bound
  have h := adds_call hword (ha bound)
  rw [sqlFrom_append]
  simpa [sqlFrom, hopening] using h

theorem HasOrderBys.parenthesised (ha : HasOrderBys backend a n) :
    Silent backend (parenthesised a) := ha.call rfl .nil

theorem silent_separated {separator : String} (h : isSilent separator.toList = true) :
    ∀ {groups : List (List Piece)}, (∀ group ∈ groups, Silent backend group) →
      Silent backend (separated separator groups)
  | [], _ => silent_nil
  | [_], hkept => hkept _ List.mem_cons_self
  | _ :: _ :: _, hkept =>
    (hkept _ List.mem_cons_self).between h
      (silent_separated h fun group hgroup => hkept group (List.mem_cons_of_mem _ hgroup))

theorem silent_flatMap {α : Type} {f : α → List Piece} : ∀ {l : List α},
    (∀ x ∈ l, Silent backend (f x)) → Silent backend (l.flatMap f)
  | [], _ => silent_nil
  | x :: rest, h => by
    rw [List.forall_mem_cons] at h
    rw [List.flatMap_cons]
    exact h.1.append (silent_flatMap h.2)

end Piece

/-! ## What a statement holds -/

/-- What a statement holds besides the words and names of its clauses: raw SQL, and the statements
that its predicates ask for. -/
inductive Fragment where
  | sql (text : String)
  | body (subquery : Subquery)

def Operand.fragments : Operand → List Fragment
  | .verbatim sql => [.sql sql]
  | .column _ | .value _ => []

def Predicate.fragments : Predicate → List Fragment
  | .compare _ left right => left.fragments ++ right.fragments
  | .isNull o | .isNotNull o | .oneOf o _ | .between o _ _ | .like o _ _ | .truth o => o.fragments
  | .regex operator o pattern => .sql operator :: (o.fragments ++ pattern.fragments)
  | .call function arguments => .sql function :: arguments.flatMap Operand.fragments
  | .nonempty body => [.body body]
  | .subquery _ o body => o.fragments ++ [.body body]
  | .raw sql => [.sql sql]

def Formula.fragments : Formula → List Fragment
  | .leaf p => p.fragments
  | .constant _ => []
  | .binary _ left right => left.fragments ++ right.fragments
  | .not f => f.fragments

def SelectItem.fragments : SelectItem → List Fragment
  | .raw sql _ => [.sql sql]
  | .column _ | .aggregate .. => []

def Condition.fragments (c : Condition) : List Fragment := c.formula.fragments

mutual

/-- The fragments of a statement and of its derived tables and members. -/
def Select.fragments : Select → List Fragment
  | ⟨_, items, source, joins, filter, _, having, members, _, _, _⟩ =>
    items.flatMap SelectItem.fragments ++ Source.fragments source ++
      joins.flatMap (·.on.fragments) ++ filter.toList.flatMap Condition.fragments ++
      having.toList.flatMap Condition.fragments ++
      Select.membersFragments members

def Source.fragments : Source Select → List Fragment
  | .nothing | .table .. => []
  | .derived body _ => Select.fragments body

def Select.membersFragments : List (SetOperator × Select) → List Fragment
  | [] => []
  | (_, body) :: rest => Select.fragments body ++ Select.membersFragments rest

end

/-- A fragment without an ORDER BY clause outside parentheses: what the engine writes for a column,
another text that closes what it opens, or a statement with such fragments only. -/
inductive Fragment.Enclosed : Fragment → Prop
  | engine {text : String} (h : EngineSql text) : Enclosed (.sql text)
  | other {text : String} (h : Adds text.toList 0) : Enclosed (.sql text)
  | body {s : Select} (h : ∀ fragment ∈ s.fragments, fragment.Enclosed) :
      Enclosed (.body s.subquery)

/-- All fragments are enclosed. -/
def Enclosed (fragments : List Fragment) : Prop := ∀ fragment ∈ fragments, fragment.Enclosed

/-- A fragment whose text ends where it starts, with no ORDER BY clause outside parentheses. -/
def Fragment.Closed (backend : Backend) : Fragment → Prop
  | .sql text => Adds text.toList 0
  | .body subquery => ∃ n, Piece.HasOrderBys backend (subquery.pieces backend) n

/-- All fragments are closed. -/
def Closed (backend : Backend) (fragments : List Fragment) : Prop :=
  ∀ fragment ∈ fragments, fragment.Closed backend

section Closed

variable {backend : Backend}

theorem closed_append {a b : List Fragment} :
    Closed backend (a ++ b) ↔ Closed backend a ∧ Closed backend b :=
  List.forall_mem_append

theorem closed_cons {fragment : Fragment} {rest : List Fragment} :
    Closed backend (fragment :: rest) ↔ fragment.Closed backend ∧ Closed backend rest :=
  List.forall_mem_cons

theorem Closed.of_mem_flatMap {α : Type} {f : α → List Fragment} {l : List α}
    (h : Closed backend (l.flatMap f)) {x : α} (hx : x ∈ l) : Closed backend (f x) :=
  fun fragment hfragment => h fragment (List.mem_flatMap.2 ⟨x, hx, hfragment⟩)

end Closed

/-! ## The ORDER BY clauses of a statement -/

/-- What a member of a set operation adds. It stands in parentheses, except on SQLite. -/
def Backend.fromMember : Backend → Nat → Nat
  | .sqlite, n => n
  | .mysql, _ | .postgres, _ => 0

mutual

/-- How many ORDER BY clauses of a statement stand outside parentheses: its own, and on SQLite those
of the members of set operations. -/
def Select.outerOrderBys (backend : Backend) : Select → Nat
  | ⟨_, _, _, _, _, _, _, members, orderBy, _, _⟩ =>
    Select.memberOrderBys backend members + if orderBy.isEmpty then 0 else 1

def Select.memberOrderBys (backend : Backend) : List (SetOperator × Select) → Nat
  | [] => 0
  | (_, body) :: rest =>
    backend.fromMember (Select.outerOrderBys backend body) + Select.memberOrderBys backend rest

end

section Silent

open Piece (Silent HasOrderBys silent_nil silent_name silent_raw silent_param silent_separated)

variable {backend : Backend}

theorem silent_text {s : String} (h : isSilent s.toList = true) : Silent backend [.text s] :=
  Piece.silent_nil.cons_text h

theorem ColumnRef.silent_pieces (c : ColumnRef) : Silent backend c.pieces := by
  cases c with
  | all => exact silent_text (by decide)
  | allOf table => exact (silent_name table).between (by decide) silent_nil
  | bare column => exact silent_name column
  | qualified table column => exact (silent_name table).between (by decide) (silent_name column)

theorem Operand.silent_pieces {o : Operand} (h : Closed backend o.fragments) :
    Silent backend o.pieces := by
  cases o with
  | column c => exact c.silent_pieces
  | verbatim sql => exact silent_raw (closed_cons.1 h).1
  | value v => exact silent_param v

/-- Values in a list. -/
theorem silent_values (values : List Value) :
    Silent backend (Piece.separated ", " (values.map fun v => [.param v])) := by
  refine silent_separated (by decide) fun group hgroup => ?_
  obtain ⟨v, -, rfl⟩ := List.mem_map.1 hgroup
  exact silent_param v

/-- The escape character stands between quotes. -/
theorem adds_backslashLiteral (backend : Backend) :
    Adds (" ESCAPE " ++ backend.backslashLiteral).toList 0 := by
  have hquote : isQuote '\x27' = true := rfl
  have hescape : Adds " ESCAPE ".toList 0 := adds_zero (by decide)
  cases backend with
  | sqlite => exact hescape.append (adds_encode hquote ['\\'])
  | mysql => exact hescape.append (adds_encode hquote ['\\', '\\'])
  | postgres =>
    have hprefix : Adds " ESCAPE E".toList 0 := adds_zero (by decide)
    exact hprefix.append (adds_encode hquote ['\\', '\\'])

theorem Predicate.silent_pieces {p : Predicate} (h : Closed backend p.fragments) :
    Silent backend (p.pieces backend) := by
  cases p with
  | compare op left right =>
    obtain ⟨hleft, hright⟩ := closed_append.1 h
    have hsign : isSilent (" " ++ op.sign ++ " ").toList = true := by
      cases op <;> decide
    exact (Operand.silent_pieces hleft).between hsign (Operand.silent_pieces hright)
  | isNull o => exact (Operand.silent_pieces h).between (by decide) silent_nil
  | isNotNull o => exact (Operand.silent_pieces h).between (by decide) silent_nil
  | oneOf o values =>
    cases values with
    | nil => exact (silent_param _).between (by decide) (silent_param _)
    | cons first rest =>
      exact (Operand.silent_pieces h).between (by decide) (silent_values _).parenthesised
  | between o low high =>
    have hbounds : Silent backend ([.param low] ++ .text " AND " :: [.param high]) :=
      (silent_param low).between (by decide) (silent_param high)
    exact (Operand.silent_pieces h).between (by decide) hbounds
  | like o pattern escaped =>
    have hlike : Silent backend (o.pieces ++ [.text " LIKE ", .param (.ofString pattern)]) :=
      (Operand.silent_pieces h).between (by decide) (silent_param _)
    cases escaped with
    | false => exact hlike.append silent_nil
    | true => exact hlike.append (Piece.hasOrderBys_text (adds_backslashLiteral backend))
  | regex operator o pattern =>
    obtain ⟨hoperator, hrest⟩ := closed_cons.1 h
    obtain ⟨ho, hpattern⟩ := closed_append.1 hrest
    have hblank : Adds " ".toList 0 := adds_zero (by decide)
    have hword : Adds (" " ++ operator ++ " ").toList 0 := by
      rw [String.toList_append, String.toList_append]
      exact (hblank.append hoperator).append hblank
    have hmatch : Silent backend (.text (" " ++ operator ++ " ") :: pattern.pieces) :=
      (Piece.hasOrderBys_text hword).append (Operand.silent_pieces hpattern)
    exact (Operand.silent_pieces ho).append hmatch
  | call function arguments =>
    obtain ⟨hfunction, harguments⟩ := closed_cons.1 h
    have hlist : Silent backend (Piece.separated ", " (arguments.map Operand.pieces)) := by
      refine silent_separated (by decide) fun group hgroup => ?_
      obtain ⟨argument, hargument, rfl⟩ := List.mem_map.1 hgroup
      exact Operand.silent_pieces (harguments.of_mem_flatMap hargument)
    exact (Piece.hasOrderBys_text hfunction).append hlist.parenthesised
  | truth o => exact Operand.silent_pieces h
  | nonempty body =>
    obtain ⟨n, hbody⟩ := (closed_cons.1 h).1
    exact hbody.parenthesised.cons_text (by decide)
  | subquery test o body =>
    obtain ⟨ho, hbodies⟩ := closed_append.1 h
    obtain ⟨n, hbody⟩ := (closed_cons.1 hbodies).1
    have hsign : isSilent (" " ++ test.sign ++ " ").toList = true := by
      cases test with
      | isIn => decide
      | notIn => decide
      | compare op => cases op <;> decide
    exact (Operand.silent_pieces ho).between hsign hbody.parenthesised
  | raw sql => exact silent_raw (closed_cons.1 h).1

theorem Formula.silent_guarded {binds : Bool} {pieces : List Piece} (h : Silent backend pieces) :
    Silent backend (Formula.guarded binds pieces) := by
  cases binds with
  | false => exact h.parenthesised
  | true => exact h

theorem Formula.silent_pieces {f : Formula} (h : Closed backend f.fragments) :
    Silent backend (f.pieces backend) := by
  induction f with
  | leaf p => exact Predicate.silent_pieces h
  | constant b => cases b <;> exact silent_text (by decide)
  | binary j left right ihleft ihright =>
    obtain ⟨hleft, hright⟩ := closed_append.1 h
    have hword : isSilent (Formula.word j).toList = true := by
      cases j <;> decide
    exact (Formula.silent_guarded (ihleft hleft)).between hword
      (Formula.silent_guarded (ihright hright))
  | not f ih => exact (Formula.silent_guarded (ih h)).cons_text (by decide)

theorem silent_labelPieces (label : Option String) : Silent backend (labelPieces label) := by
  cases label with
  | none => exact silent_nil
  | some label => exact (silent_name label).cons_text (by decide)

/-- An aggregate is a call. -/
theorem Aggregate.exists_opening (f : Aggregate) :
    ∃ word, f.opening.toList = word ++ ['('] ∧ Adds word 0 := by
  have hopening : f.opening.toList = f.opening.toList.dropLast ++ ['('] := by
    cases f <;> rfl
  have hword : isSilent f.opening.toList.dropLast = true := by
    cases f <;> decide
  exact ⟨_, hopening, adds_zero hword⟩

theorem SelectItem.silent_pieces {item : SelectItem} (h : Closed backend item.fragments) :
    Silent backend item.pieces := by
  cases item with
  | column c => exact c.silent_pieces
  | aggregate f c label =>
    obtain ⟨word, hopening, hword⟩ := f.exists_opening
    have hcall : Silent backend (.text f.opening :: c.pieces ++ [.text ")"]) :=
      c.silent_pieces.call hopening hword
    have hitem : Silent backend
        (.text f.opening :: c.pieces ++ [.text ")"] ++ labelPieces label) :=
      hcall.append (silent_labelPieces label)
    rwa [List.append_assoc] at hitem
  | raw sql label => exact (silent_raw (closed_cons.1 h).1).append (silent_labelPieces label)

theorem TableName.silent_pieces (t : TableName) : Silent backend t.pieces := by
  obtain ⟨schema, name⟩ := t
  cases schema with
  | none => exact silent_name name
  | some schema => exact (silent_name schema).between (by decide) (silent_name name)

theorem Join.silent_pieces {j : Join} (h : Closed backend j.on.fragments) :
    Silent backend (j.pieces backend) := by
  have hcondition : Silent backend ([.name j.table] ++ .text " ON " :: j.on.pieces backend) :=
    (silent_name j.table).between (by decide) (Formula.silent_pieces h)
  exact hcondition.cons_text (by decide)

theorem silent_conditionPieces {word : String} (hword : isSilent word.toList = true)
    {c : Option Condition} (h : Closed backend (c.toList.flatMap Condition.fragments)) :
    Silent backend (conditionPieces backend word c) := by
  cases c with
  | none => exact silent_nil
  | some c => exact (Formula.silent_pieces (h.of_mem_flatMap (by simp))).cons_text hword

theorem silent_boundPieces {word : String} (h : isSilent word.toList = true) (n : Option UInt64) :
    Silent backend (boundPieces word n) := by
  cases n with
  | none => exact silent_nil
  | some n => exact (silent_param _).cons_text h

theorem silent_groupPieces (columns : List ColumnRef) :
    Silent backend (listPieces " GROUP BY " (columns.map ColumnRef.pieces)) := by
  cases columns with
  | nil => exact silent_nil
  | cons first rest =>
    have hlist : Silent backend
        (Piece.separated ", " ((first :: rest).map ColumnRef.pieces)) := by
      refine silent_separated (by decide) fun group hgroup => ?_
      obtain ⟨c, -, rfl⟩ := List.mem_map.1 hgroup
      exact c.silent_pieces
    exact hlist.cons_text (by decide)

theorem SortKey.silent_pieces (k : SortKey) : Silent backend k.pieces := by
  have hdirection : isSilent (if k.descending then " DESC" else " ASC").toList = true := by
    cases k.descending <;> decide
  exact k.column.silent_pieces.append (silent_text hdirection)

/-- The sort keys of a statement come with the words, unless there are none. -/
theorem hasOrderBys_orderPieces (keys : List SortKey) :
    HasOrderBys backend (listPieces " ORDER BY " (keys.map SortKey.pieces))
      (if keys.isEmpty then 0 else 1) := by
  cases keys with
  | nil => exact silent_nil
  | cons first rest =>
    have hwords : Adds " ORDER BY ".toList 1 := adds_of_plain (by decide) (by decide)
    have hlist : Silent backend
        (Piece.separated ", " ((first :: rest).map SortKey.pieces)) := by
      refine silent_separated (by decide) fun group hgroup => ?_
      obtain ⟨k, -, rfl⟩ := List.mem_map.1 hgroup
      exact k.silent_pieces
    exact (Piece.hasOrderBys_text hwords).append hlist

theorem hasOrderBys_memberPieces (operator : SetOperator) {body : List Piece} {n : Nat}
    (h : HasOrderBys backend body n) :
    HasOrderBys backend (memberPieces backend operator body) (backend.fromMember n) := by
  have hword : isSilent operator.word.toList = true := by
    cases operator <;> decide
  cases backend with
  | sqlite => exact h.cons_text hword
  | mysql => exact h.parenthesised.cons_text hword
  | postgres => exact h.parenthesised.cons_text hword

mutual

/-- What stands before the sort keys holds the clauses of the members only. -/
theorem Select.hasOrderBys_pieces : ∀ {s : Select}, Closed backend s.fragments →
    HasOrderBys backend (s.pieces backend) (s.outerOrderBys backend)
  | ⟨distinct, items, source, joins, filter, groupBy, having, members, orderBy, limit, offset⟩,
      h => by
    simp only [Select.fragments, closed_append] at h
    obtain ⟨⟨⟨⟨⟨hitems, hsource⟩, hjoins⟩, hfilter⟩, hhaving⟩, hmembers⟩ := h
    have hword : isSilent (if distinct then "SELECT DISTINCT " else "SELECT ").toList = true := by
      cases distinct <;> decide
    have hlist : Silent backend (Piece.separated ", " (items.map SelectItem.pieces)) := by
      refine silent_separated (by decide) fun group hgroup => ?_
      obtain ⟨item, hitem, rfl⟩ := List.mem_map.1 hgroup
      exact SelectItem.silent_pieces (hitems.of_mem_flatMap hitem)
    have hjoined : Silent backend (joins.flatMap (Join.pieces backend)) :=
      Piece.silent_flatMap fun j hj => Join.silent_pieces (hjoins.of_mem_flatMap hj)
    have hwhere : Silent backend (conditionPieces backend " WHERE " filter) :=
      silent_conditionPieces (by decide) hfilter
    have hkept : Silent backend (conditionPieces backend " HAVING " having) :=
      silent_conditionPieces (by decide) hhaving
    have hlimit : Silent backend (boundPieces " LIMIT " limit) :=
      silent_boundPieces (by decide) limit
    have hoffset : Silent backend (boundPieces " OFFSET " offset) :=
      silent_boundPieces (by decide) offset
    have hclauses := (hlist.cons_text hword).append (Source.silent_pieces hsource)
      |>.append hjoined |>.append hwhere |>.append (silent_groupPieces groupBy)
      |>.append hkept
    have hcount : ∀ m n : Nat, m + n = 0 + m + n + 0 + 0 := by
      intro m n
      omega
    rw [Select.pieces, Select.outerOrderBys, hcount]
    exact hclauses.append (Select.hasOrderBys_membersPieces hmembers)
      |>.append (hasOrderBys_orderPieces orderBy) |>.append hlimit |>.append hoffset

theorem Source.silent_pieces : ∀ {source : Source Select},
    Closed backend (Source.fragments source) →
    Silent backend (Source.pieces backend source)
  | .nothing, _ => silent_nil
  | .table name label, _ =>
    (name.silent_pieces.cons_text (by decide)).append (silent_labelPieces label)
  | .derived body label, h => by
    have hinner := (Select.hasOrderBys_pieces (s := body) h).parenthesised
    exact (hinner.cons_text (by decide)).append (silent_labelPieces (some label))

theorem Select.hasOrderBys_membersPieces : ∀ {members : List (SetOperator × Select)},
    Closed backend (Select.membersFragments members) →
      HasOrderBys backend (Select.membersPieces backend members)
        (Select.memberOrderBys backend members)
  | [], _ => silent_nil
  | (operator, body) :: rest, h => by
    obtain ⟨hbody, hrest⟩ := closed_append.1 h
    exact (hasOrderBys_memberPieces operator (Select.hasOrderBys_pieces hbody)).append
      (Select.hasOrderBys_membersPieces hrest)

end

end Silent

theorem Fragment.Enclosed.closed (backend : Backend) {fragment : Fragment}
    (h : fragment.Enclosed) : fragment.Closed backend := by
  induction h with
  | engine hengine => exact hengine.adds
  | other hother => exact hother
  | @body s _ ih =>
    rw [Fragment.Closed, s.pieces_subquery]
    exact ⟨_, Select.hasOrderBys_pieces ih⟩

theorem Enclosed.closed (backend : Backend) {fragments : List Fragment} (h : Enclosed fragments) :
    Closed backend fragments :=
  fun fragment hfragment => (h fragment hfragment).closed backend

/-- **The text of a statement has the ORDER BY clauses that stand outside parentheses.** -/
theorem Select.orderBys_statement (backend : Backend) {s : Select} (h : Enclosed s.fragments) :
    orderBys (s.statement backend).sql = s.outerOrderBys backend :=
  (Select.hasOrderBys_pieces (h.closed backend) 0).orderBysFrom_eq

/-! ## Members without an order -/

mutual

/-- No member of a set operation has an order of its own, in members of members neither. -/
def Select.MembersUnordered : Select → Prop
  | ⟨_, _, _, _, _, _, _, members, _, _, _⟩ => Select.Unordered members

def Select.Unordered : List (SetOperator × Select) → Prop
  | [] => True
  | (_, body) :: rest => body.orderBy = [] ∧ Select.MembersUnordered body ∧ Select.Unordered rest

end

mutual

theorem Select.outerOrderBys_eq (backend : Backend) : ∀ {s : Select}, s.MembersUnordered →
    s.outerOrderBys backend = if s.orderBy = [] then 0 else 1
  | ⟨distinct, items, source, joins, filter, groupBy, having, members, orderBy, limit, offset⟩,
      h => by
    rw [Select.outerOrderBys, Select.memberOrderBys_eq_zero backend h, Nat.zero_add]
    simp only [List.isEmpty_iff]

theorem Select.memberOrderBys_eq_zero (backend : Backend) :
    ∀ {members : List (SetOperator × Select)}, Select.Unordered members →
      Select.memberOrderBys backend members = 0
  | [], _ => rfl
  | (operator, body) :: rest, ⟨horder, hbody, hrest⟩ => by
    have houter : body.outerOrderBys backend = 0 :=
      (Select.outerOrderBys_eq backend hbody).trans (if_pos horder)
    rw [Select.memberOrderBys, houter, Select.memberOrderBys_eq_zero backend hrest]
    cases backend <;> rfl

end

/-- The test finds an ORDER BY clause exactly when the statement has one. -/
theorem Select.hasOrderBy_statement_iff (backend : Backend) {s : Select}
    (hraw : Enclosed s.fragments) (hmembers : s.MembersUnordered) :
    hasOrderBy (s.statement backend).sql = true ↔ s.orderBy ≠ [] := by
  rw [hasOrderBy_iff, Select.orderBys_statement backend hraw,
    Select.outerOrderBys_eq backend hmembers]
  by_cases h : s.orderBy = []
  · simp [h]
  · simp [h]

end ServerGrid
