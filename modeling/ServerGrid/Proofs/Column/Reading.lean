import ServerGrid.Column.Resolver
import ServerGrid.Proofs.Column.Calls
import ServerGrid.Proofs.Sql.Path

/-!
# Spellings of one column

Different names can stand for one column. The `reading` of a name is what is left when the spelling
is taken away: the text of a call without the blanks around it, or the names along a path, which
start with those of the base table or of a relation's table. Main statement: `columnSql_eq_iff`, two
names become the same SQL exactly when they have the same reading.
-/

namespace ServerGrid

/-- What a column name says, apart from its spelling. -/
inductive Reading where
  | call (sql : String)
  | path (names : List String)
  deriving DecidableEq, Repr

def ColumnExpr.reading : ColumnExpr → Reading
  | .identifier (some table) column => .path (Dialect.pathNames table ++ [column])
  | .identifier none column => .path (Dialect.pathNames column)
  | .raw sql => .call sql

def Resolver.reading (r : Resolver) (name : String) : Reading := (r.resolve name).reading

/-! ## The SQL of a reading -/

/-- A quoted name does not start like a call. -/
theorem Dialect.not_isFunctionChar_quote (d : Dialect) :
    isFunctionChar d.templates.quote = false := by
  cases d <;> decide

/-- The SQL of a reading. -/
def Reading.chars (d : Dialect) : Reading → List Char
  | .call sql => sql.toList
  | .path names => Path.chars d.templates.quote names

theorem ColumnExpr.toList_sql (d : Dialect) (e : ColumnExpr) :
    (e.sql d).toList = e.reading.chars d := by
  match e with
  | .identifier (some table) column =>
    rw [reading, Reading.chars, Path.chars_concat _ _ (Dialect.pathNames_ne_nil table), sql]
    simp only [String.toList_append, Dialect.toList_quotePath, Dialect.quoteIdentifier_eq,
      String.toList_ofList]
    simp
  | .identifier none column => exact d.toList_quotePath column
  | .raw sql => rfl

theorem Resolver.toList_columnSql (r : Resolver) (name : String) :
    (r.columnSql name).toList = (r.reading name).chars r.dialect :=
  (r.resolve name).toList_sql r.dialect

/-- A reading is a call that starts like a function's name, or a path with a name on it. -/
theorem Resolver.reading_cases (r : Resolver) (name : String) :
    (∃ sql c, r.reading name = .call sql ∧ sql.toList.head? = some c ∧ isFunctionChar c = true) ∨
      ∃ names, r.reading name = .path names ∧ names ≠ [] := by
  unfold reading resolve
  split
  · next hcall =>
    obtain ⟨c, hhead, hc⟩ := head?_trim_of_isFunctionCall hcall
    exact .inl ⟨_, c, rfl, hhead, hc⟩
  · refine .inr ?_
    have hpath : ∀ (table : Option String) (column : String),
        ∃ names, (ColumnExpr.identifier table column).reading = .path names ∧ names ≠ [] := by
      intro table column
      cases table with
      | none => exact ⟨_, rfl, Dialect.pathNames_ne_nil column⟩
      | some table => exact ⟨_, rfl, List.concat_ne_nil column _⟩
    split
    · split
      · exact hpath _ _
      · exact hpath _ _
    · exact hpath _ _

/-- **Names become the same SQL exactly when they have the same reading.** -/
theorem Resolver.columnSql_eq_iff (r : Resolver) (a b : String) :
    r.columnSql a = r.columnSql b ↔ r.reading a = r.reading b := by
  rw [← String.toList_inj, toList_columnSql, toList_columnSql]
  constructor
  · intro h
    -- a path starts with a quote character or `*`, which no function's name has
    have hmixed : ∀ {sql : String} {c : Char} {names : List String}, sql.toList.head? = some c →
        isFunctionChar c = true → names ≠ [] →
          sql.toList ≠ Path.chars r.dialect.templates.quote names := by
      intro sql c names hhead hc hnames hsame
      rw [hsame] at hhead
      rcases Path.head?_chars hnames with hstar | hquote
      · cases hstar.symm.trans hhead
        exact absurd hc (by decide)
      · cases hquote.symm.trans hhead
        exact absurd hc (by rw [Dialect.not_isFunctionChar_quote]; decide)
    rcases r.reading_cases a with ⟨sql, c, ha, hhead, hc⟩ | ⟨names, ha, hnames⟩ <;>
      rcases r.reading_cases b with ⟨sql', c', hb, hhead', hc'⟩ | ⟨names', hb, hnames'⟩ <;>
      rw [ha, hb] at h ⊢
    · exact congrArg Reading.call (String.toList_inj.1 h)
    · exact absurd h (hmixed hhead hc hnames')
    · exact absurd h.symm (hmixed hhead' hc' hnames)
    · exact congrArg Reading.path ((Path.chars_inj r.dialect.quote_ne_star r.dialect.quote_ne_dot
        hnames hnames').1 h)
  · intro h
    rw [h]

/-! ## Plain words -/

theorem isBlank_eq_false_of_isWordChar {c : Char} (h : Scope.isWordChar c = true) :
    Text.isBlank c = false :=
  isBlank_eq_false_of_isFunctionChar (Bool.or_eq_true_iff.2 (.inl h))

theorem isWordChar_of_isWord {word : List Char} (h : Scope.isWord word = true) :
    ∀ c ∈ word, Scope.isWordChar c = true := by
  cases word with
  | nil => exact absurd h (by decide)
  | cons c rest =>
    simp only [Scope.isWord, Bool.and_eq_true] at h
    exact List.all_eq_true.1 h.2

/-- The names that a bare column gets in front: those of the base table. -/
def Scope.tableNames (s : Scope) : List String := (s.table.map Dialect.pathNames).getD []

theorem Resolver.reading_of_isWord (r : Resolver) {word : String}
    (h : Scope.isWord word.toList = true) :
    r.reading word = .path (r.scope.tableNames ++ [word]) := by
  have hchars := isWordChar_of_isWord h
  have hcall : isFunctionCall word = false :=
    isFunctionCall_of_not_mem fun hmem => absurd (hchars _ hmem) (by decide)
  have hdot : '.' ∉ word.toList := fun hmem => absurd (hchars _ hmem) (by decide)
  have hcut : Text.cutLast '.' word = none := by
    rw [Text.cutLast, Text.cutLastList_of_not_mem hdot]
    rfl
  have hnames : Dialect.pathNames word = [word] := by
    have htrim := Text.trimList_of_forall fun c hc => isBlank_eq_false_of_isWordChar (hchars c hc)
    rw [Dialect.pathNames, Text.segments, Text.segmentsList_of_not_mem hdot]
    simp [Text.trim, htrim]
  rw [reading, resolve, hcall, hcut, Scope.tableNames]
  cases r.scope.table with
  | none => exact congrArg Reading.path hnames
  | some table => rfl

/-- Among plain words the spelling is the reading. -/
theorem Resolver.reading_eq_iff_of_isWord (r : Resolver) {a b : String}
    (ha : Scope.isWord a.toList = true) (hb : Scope.isWord b.toList = true) :
    r.reading a = r.reading b ↔ a = b := by
  rw [r.reading_of_isWord ha, r.reading_of_isWord hb]
  constructor
  · intro h
    have hlast := List.append_cancel_left (Reading.path.inj h)
    exact (List.cons.inj hlast).1
  · rintro rfl
    rfl

/-! ## Qualified spellings -/

/-- A plain column of the base table can also be written with the table in front. -/
theorem Resolver.reading_qualified (r : Resolver) {table column : String}
    (htable : r.scope.table = some table) (hsimple : Scope.isSimpleIdentifier table = true)
    (hrelation : r.scope.eagerTable? table = none) (hcolumn : Scope.isWord column.toList = true) :
    r.reading (table ++ "." ++ column) = r.reading column := by
  have hchars := isWordChar_of_isWord hcolumn
  have hdot : '.' ∉ column.toList := fun hmem => absurd (hchars _ hmem) (by decide)
  have hlist : (table ++ "." ++ column).toList = table.toList ++ '.' :: column.toList := by
    simp
  have hcall : isFunctionCall (table ++ "." ++ column) = false := by
    refine isFunctionCall_of_not_mem fun hmem => ?_
    rw [hlist, List.mem_append, List.mem_cons] at hmem
    simp only [Scope.isSimpleIdentifier, Bool.and_eq_true, List.all_eq_true] at hsimple
    rcases hmem with hmem | hmem | hmem
    · obtain heq | ⟨segment, hsegment, hc⟩ :
          '(' = '.' ∨ ∃ segment ∈ Text.segmentsList '.' table.toList, '(' ∈ segment :=
        Text.mem_segmentsList hmem
      · exact absurd heq (by decide)
      · exact absurd (isWordChar_of_isWord (hsimple.2 segment hsegment) _ hc) (by decide)
    · exact absurd hmem (by decide)
    · exact absurd (hchars _ hmem) (by decide)
  have hcut : Text.cutLast '.' (table ++ "." ++ column) = some (table, column) := by
    rw [Text.cutLast, hlist, Text.cutLastList_append hdot]
    simp
  have hnames : Dialect.pathNames (table ++ "." ++ column) =
      Dialect.pathNames table ++ [column] := by
    have htrim := Text.trimList_of_forall fun c hc => isBlank_eq_false_of_isWordChar (hchars c hc)
    rw [Dialect.pathNames, Text.segments, hlist, Text.segmentsList_append,
      Text.segmentsList_of_not_mem hdot]
    simp [Dialect.pathNames, Text.segments, Text.trim, htrim]
  rw [r.reading_of_isWord hcolumn, Scope.tableNames, htable, reading, resolve, hcall, hcut]
  simp only [hrelation, Bool.false_eq_true, ite_false, ite_self]
  exact congrArg Reading.path hnames

end ServerGrid
