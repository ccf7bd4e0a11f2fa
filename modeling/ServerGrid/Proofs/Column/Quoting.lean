import ServerGrid.Proofs.Column.Declared
import ServerGrid.Proofs.Column.Hidden
import ServerGrid.Proofs.Search.Narrowing

/-!
# Column names in SQL

A column name comes from the client, and its operand, `Resolver.columnSql`, is what the default
search and the default ordering write for it. Main statements: `lex_columnSql_iff`, the operand of a
column that is no call is a path that is read from front to end as quoted names, which are the ones
that the scope gives the column (`Scope.Names`); and `confined_of_not_isHidden`, every other operand
of a name that is not hidden is a call that the application allowed by name.
-/

namespace ServerGrid

/-! ## The names of a column -/

/-- The names that a column stands for: those of a relation's table and what is after the last dot,
or the parts of another dotted name, or those of the base table and the column. -/
inductive Scope.Names (s : Scope) (name : String) : List String → Prop
  | related {relation leaf table : String}
      (hname : name.toList = relation.toList ++ '.' :: leaf.toList) (hleaf : '.' ∉ leaf.toList)
      (haware : s.relationAware = true) (htable : s.eagerTable? relation = some table) :
      Names s name (Dialect.pathNames table ++ [leaf])
  | dotted {relation leaf : String}
      (hname : name.toList = relation.toList ++ '.' :: leaf.toList) (hleaf : '.' ∉ leaf.toList)
      (hnone : s.relationAware = true → s.eagerTable? relation = none) :
      Names s name (Dialect.pathNames name)
  | bare (hname : '.' ∉ name.toList) (htable : s.table = none) :
      Names s name (Dialect.pathNames name)
  | ofTable {table : String} (hname : '.' ∉ name.toList) (htable : s.table = some table) :
      Names s name (Dialect.pathNames table ++ [name])

theorem Scope.Names.ne_nil {s : Scope} {name : String} {names : List String}
    (h : s.Names name names) : names ≠ [] := by
  cases h with
  | related => exact List.concat_ne_nil _ _
  | dotted => exact Dialect.pathNames_ne_nil name
  | bare => exact Dialect.pathNames_ne_nil name
  | ofTable => exact List.concat_ne_nil _ _

namespace Resolver

variable (r : Resolver) {name : String}

theorem exists_names (hcall : isFunctionCall name = false) :
    ∃ names, r.reading name = .path names ∧ r.scope.Names name names := by
  unfold reading resolve
  rw [hcall]
  simp only [Bool.false_eq_true, ite_false]
  cases hcut : Text.cutLast '.' name with
  | none =>
    have hdot := Text.cutLast_eq_none_iff.1 hcut
    cases htable : r.scope.table with
    | none => exact ⟨_, rfl, .bare hdot htable⟩
    | some table => exact ⟨_, rfl, .ofTable hdot htable⟩
  | some parts =>
    obtain ⟨relation, leaf⟩ := parts
    obtain ⟨hname, hleaf⟩ := Text.cutLast_eq_some_iff.1 hcut
    cases haware : r.scope.relationAware with
    | false => exact ⟨_, rfl, .dotted hname hleaf fun h => by rw [haware] at h; cases h⟩
    | true =>
      cases htable : r.scope.eagerTable? relation with
      | none => exact ⟨_, by simp only [ite_true, htable]; rfl, .dotted hname hleaf fun _ => htable⟩
      | some table =>
        exact ⟨_, by simp only [ite_true, htable]; rfl, .related hname hleaf haware htable⟩

theorem reading_of_names (hcall : isFunctionCall name = false) {names : List String}
    (h : r.scope.Names name names) : r.reading name = .path names := by
  unfold reading resolve
  rw [hcall]
  simp only [Bool.false_eq_true, ite_false]
  cases h with
  | related hname hleaf haware htable =>
    rw [Text.cutLast_eq_some_iff.2 ⟨hname, hleaf⟩]
    simp only [haware, ite_true, htable]
    rfl
  | @dotted relation leaf hname hleaf hnone =>
    have hrelation :
        (if r.scope.relationAware then r.scope.eagerTable? relation else none) = none := by
      split
      · next haware => exact hnone haware
      · rfl
    rw [Text.cutLast_eq_some_iff.2 ⟨hname, hleaf⟩]
    simp only [hrelation]
    rfl
  | bare hname htable =>
    rw [Text.cutLast_eq_none_iff.2 hname, htable]
    rfl
  | ofTable hname htable =>
    rw [Text.cutLast_eq_none_iff.2 hname, htable]
    rfl

theorem toList_columnSql_of_names (hcall : isFunctionCall name = false) {names : List String}
    (hnames : r.scope.Names name names) :
    (r.columnSql name).toList = Path.chars r.dialect.templates.quote names := by
  rw [toList_columnSql, r.reading_of_names hcall hnames, Reading.chars]

/-- The operand is read from front to end, as the names of the column and no others. -/
theorem lex_columnSql_iff (hcall : isFunctionCall name = false) (names : List String) :
    Path.lex r.dialect.templates.quote (r.columnSql name).toList = some names ↔
      r.scope.Names name names := by
  -- what is written for a reading is read back as that reading
  have hlex : ∀ found, r.reading name = .path found → found ≠ [] →
      Path.lex r.dialect.templates.quote (r.columnSql name).toList = some found := by
    intro found hreading hne
    rw [toList_columnSql, hreading]
    exact Path.lex_chars r.dialect.quote_ne_star r.dialect.quote_ne_dot hne
  constructor
  · intro h
    obtain ⟨found, hreading, hfound⟩ := r.exists_names hcall
    rw [hlex found hreading hfound.ne_nil] at h
    cases h
    exact hfound
  · intro h
    exact hlex names (r.reading_of_names hcall h) h.ne_nil

theorem columnSql_of_isFunctionCall (hcall : isFunctionCall name = true) :
    r.columnSql name = Text.trim name := by
  rw [columnSql, resolve, hcall]
  rfl

end Resolver

/-- The parts of a plain table name are as they stand. -/
theorem Dialect.pathNames_of_isSimpleIdentifier {table : String}
    (h : Scope.isSimpleIdentifier table = true) : pathNames table = Text.segments '.' table := by
  simp only [Scope.isSimpleIdentifier, Bool.and_eq_true, List.all_eq_true] at h
  have htrim : ∀ segment ∈ Text.segmentsList '.' table.toList,
      Text.trim (String.ofList segment) = String.ofList segment := by
    intro segment hsegment
    have hchars := isWordChar_of_isWord (h.2 segment hsegment)
    rw [Text.trim, String.toList_ofList,
      Text.trimList_of_forall fun c hc => isBlank_eq_false_of_isWordChar (hchars c hc)]
  rw [pathNames, Text.segments, List.map_map]
  exact List.map_congr_left htrim

/-! ## What is written -/

/-- The default search only writes names that are not hidden, and writes their operand. -/
theorem SearchContext.clause?_of_default {ctx : SearchContext} {name : String}
    (hfilter : ctx.registry.filter? name = none) {keyword bound : String} {regex : Bool}
    {clause : Clause} (h : ctx.clause? name keyword bound regex = some clause) :
    ctx.registry.isHidden name = false ∧
      clause = .leaf (ctx.defaultPredicate name bound regex) := by
  unfold clause? behavior? at h
  rw [hfilter] at h
  cases hhidden : ctx.registry.isHidden name with
  | true =>
    simp only [hhidden, ite_true] at h
    cases h
  | false =>
    simp only [hhidden, Bool.false_eq_true, ite_false, Option.some.injEq] at h
    exact ⟨rfl, h.symm⟩

theorem OrderContext.clause_of_default {ctx : OrderContext} {d : OrderDirective} {name : String}
    (horder : ctx.registry.order? name = none)
    (hname : ctx.request.columnName? d.column.toNat = some name) {clause : OrderClause}
    (h : ctx.clause d = .ok (some clause)) :
    ctx.registry.isHidden name = false ∧ clause = ⟨ctx.defaultSql name d.direction, []⟩ := by
  cases hhidden : ctx.registry.isHidden name with
  | true =>
    rw [clause_eq_none horder hname hhidden] at h
    cases h
  | false =>
    rw [clause_eq_default horder hname hhidden] at h
    cases h
    exact ⟨rfl, rfl⟩

theorem Registry.isAllowedByName_of_isFunctionCall {registry : Registry} {name : String}
    (hhidden : registry.isHidden name = false) (hcall : isFunctionCall name = true) :
    registry.isAllowedByName name = true := by
  unfold isHidden at hhidden
  rw [hcall, Bool.or_eq_false_iff] at hhidden
  simpa using hhidden.2

/-- The operand of a name is a call that is allowed by name, or a path of quoted names that are
exactly those of the column. -/
def Confined (declarations : List Declaration) (resolver : Resolver) (name : String) : Prop :=
  (isFunctionCall name = true ∧ resolver.columnSql name = Text.trim name ∧
    ∃ columns, Declaration.latest declarations = some columns ∧ name ∈ columns) ∨
  (isFunctionCall name = false ∧
    ∃ names, Path.lex resolver.dialect.templates.quote (resolver.columnSql name).toList =
      some names ∧ ∀ other, resolver.scope.Names name other ↔ other = names)

theorem confined_of_not_isHidden {registry : Registry} (hallowed : registry.allowed = none)
    {declarations : List Declaration} (resolver : Resolver) {name : String}
    (hhidden : (registry.declareAll declarations).isHidden name = false) :
    Confined declarations resolver name := by
  cases hcall : isFunctionCall name with
  | true =>
    have hbyName := Registry.isAllowedByName_of_isFunctionCall hhidden hcall
    exact .inl ⟨hcall, resolver.columnSql_of_isFunctionCall hcall,
      Registry.mem_latest_of_isAllowedByName hallowed hbyName⟩
  | false =>
    obtain ⟨names, -, hnames⟩ := resolver.exists_names hcall
    have hlex := (resolver.lex_columnSql_iff hcall names).2 hnames
    refine .inr ⟨hcall, names, hlex, fun other => ?_⟩
    rw [← resolver.lex_columnSql_iff hcall, hlex, Option.some.injEq]
    exact eq_comm

end ServerGrid
