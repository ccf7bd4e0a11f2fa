import ServerGrid.Proofs.Column.NullsLast

/-!
# What is written for a column

The default search compares the operand of a column, `Resolver.columnSql`, in words of the dialect
(`SearchText`), and the default ordering sorts by it, with the direction behind it or both in the
template for the nulls (`SortText`). The slots of the template are filled one after the other, so
that a column with a slot takes the direction into one of its names; it is a path of quoted names
all the same (`nullsLast_columnSql`). Main statement: `confined_of_written`, a column name only
reaches SQL as quoted names, or as a call that the application allowed by name.
-/

namespace ServerGrid

/-! ## A text inside a name of a path -/

namespace Path

variable {quote : Char}

theorem chars_cons {names : List String} (name : String) (h : names ≠ []) :
    chars quote (name :: names) = itemChars quote name ++ '.' :: chars quote names := by
  cases names with
  | nil => exact absurd rfl h
  | cons next rest => rfl

/-- What follows the first name of a path does not depend on it. -/
theorem exists_chars_cons (names : List String) : ∃ right : List Char, ∀ name,
    chars quote (name :: names) = itemChars quote name ++ right := by
  cases names with
  | nil => exact ⟨[], fun name => (List.append_nil _).symm⟩
  | cons next rest => exact ⟨'.' :: chars quote (next :: rest), fun name => rfl⟩

theorem body_of_not_mem {text : List Char} (h : quote ∉ text) :
    Identifier.body quote text = text := by
  have hkept : ∀ c ∈ text, (if c = quote then [quote, quote] else [c]) = [c] := by
    rintro c hc
    refine if_neg ?_
    rintro rfl
    exact h hc
  rw [Identifier.body, List.flatMap_congr hkept, List.flatMap_singleton']

/-- A text of two characters or more is no part of a star. -/
theorem append_ne_star {new : String} (h : 2 ≤ new.length) (a b : String) :
    a ++ new ++ b ≠ "*" := by
  intro heq
  have hlength := congrArg String.length heq
  have hstar : "*".length = 1 := rfl
  simp only [String.length_append, hstar] at hlength
  omega

/-- A text inside a name is written as it stands, if it has no quote. -/
theorem itemChars_insert {new : String} (hquote : quote ∉ new.toList) (hlength : 2 ≤ new.length)
    (a b : String) : itemChars quote (a ++ new ++ b) =
      quote :: Identifier.body quote a.toList ++ new.toList ++
        (Identifier.body quote b.toList ++ [quote]) := by
  rw [itemChars, if_neg (append_ne_star hlength a b), Identifier.encode, String.toList_append,
    String.toList_append, Identifier.body, List.flatMap_append, List.flatMap_append,
    ← Identifier.body, ← Identifier.body, ← Identifier.body, body_of_not_mem hquote]
  simp

section Slot

variable (hp : quote ≠ '%') (hs : quote ≠ 's')
include hp hs

/-- A path is cut around a text inside one of its names. What stands before it has no slot when the
names before it and the start of its own have none. -/
theorem exists_chars_insert {a : String} (ha : Text.contains "%s" a = false) (b : String)
    (post : List String) : ∀ {pre : List String}, (∀ n ∈ pre, Text.contains "%s" n = false) →
      ∃ left right : String,
        (∀ new : String, quote ∉ new.toList → 2 ≤ new.length →
          chars quote (pre ++ (a ++ new ++ b) :: post) = (left ++ new ++ right).toList) ∧
        Text.contains "%s" left = false ∧ left.toList.head? ≠ some 's'
  | [], _ => by
    obtain ⟨right, hright⟩ := @exists_chars_cons quote post
    refine ⟨.ofList (quote :: Identifier.body quote a.toList),
      .ofList (Identifier.body quote b.toList ++ [quote] ++ right), fun new hquote hlength => ?_,
      ?_, ?_⟩
    · rw [List.nil_append, hright, itemChars_insert hquote hlength]
      simp
    · rw [contains_slot_ofList, Text.occursIn, Bool.or_eq_false_iff, occursIn_body hp hs]
      refine ⟨?_, ha⟩
      rw [← Bool.not_eq_true, Text.isPrefixOf_pair_iff]
      exact fun h => hp (Option.some.inj h.1)
    · rw [String.toList_ofList]
      exact fun h => hs (Option.some.inj h)
  | name :: pre, hpre => by
    rw [List.forall_mem_cons] at hpre
    obtain ⟨left, right, hchars, hleft, -⟩ := exists_chars_insert ha b post hpre.2
    refine ⟨.ofList (itemChars quote name ++ '.' :: left.toList), right,
      fun new hquote hlength => ?_, ?_, ?_⟩
    · have hne : pre ++ (a ++ new ++ b) :: post ≠ [] := by simp
      rw [List.cons_append, chars_cons name hne, hchars new hquote hlength]
      simp
    · rw [contains_slot_ofList, Text.occursIn_pair_append_eq_false, occursIn_itemChars hp hs,
        Text.occursIn, Bool.or_eq_false_iff, ← Bool.not_eq_true ([_, _].isPrefixOf _),
        Text.isPrefixOf_pair_iff]
      refine ⟨hpre.1, ?_, ?_, hleft⟩
      · rintro ⟨-, hdot⟩
        cases hdot
      · rintro ⟨hdot, -⟩
        cases hdot
    · rw [String.toList_ofList, itemChars]
      split
      · intro h
        cases h
      · exact fun h => hs (Option.some.inj h)

end Slot

end Path

/-- The first name with a slot, cut at its first slot. -/
theorem exists_first_slot_mem : ∀ {names : List String},
    (∃ n ∈ names, Text.contains "%s" n = true) → ∃ pre a b post,
      names = pre ++ (a ++ "%s" ++ b) :: post ∧ (∀ n ∈ pre, Text.contains "%s" n = false) ∧
        Text.contains "%s" a = false
  | [], h => by
    obtain ⟨n, hn, -⟩ := h
    exact absurd hn List.not_mem_nil
  | name :: rest, h => by
    cases hslot : Text.contains "%s" name with
    | true =>
      obtain ⟨a, b, rfl, ha⟩ := exists_first_slot hslot
      exact ⟨[], a, b, rest, rfl, fun _ hn => absurd hn List.not_mem_nil, ha⟩
    | false =>
      have hrest : ∃ n ∈ rest, Text.contains "%s" n = true := by
        obtain ⟨n, hn, hcontains⟩ := h
        rcases List.mem_cons.1 hn with rfl | hn
        · rw [hslot] at hcontains
          cases hcontains
        · exact ⟨n, hn, hcontains⟩
      obtain ⟨pre, a, b, post, rfl, hpre, ha⟩ := exists_first_slot_mem hrest
      exact ⟨name :: pre, a, b, post, rfl, List.forall_mem_cons.2 ⟨hslot, hpre⟩, ha⟩

/-! ## The template for the nulls -/

/-- The template that is filled, the default one in place of one that has not two slots. -/
def Dialect.slotted (template : String) : String :=
  if Text.count "%s" template = 2 then template else defaultNullsLast

theorem exists_twoSlots_slotted (template : String) :
    ∃ before between after, TwoSlots (Dialect.slotted template) before between after := by
  rw [← count_slot_eq_two_iff, Dialect.slotted]
  split
  · next htwo => exact htwo
  · decide

theorem nullsLast_slotted (column direction template : String) :
    Dialect.nullsLast column direction (Dialect.slotted template) =
      Dialect.nullsLast column direction template := by
  obtain ⟨before, between, after, h⟩ := exists_twoSlots_slotted template
  rw [Dialect.nullsLast, if_pos (count_slot_eq_two_iff.2 ⟨before, between, after, h⟩)]
  rfl

/-- What is written of the names of a column and into the second slot. Names without a slot leave
that one to the direction; else the first slot among them takes it, and the second slot stays. -/
inductive Placed (direction : String) : List String → List String → String → Prop
  | behind {names : List String} (hfree : ∀ n ∈ names, Text.contains "%s" n = false) :
      Placed direction names names direction
  | inside {pre post : List String} {a b : String}
      (hpre : ∀ n ∈ pre, Text.contains "%s" n = false) (ha : Text.contains "%s" a = false) :
      Placed direction (pre ++ (a ++ "%s" ++ b) :: post) (pre ++ (a ++ direction ++ b) :: post) "%s"

theorem SortDirection.two_le_length_sql (direction : SortDirection) : 2 ≤ direction.sql.length := by
  cases direction <;> decide

theorem SortDirection.quote_not_mem_sql (direction : SortDirection) (d : Dialect) :
    d.templates.quote ∉ direction.sql.toList := by
  cases direction <;> cases d <;> decide

namespace Resolver

variable (r : Resolver) {name template before between after : String}

/-- A column that is no call stays a path of quoted names between the parts of the template. -/
theorem nullsLast_columnSql (hcall : isFunctionCall name = false) {names : List String}
    (hnames : r.scope.Names name names)
    (h : TwoSlots (Dialect.slotted template) before between after) (direction : SortDirection) :
    ∃ written second, Placed direction.sql names written second ∧ written ≠ [] ∧
      Dialect.nullsLast (r.columnSql name) direction.sql template =
        before ++ .ofList (Path.chars r.dialect.templates.quote written) ++ between ++ second ++
          after := by
  have hp : r.dialect.templates.quote ≠ '%' := r.dialect.quote_ne rfl
  have hs : r.dialect.templates.quote ≠ 's' := r.dialect.quote_ne rfl
  have hcolumn : r.columnSql name = .ofList (Path.chars r.dialect.templates.quote names) := by
    rw [← String.toList_inj, r.toList_columnSql_of_names hcall hnames, String.toList_ofList]
  by_cases hslot : ∃ n ∈ names, Text.contains "%s" n = true
  · obtain ⟨pre, a, b, post, rfl, hpre, ha⟩ := exists_first_slot_mem hslot
    obtain ⟨left, right, hchars, hleft, hhead⟩ :=
      Path.exists_chars_insert hp hs ha b post hpre
    -- the column as it is, and with the direction in its slot
    have hopen := hchars "%s" (by cases r.dialect <;> decide) (by decide)
    have hfilled := hchars direction.sql (direction.quote_not_mem_sql r.dialect)
      direction.two_le_length_sql
    refine ⟨_, _, .inside hpre ha, by simp, ?_⟩
    have hfree : Text.contains "%s" (before ++ left) = false :=
      (contains_slot_append_eq_false h.before_free).2 ⟨hleft, fun hacross => hhead hacross.2⟩
    have hfirst : Text.replaceFirst "%s" (r.columnSql name) (Dialect.slotted template) =
        before ++ left ++ "%s" ++ (right ++ between ++ "%s" ++ after) := by
      rw [h.eq, String.append_assoc, String.append_assoc, replaceFirst_slot _ h.before_free,
        hcolumn, hopen, String.ofList_toList]
      simp only [String.append_assoc]
    rw [Dialect.nullsLast, ← Dialect.slotted, hfirst, replaceFirst_slot direction.sql hfree,
      hfilled, String.ofList_toList]
    simp only [String.append_assoc]
  · have hfree : ∀ n ∈ names, Text.contains "%s" n = false := by
      simpa using hslot
    refine ⟨names, direction.sql, .behind hfree, hnames.ne_nil, ?_⟩
    have hnone : Text.contains "%s" (r.columnSql name) = false := by
      rwa [← Bool.not_eq_true, r.contains_slot_columnSql hcall hnames]
    rw [← hcolumn, ← nullsLast_slotted]
    exact (nullsLast_eq_iff (r.getLast?_columnSql name) direction.head?_sql h).2
      ⟨hnone, fun hacross => r.head?_columnSql_ne hcall hnames hacross.2⟩

end Resolver

/-! ## Predicates -/

/-- The operand of a column as it is, cast in the words of the dialect, or in lower case. -/
inductive OperandText (d : Dialect) (column : String) : String → Prop
  | plain : OperandText d column column
  | cast {before after : String} (h : d.templates.castToText = some (before, after)) :
      OperandText d column (before ++ column ++ after)
  | lowered {text : String} (h : OperandText d column text) :
      OperandText d column ("LOWER(" ++ text ++ ")")

/-- A predicate of the default search: the operand is compared with a bound value, and the other
words are those that the dialect has for a match against a regular expression. -/
inductive SearchText (d : Dialect) (column : String) : Predicate → Prop
  | like {text : String} (htext : OperandText d column text) (pattern : String) (escaped : Bool) :
      SearchText d column (.like (.verbatim text) pattern escaped)
  | operator {text symbol : String} (htext : OperandText d column text)
      (hform : .operator symbol ∈ [d.templates.regex, d.templates.regexIgnoringCase])
      (keyword : String) :
      SearchText d column (.regex symbol (.verbatim text) (.value (.ofString keyword)))
  | function {text name : String} {flags : Option String} (htext : OperandText d column text)
      (hform : .function name flags ∈ [d.templates.regex, d.templates.regexIgnoringCase])
      (keyword : String) :
      SearchText d column (.call name ([.verbatim text, .value (.ofString keyword)] ++
        (flags.map fun f => Operand.verbatim ("'" ++ f ++ "'")).toList))

theorem operandText_castToText (d : Dialect) (column : String) :
    OperandText d column (d.castToText column) := by
  unfold Dialect.castToText
  split
  · next before after hcast => exact .cast hcast
  · exact .plain

theorem searchText_likePredicate (d : Dialect) (column pattern : String) (config : Config) :
    SearchText d column (likePredicate column pattern d config) := by
  refine .like ?_ pattern config.useWildcards
  split
  · exact .lowered (operandText_castToText d column)
  · exact operandText_castToText d column

theorem searchText_predicate {d : Dialect} {column : String} {m : Dialect.RegexMatch}
    (hcolumn : OperandText d column m.column)
    (hform : m.form ∈ [d.templates.regex, d.templates.regexIgnoringCase]) (keyword : String) :
    SearchText d column (m.predicate keyword) := by
  obtain ⟨text, form, lowersKeyword⟩ := m
  cases form with
  | operator symbol => exact .operator hcolumn hform _
  | function name flags => exact .function hcolumn hform _

theorem searchText_regexPredicate (d : Dialect) (column keyword : String) (ignoreCase : Bool) :
    SearchText d column (regexPredicate column keyword d ignoreCase) := by
  cases ignoreCase with
  | false =>
    have hform : (d.regexMatch column false).form ∈
        [d.templates.regex, d.templates.regexIgnoringCase] := List.mem_cons_self
    exact searchText_predicate .plain hform keyword
  | true =>
    have hform : (d.regexMatch column true).form ∈
        [d.templates.regex, d.templates.regexIgnoringCase] :=
      List.mem_cons_of_mem _ List.mem_cons_self
    have hcolumn : OperandText d column (d.regexMatch column true).column := by
      change OperandText d column (if d.templates.regexLowersColumn then _ else _)
      split
      · exact .lowered .plain
      · exact .plain
    exact searchText_predicate hcolumn hform keyword

/-! ## Sort keys -/

/-- The text of a default sort key: the operand with the direction behind it or, with the nulls
last, both put into the template. There the operand stands as it is unless it brings a slot or
completes one, and that of a column which is no call is a path of quoted names in any case. -/
structure SortText (r : Resolver) (config : Config) (name : String) (direction : SortDirection)
    (sql : String) : Prop where
  plain : config.nullsLast = false → sql = r.columnSql name ++ " " ++ direction.sql
  nullsLast : config.nullsLast = true →
    sql = Dialect.nullsLast (r.columnSql name) direction.sql config.nullsLastSql
  intact : config.nullsLast = true → ∀ before between after,
    TwoSlots (Dialect.slotted config.nullsLastSql) before between after →
      Text.contains "%s" (r.columnSql name) = false →
      ¬(before.toList.getLast? = some '%' ∧ (r.columnSql name).toList.head? = some 's') →
        sql = before ++ r.columnSql name ++ between ++ direction.sql ++ after
  path : config.nullsLast = true → isFunctionCall name = false → ∀ names before between after,
    r.scope.Names name names → TwoSlots (Dialect.slotted config.nullsLastSql) before between after →
      ∃ written second, Placed direction.sql names written second ∧
        Path.lex r.dialect.templates.quote (Path.chars r.dialect.templates.quote written) =
          some written ∧
        sql = before ++ .ofList (Path.chars r.dialect.templates.quote written) ++ between ++
          second ++ after

theorem sortText_defaultSql (ctx : OrderContext) (name : String) (direction : SortDirection) :
    SortText ctx.resolver ctx.config name direction (ctx.defaultSql name direction) where
  plain hplain := OrderContext.defaultSql_of_plain hplain name direction
  nullsLast hlast := OrderContext.defaultSql_of_nullsLast hlast name direction
  intact hlast before between after hslots hfree hacross := by
    rw [OrderContext.defaultSql_of_nullsLast hlast, ← nullsLast_slotted]
    exact (nullsLast_eq_iff (ctx.resolver.getLast?_columnSql name) direction.head?_sql hslots).2
      ⟨hfree, hacross⟩
  path hlast hcall names before between after hnames hslots := by
    obtain ⟨written, second, hplaced, hne, hsql⟩ :=
      ctx.resolver.nullsLast_columnSql hcall hnames hslots direction
    have hlex := Path.lex_chars ctx.resolver.dialect.quote_ne_star
      ctx.resolver.dialect.quote_ne_dot hne
    rw [OrderContext.defaultSql_of_nullsLast hlast]
    exact ⟨written, second, hplaced, hlex, hsql⟩

/-- **A column name only reaches SQL as quoted names, or as a call that was allowed by name.** This
holds of every predicate of the default search, whose SQL is the operand in words of the dialect,
and of every key of the default ordering. Such a key is the operand with the direction, or the
template for the nulls filled with both: in a template the path of a column can take the direction
into one of its names. -/
theorem confined_of_written (filters : Keyed FilterCallback) (orders : Keyed CustomOrder)
    (declarations : List Declaration) (resolver : Resolver) (request : Request) (config : Config)
    (name : String) :
    let registry := { Registry.empty with filters, orders }.declareAll declarations
    let search : SearchContext := ⟨request, registry, resolver, config⟩
    let ordering : OrderContext := ⟨request, registry, resolver, config⟩
    let column := resolver.columnSql name
    (∀ (c : ColumnRequest) (clause : Clause), c.label? = some name →
      registry.filter? name = none →
      (search.columnClause? c = some clause ∨ ∃ term, search.termClause? term c = some clause) →
        (∃ (bound : String) (regex : Bool),
          let predicate := if regex then
              regexPredicate column bound resolver.dialect config.caseInsensitive
            else likePredicate column bound resolver.dialect config
          clause = .leaf predicate ∧ SearchText resolver.dialect column predicate) ∧
          Confined declarations resolver name) ∧
    (∀ (d : OrderDirective) (clause : OrderClause),
      request.columnName? d.column.toNat = some name → registry.order? name = none →
      ordering.clause d = .ok (some clause) →
        clause.values = [] ∧ SortText resolver config name d.direction clause.sql ∧
          Confined declarations resolver name) ∧
    (∀ table, Scope.isSimpleIdentifier table = true →
      Dialect.pathNames table = Text.segments '.' table) := by
  intro registry search ordering column
  have hconfined : registry.isHidden name = false → Confined declarations resolver name :=
    confined_of_not_isHidden rfl resolver
  refine ⟨fun c clause hlabel hfilter h => ?_, fun d clause hname horder h => ?_,
    fun _ => Dialect.pathNames_of_isSimpleIdentifier⟩
  · have hwritten : ∃ keyword bound regex,
        search.clause? name keyword bound regex = some clause := by
      obtain hcolumn | ⟨term, hterm⟩ := h
      · unfold SearchContext.columnClause? at hcolumn
        split at hcolumn
        · rw [hlabel] at hcolumn
          exact ⟨_, _, _, hcolumn⟩
        · cases hcolumn
      · unfold SearchContext.termClause? at hterm
        rw [hlabel] at hterm
        exact ⟨_, _, _, hterm⟩
    obtain ⟨keyword, bound, regex, hclause⟩ := hwritten
    obtain ⟨hhidden, rfl⟩ := SearchContext.clause?_of_default hfilter hclause
    refine ⟨⟨bound, regex, rfl, ?_⟩, hconfined hhidden⟩
    split
    · exact searchText_regexPredicate resolver.dialect column bound config.caseInsensitive
    · exact searchText_likePredicate resolver.dialect column bound config
  · obtain ⟨hhidden, rfl⟩ := OrderContext.clause_of_default horder hname h
    exact ⟨rfl, sortText_defaultSql ordering name d.direction, hconfined hhidden⟩

/-- A registry that allows a name with a quote in it, one with a slot, and a call. -/
def allowsOddNames : List Declaration :=
  [.hide ["password"], .allowOnly ["we\"ird", "a%s", "LOWER(bio)"]]

/-- A name with a quote in it is searched, a call that is allowed by name is sorted by, and a name
with a slot takes the direction when the nulls come last. -/
theorem confined_oddNames :
    let registry := { Registry.empty with filters := [], orders := [] }.declareAll allowsOddNames
    let nullsLast := { Config.default with nullsLast := true }
    let keyOf (name : String) (config : Config) :=
      (⟨.ofName name, registry, usersResolver, config⟩ : OrderContext).clause ⟨0, .desc⟩
    ((⟨.ofName "we\"ird", registry, usersResolver, .default⟩ : SearchContext).columnClause?
        (.ofName "we\"ird") =
          some (.leaf (.like (.verbatim "LOWER(\"users\".\"we\"\"ird\")") "%x%" false)) ∧
      Confined allowsOddNames usersResolver "we\"ird") ∧
    (keyOf "LOWER(bio)" .default = .ok (some ⟨"LOWER(bio) desc", []⟩) ∧
      SortText usersResolver .default "LOWER(bio)" .desc "LOWER(bio) desc" ∧
      Confined allowsOddNames usersResolver "LOWER(bio)") ∧
    (keyOf "a%s" nullsLast = .ok (some ⟨"\"users\".\"adesc\" %s NULLS LAST", []⟩) ∧
      SortText usersResolver nullsLast "a%s" .desc "\"users\".\"adesc\" %s NULLS LAST" ∧
      Confined allowsOddNames usersResolver "a%s") := by
  intro registry nullsLast keyOf
  have hsearched := (confined_of_written [] [] allowsOddNames usersResolver (.ofName "we\"ird")
    .default "we\"ird").1
  have hsorted := (confined_of_written [] [] allowsOddNames usersResolver (.ofName "LOWER(bio)")
    .default "LOWER(bio)").2.1
  have hslotted := (confined_of_written [] [] allowsOddNames usersResolver (.ofName "a%s")
    nullsLast "a%s").2.1
  have hsearch : (⟨.ofName "we\"ird", registry, usersResolver, .default⟩ :
      SearchContext).columnClause? (.ofName "we\"ird") =
        some (.leaf (.like (.verbatim "LOWER(\"users\".\"we\"\"ird\")") "%x%" false)) := by
    decide
  have hcall : keyOf "LOWER(bio)" .default = .ok (some ⟨"LOWER(bio) desc", []⟩) := by
    decide
  have hslot : keyOf "a%s" nullsLast =
      .ok (some ⟨"\"users\".\"adesc\" %s NULLS LAST", []⟩) := by
    decide
  exact ⟨⟨hsearch, (hsearched _ _ (by decide) rfl (.inl hsearch)).2⟩,
    ⟨hcall, (hsorted ⟨0, .desc⟩ _ (by decide) rfl hcall).2⟩,
    ⟨hslot, (hslotted ⟨0, .desc⟩ _ (by decide) rfl hslot).2⟩⟩

end ServerGrid
