import ServerGrid.Ordering
import ServerGrid.Proofs.Column.Quoting
import ServerGrid.Proofs.Sql.Placeholders
import ServerGrid.Proofs.Text.Occurrences

/-!
# Templates for the nulls

A template for the order of nulls has a slot for the column and one for the direction. The column is
written first, and its text is searched for the second slot. Main statement:
`filledByPosition_nullsLast_iff`, the direction takes the second slot of the template exactly when
the column has no slot of its own and makes none together with the template.
-/

namespace ServerGrid

/-- A template with the two slots that stand between its parts, and no other. -/
structure TwoSlots (template before between after : String) : Prop where
  eq : template = before ++ "%s" ++ between ++ "%s" ++ after
  before_free : Text.contains "%s" before = false
  between_free : Text.contains "%s" between = false
  after_free : Text.contains "%s" after = false

/-- The text that a template stands for: the column in its first slot and the direction in its
second one, or the default order when it does not have two slots. -/
def FilledByPosition (template column direction sql : String) : Prop :=
  (∀ before between after, TwoSlots template before between after →
    sql = before ++ column ++ between ++ direction ++ after) ∧
  ((¬∃ before between after, TwoSlots template before between after) →
    sql = column ++ " " ++ direction ++ " NULLS LAST")

theorem twoSlots_defaultNullsLast : TwoSlots defaultNullsLast "" " " " NULLS LAST" where
  eq := by decide
  before_free := by decide
  between_free := by decide
  after_free := by decide

/-! ## Slots in a text -/

section Slots

variable {text a b : String}

theorem contains_slot (text : String) :
    Text.contains "%s" text = Text.occursIn ['%', 's'] text.toList := rfl

theorem contains_slot_ofList (text : List Char) :
    Text.contains "%s" (.ofList text) = Text.occursIn ['%', 's'] text := by
  rw [contains_slot, String.toList_ofList]

theorem toList_slot_append (a b : String) :
    (a ++ "%s" ++ b).toList = a.toList ++ '%' :: 's' :: b.toList := by
  simp

theorem exists_first_slot (h : Text.contains "%s" text = true) :
    ∃ a b, text = a ++ "%s" ++ b ∧ Text.contains "%s" a = false := by
  rw [contains_slot] at h
  obtain ⟨a, b, htext, ha⟩ := Text.exists_first_pair h
  refine ⟨.ofList a, .ofList b, ?_, ?_⟩
  · rw [← String.toList_inj, htext]
    simp
  · rw [contains_slot_ofList, ha]

theorem replaceFirst_slot (new : String) (ha : Text.contains "%s" a = false) :
    Text.replaceFirst "%s" new (a ++ "%s" ++ b) = a ++ new ++ b := by
  rw [contains_slot] at ha
  have hlist := Text.replaceFirstList_pair (by decide) new.toList b.toList ha
  have hslot : "%s".toList = ['%', 's'] := rfl
  rw [Text.replaceFirst, hslot, toList_slot_append, hlist, ← String.toList_inj,
    String.toList_ofList]
  simp

theorem count_slot_eq_two_iff : Text.count "%s" text = 2 ↔
    ∃ before between after, TwoSlots text before between after := by
  have hpair : Text.count "%s" text = Text.countFrom ['%', 's'] 0 text.toList := rfl
  rw [hpair, Text.countFrom_pair_eq_two_iff (by decide)]
  constructor
  · rintro ⟨a, b, c, htext, ha, hb, hc⟩
    rw [← contains_slot_ofList] at ha hb hc
    refine ⟨.ofList a, .ofList b, .ofList c, ?_, ha, hb, hc⟩
    rw [← String.toList_inj, htext]
    simp
  · rintro ⟨before, between, after, h⟩
    refine ⟨_, _, _, ?_, h.before_free, h.between_free, h.after_free⟩
    rw [h.eq]
    simp

end Slots

/-! ## Filling two slots -/

section Filling

variable {template before between after column direction : String}

/-- Where the second replacement finds no slot before that of the template, both take their own. -/
theorem replaceFirst_replaceFirst (h : TwoSlots template before between after)
    (hfree : Text.contains "%s" (before ++ column ++ between) = false) :
    Text.replaceFirst "%s" direction (Text.replaceFirst "%s" column template) =
      before ++ column ++ between ++ direction ++ after := by
  have hfirst : Text.replaceFirst "%s" column template =
      before ++ column ++ between ++ "%s" ++ after := by
    rw [h.eq, String.append_assoc, String.append_assoc, replaceFirst_slot column h.before_free]
    simp only [String.append_assoc]
  rw [hfirst, replaceFirst_slot direction hfree]

/-- A slot before that of the template takes the direction, and the template keeps its own. -/
theorem replaceFirst_replaceFirst_ne (h : TwoSlots template before between after)
    (hdirection : ∃ c, direction.toList.head? = some c ∧ c ≠ '%')
    (hslot : Text.contains "%s" (before ++ column) = true) :
    Text.replaceFirst "%s" direction (Text.replaceFirst "%s" column template) ≠
      before ++ column ++ between ++ direction ++ after := by
  obtain ⟨a, b, hcut, ha⟩ := exists_first_slot hslot
  have hfirst : Text.replaceFirst "%s" column template =
      a ++ "%s" ++ (b ++ between ++ "%s" ++ after) := by
    rw [h.eq, String.append_assoc, String.append_assoc, replaceFirst_slot column h.before_free,
      hcut]
    simp only [String.append_assoc]
  rw [hfirst, replaceFirst_slot direction ha, hcut]
  intro heq
  have hchars := congrArg String.toList heq
  have hslot : "%s".toList = ['%', 's'] := rfl
  simp only [String.toList_append, List.append_assoc, List.append_cancel_left_eq, hslot] at hchars
  -- the direction would have to start like a slot
  obtain ⟨c, hc, hne⟩ := hdirection
  obtain ⟨rest, hdirection⟩ := List.head?_eq_some_iff.1 hc
  rw [hdirection, List.cons_append] at hchars
  exact hne (List.cons.inj hchars).1

/-- The column is written between two parts of a template, and only its start can meet what stands
before it. -/
theorem contains_slot_append_eq_false (hbefore : Text.contains "%s" before = false) :
    Text.contains "%s" (before ++ column) = false ↔ Text.contains "%s" column = false ∧
      ¬(before.toList.getLast? = some '%' ∧ column.toList.head? = some 's') := by
  rw [contains_slot, String.toList_append, Text.occursIn_pair_append_eq_false]
  rw [contains_slot] at hbefore ⊢
  rw [hbefore]
  tauto

variable (hcolumn : ∃ c, column.toList.getLast? = some c ∧ c ≠ '%')
  (hdirection : ∃ c, direction.toList.head? = some c ∧ c ≠ '%')
include hcolumn hdirection

theorem nullsLast_eq_iff (h : TwoSlots template before between after) :
    Dialect.nullsLast column direction template =
        before ++ column ++ between ++ direction ++ after ↔
      Text.contains "%s" column = false ∧
        ¬(before.toList.getLast? = some '%' ∧ column.toList.head? = some 's') := by
  rw [← contains_slot_append_eq_false h.before_free, Dialect.nullsLast,
    if_pos (count_slot_eq_two_iff.2 ⟨_, _, _, h⟩)]
  constructor
  · intro heq
    rw [← Bool.not_eq_true]
    intro hslot
    exact replaceFirst_replaceFirst_ne h hdirection hslot heq
  · intro hfree
    apply replaceFirst_replaceFirst h
    rw [contains_slot, String.toList_append]
    refine Text.occursIn_pair_append_eq_false.2 ⟨hfree, ?_, h.between_free⟩
    -- the end of the column is no start of a slot
    obtain ⟨c, hc, hne⟩ := hcolumn
    rintro ⟨hlast, -⟩
    rw [String.toList_append, List.getLast?_append, hc] at hlast
    exact hne (Option.some.inj hlast)

theorem nullsLast_eq_default_iff
    (h : ¬∃ before between after, TwoSlots template before between after) :
    Dialect.nullsLast column direction template = column ++ " " ++ direction ++ " NULLS LAST" ↔
      Text.contains "%s" column = false := by
  have hdefault : Dialect.nullsLast column direction template =
      Dialect.nullsLast column direction defaultNullsLast := by
    rw [Dialect.nullsLast, Dialect.nullsLast, if_neg (mt count_slot_eq_two_iff.1 h), ite_self]
  have hiff := nullsLast_eq_iff hcolumn hdirection twoSlots_defaultNullsLast
  rw [String.empty_append] at hiff
  rw [hdefault, hiff]
  simp

theorem filledByPosition_iff :
    FilledByPosition template column direction (Dialect.nullsLast column direction template) ↔
      Text.contains "%s" column = false ∧
        ∀ before between after, TwoSlots template before between after →
          ¬(before.toList.getLast? = some '%' ∧ column.toList.head? = some 's') := by
  by_cases hslots : ∃ before between after, TwoSlots template before between after
  · constructor
    · rintro ⟨hfilled, -⟩
      have hfree : ∀ before between after, TwoSlots template before between after → _ :=
        fun _ _ _ h => (nullsLast_eq_iff hcolumn hdirection h).1 (hfilled _ _ _ h)
      obtain ⟨before, between, after, h⟩ := hslots
      exact ⟨(hfree _ _ _ h).1, fun _ _ _ h => (hfree _ _ _ h).2⟩
    · rintro ⟨hfree, hbefore⟩
      exact ⟨fun _ _ _ h => (nullsLast_eq_iff hcolumn hdirection h).2 ⟨hfree, hbefore _ _ _ h⟩,
        fun hnone => absurd hslots hnone⟩
  · have hdefault := nullsLast_eq_default_iff hcolumn hdirection hslots
    constructor
    · rintro ⟨-, hfilled⟩
      exact ⟨hdefault.1 (hfilled hslots), fun _ _ _ h => absurd ⟨_, _, _, h⟩ hslots⟩
    · rintro ⟨hfree, -⟩
      exact ⟨fun _ _ _ h => absurd ⟨_, _, _, h⟩ hslots, fun _ => hdefault.2 hfree⟩

end Filling

/-! ## The slots of a column -/

section Names

variable {quote p s : Char} (hp : quote ≠ p) (hs : quote ≠ s)
include hp hs

theorem occursIn_body (name : List Char) :
    Text.occursIn [p, s] (Identifier.body quote name) = Text.occursIn [p, s] name := by
  have hhead : ∀ rest : List Char,
      (Identifier.body quote rest).head? = some s ↔ rest.head? = some s := by
    intro rest
    cases rest with
    | nil => exact Iff.rfl
    | cons c rest =>
      rw [Identifier.body, List.flatMap_cons]
      split
      · next hc => simp [hc]
      · rfl
  induction name with
  | nil => rfl
  | cons c rest ih =>
    rw [Identifier.body, List.flatMap_cons, ← Identifier.body, Text.occursIn, Bool.eq_iff_iff,
      Text.occursIn_pair_append_iff, Bool.or_eq_true, Text.isPrefixOf_pair_iff, ih, hhead]
    split
    · next hc =>
      subst hc
      simp [Text.occursIn, hp, hp.symm]
    · simp [Text.occursIn]

theorem occursIn_itemChars (name : String) :
    Text.occursIn [p, s] (Path.itemChars quote name) = Text.occursIn [p, s] name.toList := by
  unfold Path.itemChars
  split
  · next hstar =>
    rw [hstar]
    rfl
  · rw [Bool.eq_iff_iff, Identifier.encode, Text.occursIn_pair_append_iff, Text.occursIn,
      Bool.or_eq_true, Text.isPrefixOf_pair_iff, occursIn_body hp hs]
    simp [Text.occursIn, hp, hs]

theorem occursIn_chars (hdot : p ≠ '.' ∧ s ≠ '.') : ∀ names : List String,
    Text.occursIn [p, s] (Path.chars quote names) = true ↔
      ∃ name ∈ names, Text.occursIn [p, s] name.toList = true
  | [] => by
    simp [Path.chars, Text.occursIn]
  | [name] => by
    rw [Path.chars, occursIn_itemChars hp hs]
    simp
  | name :: next :: rest => by
    have hrest := occursIn_chars hdot (next :: rest)
    rw [Path.chars, Text.occursIn_pair_append_iff, occursIn_itemChars hp hs, Text.occursIn,
      Bool.or_eq_true, Text.isPrefixOf_pair_iff, hrest]
    simp [hdot.1.symm, hdot.2.symm]

end Names

/-- A path ends with a name in quotes or with a star. -/
theorem Path.getLast?_chars {quote : Char} : ∀ {names : List String}, names ≠ [] →
    (chars quote names).getLast? = some '*' ∨ (chars quote names).getLast? = some quote
  | [], h => absurd rfl h
  | [name], _ => by
    rw [chars, itemChars]
    split
    · exact .inl rfl
    · exact .inr List.getLast?_concat
  | name :: next :: rest, _ => by
    have hrest : (chars quote (next :: rest)).getLast? = some '*' ∨
        (chars quote (next :: rest)).getLast? = some quote :=
      getLast?_chars (List.cons_ne_nil next rest)
    have hne : chars quote (next :: rest) ≠ [] := by
      intro hnil
      rw [hnil] at hrest
      rcases hrest with hrest | hrest <;> cases hrest
    rwa [chars, List.getLast?_append_of_ne_nil _ (List.cons_ne_nil _ _),
      List.getLast?_cons_of_ne_nil hne]

theorem SortDirection.head?_sql (direction : SortDirection) :
    ∃ c, direction.sql.toList.head? = some c ∧ c ≠ '%' := by
  cases direction with
  | asc => exact ⟨'a', rfl, by decide⟩
  | desc => exact ⟨'d', rfl, by decide⟩

namespace Resolver

variable (r : Resolver) {name : String}

/-- A column ends with a parenthesis, a quote or a star. -/
theorem getLast?_columnSql (name : String) :
    ∃ c, (r.columnSql name).toList.getLast? = some c ∧ c ≠ '%' := by
  cases hcall : isFunctionCall name with
  | true =>
    rw [r.columnSql_of_isFunctionCall hcall]
    exact ⟨')', getLast?_trim_of_isFunctionCall hcall, by decide⟩
  | false =>
    obtain ⟨names, -, hnames⟩ := r.exists_names hcall
    rw [r.toList_columnSql_of_names hcall hnames]
    rcases Path.getLast?_chars hnames.ne_nil with hstar | hquote
    · exact ⟨'*', hstar, by decide⟩
    · exact ⟨_, hquote, r.dialect.quote_ne rfl⟩

/-- A path starts with a quote or a star, which complete no slot. -/
theorem head?_columnSql_ne (hcall : isFunctionCall name = false) {names : List String}
    (hnames : r.scope.Names name names) : (r.columnSql name).toList.head? ≠ some 's' := by
  intro hhead
  rw [r.toList_columnSql_of_names hcall hnames] at hhead
  rcases Path.head?_chars hnames.ne_nil with hstar | hquote
  · rw [hstar] at hhead
    cases hhead
  · rw [hquote] at hhead
    exact r.dialect.quote_ne rfl (Option.some.inj hhead)

theorem contains_slot_columnSql (hcall : isFunctionCall name = false) {names : List String}
    (hnames : r.scope.Names name names) : Text.contains "%s" (r.columnSql name) = true ↔
      ∃ n ∈ names, Text.contains "%s" n = true := by
  rw [contains_slot, r.toList_columnSql_of_names hcall hnames,
    occursIn_chars (r.dialect.quote_ne rfl) (r.dialect.quote_ne rfl) (by decide)]
  rfl

/-- **A template is filled by position unless the column brings a slot.** That is so exactly when
the column has no slot of its own and makes none with what stands before it in the template; for a
column that is no call, when none of its names has one. -/
theorem filledByPosition_nullsLast_iff (name template : String) (direction : SortDirection) :
    let column := r.columnSql name
    let sql := Dialect.nullsLast column direction.sql template
    (FilledByPosition template column direction.sql sql ↔
      Text.contains "%s" column = false ∧
        ∀ before between after, TwoSlots template before between after →
          ¬(before.toList.getLast? = some '%' ∧ column.toList.head? = some 's')) ∧
    (∀ names, isFunctionCall name = false → r.scope.Names name names →
      (FilledByPosition template column direction.sql sql ↔
        ∀ n ∈ names, Text.contains "%s" n = false)) := by
  intro column sql
  have hlast := r.getLast?_columnSql name
  have hdirection := direction.head?_sql
  have hiff : FilledByPosition template column direction.sql sql ↔ _ :=
    filledByPosition_iff hlast hdirection
  refine ⟨hiff, fun names hcall hnames => hiff.trans ?_⟩
  have hnone : Text.contains "%s" column = false ↔ ∀ n ∈ names, Text.contains "%s" n = false := by
    rw [← Bool.not_eq_true, r.contains_slot_columnSql hcall hnames]
    simp
  rw [← hnone]
  exact ⟨And.left, fun hfree =>
    ⟨hfree, fun _ _ _ _ hacross => r.head?_columnSql_ne hcall hnames hacross.2⟩⟩

end Resolver

/-- A column without a slot, in a template of two slots and in one of three. -/
theorem filledByPosition_nullsLast_name :
    let column := usersResolver.columnSql "name"
    isFunctionCall "name" = false ∧ usersResolver.scope.Names "name" ["users", "name"] ∧
      TwoSlots "-%s %s" "-" " " "" ∧
      Dialect.nullsLast column "desc" "-%s %s" = "-\"users\".\"name\" desc" ∧
      FilledByPosition "-%s %s" column "desc" (Dialect.nullsLast column "desc" "-%s %s") ∧
      FilledByPosition "%s %s %s" column "asc" (Dialect.nullsLast column "asc" "%s %s %s") := by
  intro column
  have hcall : isFunctionCall "name" = false := by decide
  have hnames : usersResolver.scope.Names "name" ["users", "name"] := by
    have hdot : '.' ∉ "name".toList := by decide
    have htable : usersResolver.scope.table = some "users" := rfl
    exact .ofTable hdot htable
  have hslots : TwoSlots "-%s %s" "-" " " "" := ⟨by decide, by decide, by decide, by decide⟩
  have hfree : ∀ n ∈ ["users", "name"], Text.contains "%s" n = false := by decide
  have hfilled : ∀ template (direction : SortDirection), FilledByPosition template column
      direction.sql (Dialect.nullsLast column direction.sql template) := by
    intro template direction
    exact ((usersResolver.filledByPosition_nullsLast_iff "name" template direction).2 _ hcall
      hnames).2 hfree
  exact ⟨hcall, hnames, hslots, by decide, hfilled "-%s %s" .desc, hfilled "%s %s %s" .asc⟩

/-- A column whose name has a slot takes the direction itself. -/
theorem not_filledByPosition_nullsLast :
    ¬∀ (r : Resolver) (name template : String) (direction : SortDirection),
      FilledByPosition template (r.columnSql name) direction.sql
        (Dialect.nullsLast (r.columnSql name) direction.sql template) := by
  intro h
  have hsql := (h usersResolver "a%s" defaultNullsLast .desc).1 _ _ _ twoSlots_defaultNullsLast
  have hwritten : Dialect.nullsLast (usersResolver.columnSql "a%s") "desc" defaultNullsLast =
      "\"users\".\"adesc\" %s NULLS LAST" := by
    decide
  rw [SortDirection.sql, hwritten] at hsql
  exact absurd hsql (by decide)

end ServerGrid
