import ServerGrid.Proofs.Search.Like
import ServerGrid.Proofs.Text.Folding
import ServerGrid.Proofs.Text.Replacing

/-!
# What the search modes find

A predicate finds a keyword in the text of a column when its pattern accepts the text. Main
statements: wildcard mode finds exactly the texts that the characters of the keyword run through in
order, whatever they are (`acceptsText_iff_sublist`); without it a search from the start, a smart
search and an exact one find prefixes, infixes and the keyword itself (`acceptsText_iff_finds`). A
search from the start in wildcard mode is literal for plain keywords only
(`literal_from_start_iff_plain`), for its pattern is not escaped but read as if it were.
-/

namespace ServerGrid

namespace Like

/-! ## Patterns of wildcard mode -/

/-- A character that only matches itself, under the escape character `\`. -/
def literal (c : Char) : List Char :=
  if c = '\\' ∨ c = '%' ∨ c = '_' then ['\\', c] else [c]

/-- Every character literally, with a wildcard before, between and after them. -/
def scattered (keyword : List Char) : List Char :=
  '%' :: keyword.flatMap fun c => literal c ++ ['%']

/-- The three replacements escape each character by itself. -/
theorem toList_escaped (keyword : String) :
    (escaped keyword).toList = keyword.toList.flatMap literal := by
  have hbackslash : "\\".toList = ['\\'] := rfl
  have hpercent : "%".toList = ['%'] := rfl
  have hunderscore : "_".toList = ['_'] := rfl
  rw [escaped, Text.toList_replaceAll_singleton hunderscore,
    Text.toList_replaceAll_singleton hpercent, Text.toList_replaceAll_singleton hbackslash,
    List.flatMap_assoc, List.flatMap_assoc]
  congr 1
  funext c
  by_cases hc : c = '\\' ∨ c = '%' ∨ c = '_'
  · rcases hc with rfl | rfl | rfl <;> rfl
  · rw [literal, if_neg hc]
    rw [not_or, not_or] at hc
    simp [hc]

/-- An escaped character gets one wildcard, after it. -/
theorem spaced_literal_append (c : Char) (rest : List Char) :
    spaced (literal c ++ rest) = literal c ++ '%' :: spaced rest := by
  by_cases hc : c = '\\' ∨ c = '%' ∨ c = '_'
  · rw [literal, if_pos hc]
    simp [spaced]
  · rw [literal, if_neg hc]
    rw [not_or] at hc
    cases rest <;> simp [spaced, hc.1]

theorem spaced_flatMap_literal (keyword : List Char) :
    spaced (keyword.flatMap literal) = keyword.flatMap fun c => literal c ++ ['%'] := by
  induction keyword with
  | nil => rfl
  | cons c keyword ih =>
    rw [List.flatMap_cons, spaced_literal_append, ih, List.flatMap_cons, List.append_assoc]
    rfl

theorem toList_interleaved_escaped (keyword : String) :
    (interleaved (escaped keyword)).toList = scattered keyword.toList := by
  rw [interleaved, String.toList_ofList, toList_escaped, spaced_flatMap_literal, scattered]

theorem items?_literal_append (c : Char) (rest : List Char) :
    items? true (literal c ++ rest) = (items? true rest).map (.char c :: ·) := by
  by_cases hc : c = '\\' ∨ c = '%' ∨ c = '_'
  · rw [literal, if_pos hc]
    exact items?_escape
  · rw [literal, if_neg hc]
    rw [not_or, not_or] at hc
    rw [List.singleton_append, items?_cons hc.1, Item.ofChar, if_neg hc.2.1, if_neg hc.2.2]

theorem items?_scattered (keyword : List Char) : items? true (scattered keyword) =
    some (.many :: keyword.flatMap fun c => [.char c, .many]) := by
  have hrest : items? true (keyword.flatMap fun c => literal c ++ ['%']) =
      some (keyword.flatMap fun c => [.char c, .many]) := by
    induction keyword with
    | nil => rfl
    | cons c keyword ih =>
      rw [List.flatMap_cons, List.append_assoc, items?_literal_append, List.singleton_append,
        items?_wildcard, ih]
      rfl
  rw [scattered, items?_wildcard, hrest]
  rfl

/-- A wildcard around each character accepts the texts that they run through in order. -/
theorem accepts_scattered_iff (keyword text : List Char) :
    Accepts (.many :: keyword.flatMap fun c => [.char c, .many]) text ↔ keyword.Sublist text := by
  induction keyword generalizing text with
  | nil => simp
  | cons c keyword ih =>
    rw [List.flatMap_cons, accepts_many_iff]
    constructor
    · rintro ⟨rest, hrest, h⟩
      obtain ⟨after, rfl, hafter⟩ := accepts_char_iff.1 h
      exact ((List.cons_sublist_cons.2 ((ih after).1 hafter))).trans hrest.sublist
    · intro h
      obtain ⟨before, after, rfl, hc, hafter⟩ := List.cons_sublist_iff.1 h
      obtain ⟨before, between, rfl⟩ := List.append_of_mem hc
      refine ⟨c :: (between ++ after), ⟨before, by simp⟩, ?_⟩
      exact .char ((ih _).2 (hafter.trans (List.sublist_append_right between after)))

/-! ## Patterns without an escape -/

theorem accepts_many_nil (text : List Char) : Accepts [.many] text :=
  accepts_many_iff.2 ⟨[], List.nil_suffix, .nil⟩

/-- Read without an escape, a text accepts itself, wildcards in it or not. -/
theorem Accepts.append_self {items : List Item} {rest : List Char} (h : Accepts items rest)
    (sought : List Char) : Accepts (sought.map .ofChar ++ items) (sought ++ rest) := by
  induction sought with
  | nil => exact h
  | cons c sought ih =>
    rw [List.map_cons, List.cons_append, List.cons_append, Item.ofChar]
    split
    · exact .more (.none ih)
    · split
      · exact .one ih
      · exact .char ih

section Plain

variable {sought : List Char} (h : Plain sought) (text : List Char)
include h

theorem Plain.accepts_iff_eq : Accepts (sought.map .ofChar) text ↔ sought = text := by
  have hself : Accepts (sought.map .char ++ []) text ↔ _ := accepts_chars_append_iff sought
  rw [List.append_nil] at hself
  rw [h.map_ofChar, hself]
  simp [eq_comm]

theorem Plain.accepts_iff_prefix :
    Accepts (sought.map .ofChar ++ [.many]) text ↔ sought <+: text := by
  rw [h.map_ofChar, accepts_chars_append_iff]
  constructor
  · rintro ⟨rest, rfl, -⟩
    exact List.prefix_append sought rest
  · rintro ⟨rest, rfl⟩
    exact ⟨rest, rfl, accepts_many_nil rest⟩

theorem Plain.accepts_iff_infix :
    Accepts (.many :: (sought.map .ofChar ++ [.many])) text ↔ sought <:+: text := by
  rw [accepts_many_iff, List.infix_iff_prefix_suffix]
  simp only [h.accepts_iff_prefix, and_comm]

end Plain

/-! ## Patterns that are read as if they were escaped -/

/-- A keyword with a wildcard after it is well formed however it is read, for the wildcard stands
last, and it accepts a text that is no longer than the keyword. -/
theorem exists_accepted : ∀ sought : List Char, ∃ items text,
    items? true (sought ++ ['%']) = some items ∧ Accepts items text ∧ text.length ≤ sought.length
  | [] => ⟨[.many], [], rfl, accepts_many_nil [], Nat.le_refl 0⟩
  | [c] => by
    by_cases hc : c = '\\'
    · rw [hc]
      exact ⟨[.char '%'], ['%'], rfl, .char .nil, Nat.le_refl 1⟩
    · refine ⟨[.ofChar c, .many], [c], ?_, ?_, Nat.le_refl 1⟩
      · rw [List.singleton_append, items?_cons hc]
        rfl
      · exact (accepts_many_nil []).append_self [c]
  | c :: d :: rest => by
    by_cases hc : c = '\\'
    · obtain ⟨items, text, hitems, haccepts, hlength⟩ := exists_accepted rest
      refine ⟨.char d :: items, d :: text, ?_, .char haccepts, ?_⟩
      · rw [hc, List.cons_append, List.cons_append, items?_escape, hitems]
        rfl
      · simp only [List.length_cons]
        omega
    · obtain ⟨items, text, hitems, haccepts, hlength⟩ := exists_accepted (d :: rest)
      refine ⟨.ofChar c :: items, c :: text, ?_, haccepts.append_self [c], ?_⟩
      · rw [List.cons_append, items?_cons hc, hitems]
        rfl
      · simp only [List.length_cons] at hlength ⊢
        omega

/-- A keyword that is not plain does not find only what begins with it. -/
theorem exists_stray : ∀ {sought : List Char}, ¬Plain sought → ∃ items text,
    items? true (sought ++ ['%']) = some items ∧ Accepts items text ∧ ¬sought <+: text
  | [], h => absurd ⟨List.not_mem_nil, List.not_mem_nil, List.not_mem_nil⟩ h
  | c :: rest, h => by
    have hread {items : List Item} (hescape : c ≠ '\\')
        (hitems : items? true (rest ++ ['%']) = some items) :
        items? true (c :: rest ++ ['%']) = some (.ofChar c :: items) := by
      rw [List.cons_append, items?_cons hescape, hitems]
      rfl
    by_cases hplain : c ≠ '\\' ∧ c ≠ '%' ∧ c ≠ '_'
    · have hrest : ¬Plain rest := by
        simpa [Plain, Ne.symm hplain.1, Ne.symm hplain.2.1, Ne.symm hplain.2.2] using h
      obtain ⟨items, text, hitems, haccepts, hstray⟩ := exists_stray hrest
      refine ⟨.ofChar c :: items, c :: text, hread hplain.1 hitems, haccepts.append_self [c], ?_⟩
      exact fun hprefix => hstray (List.cons_prefix_cons.1 hprefix).2
    · obtain ⟨items, text, hitems, haccepts, -⟩ := exists_accepted rest
      obtain rfl | rfl | rfl : c = '%' ∨ c = '_' ∨ c = '\\' := by grind
      · exact ⟨.many :: items, 'a' :: text, hread (by decide) hitems, .more (.none haccepts),
          by simp⟩
      · exact ⟨.one :: items, 'a' :: text, hread (by decide) hitems, .one haccepts, by simp⟩
      · cases rest with
        | nil => exact ⟨[.char '%'], ['%'], rfl, .char .nil, by decide⟩
        | cons d rest =>
          -- the escape itself takes no character, so that some text is too short
          obtain ⟨items, text, hitems, haccepts, hlength⟩ := exists_accepted rest
          refine ⟨.char d :: items, d :: text, ?_, .char haccepts, fun hprefix => ?_⟩
          · rw [List.cons_append, List.cons_append, items?_escape, hitems]
            rfl
          · have hle := hprefix.length_le
            simp only [List.length_cons] at hle
            omega

end Like

/-! ## Patterns of the modes -/

namespace Config

variable {config : Config} (keyword : String)

theorem toList_pattern_start (hstart : config.startsWithSearch = true) :
    (config.pattern keyword).toList = (config.folded keyword).toList ++ ['%'] := by
  rw [pattern, if_pos hstart, String.toList_append]
  rfl

theorem toList_pattern_wildcards (hwild : config.useWildcards = true)
    (hstart : config.startsWithSearch = false) :
    (config.pattern keyword).toList = Like.scattered (config.folded keyword).toList := by
  rw [pattern, hstart, if_neg Bool.false_ne_true, if_pos hwild, Like.toList_interleaved_escaped]

/-- What a pattern without wildcard mode asks for, when nothing is escaped in it. -/
def plainItems (config : Config) (sought : List Char) : List Like.Item :=
  if config.startsWithSearch then sought.map .ofChar ++ [.many]
  else if config.smart then .many :: (sought.map .ofChar ++ [.many])
  else sought.map .ofChar

theorem items?_pattern (escape : Bool) (hwild : config.useWildcards = false)
    (h : '\\' ∉ (config.folded keyword).toList) :
    Like.items? escape (config.pattern keyword).toList =
      some (config.plainItems (config.folded keyword).toList) := by
  cases hstart : config.startsWithSearch with
  | true =>
    rw [toList_pattern_start keyword hstart, Like.items?_concat_wildcard h, plainItems,
      if_pos hstart]
  | false =>
    rw [pattern, plainItems, hwild, hstart]
    simp only [Bool.false_eq_true, ite_false]
    split
    · have hpattern : ("%" ++ config.folded keyword ++ "%").toList =
          '%' :: ((config.folded keyword).toList ++ ['%']) := by
        rw [String.toList_append, String.toList_append]
        rfl
      rw [hpattern, Like.items?_wildcard, Like.items?_concat_wildcard h]
      rfl
    · exact Like.items?_of_not_mem h

/-- A keyword without a backslash has none in lower case. -/
theorem not_mem_folded {keyword : String} (h : '\\' ∉ keyword.toList) :
    '\\' ∉ (config.folded keyword).toList := by
  rw [folded]
  split
  · exact fun hmem => h (Text.mem_of_mem_lowercase (by decide) (by decide) hmem)
  · exact h

/-! ## What is found -/

/-- How a keyword is found in a text without wildcard mode: at its start, whatever smart mode says,
anywhere in it in smart mode, and otherwise as the whole of it. -/
def Finds (config : Config) (sought text : List Char) : Prop :=
  if config.startsWithSearch then sought <+: text
  else if config.smart then sought <:+: text
  else sought = text

instance (config : Config) (sought text : List Char) : Decidable (config.Finds sought text) :=
  inferInstanceAs (Decidable (if config.startsWithSearch then sought <+: text
    else if config.smart then sought <:+: text else sought = text))

theorem accepts_plainItems_iff {sought : List Char} (h : Like.Plain sought) (text : List Char) :
    Like.Accepts (config.plainItems sought) text ↔ config.Finds sought text := by
  unfold plainItems Finds
  split
  · exact h.accepts_iff_prefix text
  · split
    · exact h.accepts_iff_infix text
    · exact h.accepts_iff_eq text

/-- What is found is accepted, also for a keyword that holds wildcards. -/
theorem accepts_plainItems_of_finds {sought text : List Char} (h : config.Finds sought text) :
    Like.Accepts (config.plainItems sought) text := by
  unfold plainItems
  unfold Finds at h
  split at h
  · next hstart =>
    obtain ⟨rest, rfl⟩ := h
    rw [if_pos hstart]
    exact (Like.accepts_many_nil rest).append_self sought
  · next hstart =>
    rw [if_neg hstart]
    split at h
    · next hsmart =>
      obtain ⟨before, after, rfl⟩ := h
      rw [if_pos hsmart, Like.accepts_many_iff]
      refine ⟨sought ++ after, ⟨before, by rw [List.append_assoc]⟩, ?_⟩
      exact (Like.accepts_many_nil after).append_self sought
    · next hsmart =>
      rw [if_neg hsmart, ← h]
      have hself := Like.Accepts.nil.append_self sought
      rwa [List.append_nil, List.append_nil] at hself

/-- The predicate that compares a column with the pattern of a keyword. -/
def keywordPredicate (config : Config) (column : String) (dialect : Dialect) (keyword : String) :
    Predicate :=
  likePredicate column (config.pattern keyword) dialect config

section Modes

variable (column : String) (dialect : Dialect) (backslash : Bool)

theorem likeItems?_keywordPredicate :
    (config.keywordPredicate column dialect keyword).likeItems? backslash =
      Like.items? (config.useWildcards || backslash) (config.pattern keyword).toList := rfl

/-- **Wildcard mode finds subsequences, literally.** The pattern of a keyword is well formed, and it
accepts exactly the texts that the characters of the keyword run through in order. -/
theorem acceptsText_iff_sublist (hwild : config.useWildcards = true)
    (hstart : config.startsWithSearch = false) :
    (∃ items, (config.keywordPredicate column dialect keyword).likeItems? backslash =
      some items) ∧
    ∀ text : String, (config.keywordPredicate column dialect keyword).AcceptsText backslash text ↔
      (config.folded keyword).toList.Sublist text.toList := by
  have hitems : (config.keywordPredicate column dialect keyword).likeItems? backslash =
      some (.many :: (config.folded keyword).toList.flatMap fun c => [.char c, .many]) := by
    rw [likeItems?_keywordPredicate, hwild, toList_pattern_wildcards keyword hwild hstart]
    exact Like.items?_scattered _
  refine ⟨⟨_, hitems⟩, fun text => ?_⟩
  rw [Predicate.acceptsText_iff hitems]
  exact Like.accepts_scattered_iff _ text.toList

/-- Wildcard mode. -/
def scattering : Config := { default with useWildcards := true }

/-- A capital, a wildcard, an underscore and a backslash at the end, with other text between them,
and in another order. -/
theorem acceptsText_scattered :
    scattering.useWildcards = true ∧ scattering.startsWithSearch = false ∧
      (∃ items, (scattering.keywordPredicate "name" .sqlite "A%_\\").likeItems? false =
        some items) ∧
      (scattering.keywordPredicate "name" .sqlite "A%_\\").AcceptsText false "xa 5% of y_1\\" ∧
      ¬(scattering.keywordPredicate "name" .sqlite "A%_\\").AcceptsText false "a\\%_" := by
  obtain ⟨hitems, haccepts⟩ := acceptsText_iff_sublist "A%_\\" "name" .sqlite false
    (rfl : scattering.useWildcards = true) rfl
  refine ⟨rfl, rfl, hitems, (haccepts _).2 ?_, fun h => ?_⟩
  · decide
  · exact absurd ((haccepts _).1 h) (by decide)

/-- **The plain modes find prefixes, infixes and the keyword itself.** A keyword of which LIKE reads
every character as itself is found exactly so; one with wildcards in it is still found so. -/
theorem acceptsText_iff_finds (hwild : config.useWildcards = false) :
    (Like.Plain (config.folded keyword).toList → ∀ text : String,
      (config.keywordPredicate column dialect keyword).AcceptsText backslash text ↔
        config.Finds (config.folded keyword).toList text.toList) ∧
    ('\\' ∉ keyword.toList → ∀ text : String,
      config.Finds (config.folded keyword).toList text.toList →
        (config.keywordPredicate column dialect keyword).AcceptsText backslash text) := by
  have hitems (h : '\\' ∉ (config.folded keyword).toList) :
      (config.keywordPredicate column dialect keyword).likeItems? backslash =
        some (config.plainItems (config.folded keyword).toList) :=
    items?_pattern keyword (config.useWildcards || backslash) hwild h
  constructor
  · intro hplain text
    rw [Predicate.acceptsText_iff (hitems hplain.1)]
    exact accepts_plainItems_iff hplain text.toList
  · intro h text hfinds
    rw [Predicate.acceptsText_iff (hitems (not_mem_folded h))]
    exact accepts_plainItems_of_finds hfinds

/-- A name that is found anywhere in a text, and a percentage that is still found. -/
theorem acceptsText_anywhere :
    default.useWildcards = false ∧ Like.Plain (default.folded "Ann").toList ∧
      (default.keywordPredicate "name" .postgres "Ann").AcceptsText true "joanna" ∧
      '\\' ∉ "50%".toList ∧
      default.Finds (default.folded "50%").toList "save 50% now".toList ∧
      (default.keywordPredicate "name" .postgres "50%").AcceptsText true "save 50% now" := by
  have hwild : default.useWildcards = false := rfl
  have hplain : Like.Plain (default.folded "Ann").toList := by decide
  have hbackslash : '\\' ∉ "50%".toList := by decide
  have hfinds : default.Finds (default.folded "50%").toList "save 50% now".toList := by decide
  have hname := (acceptsText_iff_finds "Ann" "name" .postgres true hwild).1 hplain
  have hshare := (acceptsText_iff_finds "50%" "name" .postgres true hwild).2 hbackslash
  exact ⟨hwild, hplain, (hname _).2 (by decide), hbackslash, hfinds, hshare _ hfinds⟩

/-- **Both modes together are literal for plain keywords only.** A search from the start in wildcard
mode has a well-formed pattern, and it finds exactly the texts that begin with the keyword if and
only if LIKE reads every character of the keyword as itself. -/
theorem literal_from_start_iff_plain (hwild : config.useWildcards = true)
    (hstart : config.startsWithSearch = true) :
    (∃ items, (config.keywordPredicate column dialect keyword).likeItems? backslash =
      some items) ∧
    ((∀ text : String, (config.keywordPredicate column dialect keyword).AcceptsText backslash text ↔
      (config.folded keyword).toList <+: text.toList) ↔
        Like.Plain (config.folded keyword).toList) := by
  have hread : (config.keywordPredicate column dialect keyword).likeItems? backslash =
      Like.items? true ((config.folded keyword).toList ++ ['%']) := by
    rw [likeItems?_keywordPredicate, hwild, toList_pattern_start keyword hstart]
    rfl
  constructor
  · obtain ⟨items, -, hitems, -⟩ := Like.exists_accepted (config.folded keyword).toList
    exact ⟨items, hread.trans hitems⟩
  constructor
  · intro hliteral
    by_contra hplain
    obtain ⟨items, text, hitems, haccepts, hstray⟩ := Like.exists_stray hplain
    rw [← hread] at hitems
    have hfound := (hliteral (.ofList text)).1
      ((Predicate.acceptsText_iff hitems _).2 (by rwa [String.toList_ofList]))
    rw [String.toList_ofList] at hfound
    exact hstray hfound
  · intro hplain text
    rw [Predicate.acceptsText_iff (hread.trans (Like.items?_concat_wildcard hplain.1))]
    exact hplain.accepts_iff_prefix text.toList

/-- Wildcard mode for searches from the start. -/
def scatteringFromStart : Config := { scattering with startsWithSearch := true }

/-- A percent sign finds more than what begins with it, and a backslash at the end does not find
what begins with it. -/
theorem not_literal_from_start :
    ((scatteringFromStart.keywordPredicate "name" .sqlite "5%").AcceptsText false "50 apples" ∧
      ¬(scatteringFromStart.folded "5%").toList <+: "50 apples".toList) ∧
    (¬(scatteringFromStart.keywordPredicate "name" .sqlite "a\\").AcceptsText false "a\\b" ∧
      (scatteringFromStart.folded "a\\").toList <+: "a\\b".toList) := by
  decide

/-- A plain keyword finds what begins with it and nothing else; this is not so with a percent sign
in it. -/
theorem literal_from_start_ann :
    scatteringFromStart.useWildcards = true ∧ scatteringFromStart.startsWithSearch = true ∧
      (scatteringFromStart.keywordPredicate "name" .sqlite "Ann").AcceptsText false "anna" ∧
      ¬(scatteringFromStart.keywordPredicate "name" .sqlite "Ann").AcceptsText false "joanna" ∧
      ¬∀ text : String,
        (scatteringFromStart.keywordPredicate "name" .sqlite "5%").AcceptsText false text ↔
          (scatteringFromStart.folded "5%").toList <+: text.toList := by
  have hwild : scatteringFromStart.useWildcards = true := rfl
  have hann :=
    (literal_from_start_iff_plain "Ann" "name" .sqlite false hwild rfl).2.2 (by decide)
  have hshare := (literal_from_start_iff_plain "5%" "name" .sqlite false hwild rfl).2.1
  refine ⟨hwild, rfl, (hann _).2 (by decide), fun h => ?_, fun h => ?_⟩
  · exact absurd ((hann _).1 h) (by decide)
  · exact absurd (hshare h) (by decide)

end Modes

end Config

end ServerGrid
