import ServerGrid.Column.Name
import ServerGrid.Proofs.Text.Cutting
import ServerGrid.Text.Ranges

/-!
# Names that are calls

A call is a word, possibly blanks, and one list of arguments: the parenthesis that opens after the
word is closed by the last character. The names that count as calls only have to be closed at the
end and to end with a parenthesis, so that something may come between the arguments and the end.
Main statement: `isFunctionCall_iff_isCall_iff`, the names that count as calls are the calls except
for those that go on after their arguments.
-/

namespace ServerGrid

/-! ## Closed parentheses -/

/-- A text that closes every parenthesis it opens, and no other. -/
inductive Nested : List Char → Prop
  | nil : Nested []
  | char {c : Char} {rest : List Char} (hopen : c ≠ '(') (hclose : c ≠ ')') (h : Nested rest) :
      Nested (c :: rest)
  | group {inner rest : List Char} (hinner : Nested inner) (h : Nested rest) :
      Nested ('(' :: inner ++ ')' :: rest)

/-- A text that closes as many parentheses as were opened before it. -/
inductive ClosesOpen : Nat → List Char → Prop
  | nested {text : List Char} (h : Nested text) : ClosesOpen 0 text
  | close {depth : Nat} {inner rest : List Char} (hinner : Nested inner)
      (h : ClosesOpen depth rest) : ClosesOpen (depth + 1) (inner ++ ')' :: rest)

theorem balancedFrom_open (depth : Nat) (rest : List Char) :
    balancedFrom depth ('(' :: rest) = balancedFrom (depth + 1) rest := rfl

theorem balancedFrom_close (depth : Nat) (rest : List Char) :
    balancedFrom (depth + 1) (')' :: rest) = balancedFrom depth rest := rfl

theorem balancedFrom_char {c : Char} (hopen : c ≠ '(') (hclose : c ≠ ')') (depth : Nat)
    (rest : List Char) : balancedFrom depth (c :: rest) = balancedFrom depth rest := by
  cases depth <;> rw [balancedFrom, if_neg hopen, if_neg hclose]

theorem balancedFrom_append {text : List Char} (h : Nested text) (depth : Nat) (after : List Char) :
    balancedFrom depth (text ++ after) = balancedFrom depth after := by
  induction h generalizing depth after with
  | nil => rfl
  | char hopen hclose _ ih =>
    rw [List.cons_append, balancedFrom_char hopen hclose, ih]
  | @group inner rest _ _ ihinner ih =>
    have hcut : '(' :: inner ++ ')' :: rest ++ after =
        '(' :: (inner ++ ')' :: (rest ++ after)) := by
      simp
    rw [hcut, balancedFrom_open, ihinner, balancedFrom_close, ih]

theorem ClosesOpen.char {c : Char} (hopen : c ≠ '(') (hclose : c ≠ ')') {depth : Nat}
    {rest : List Char} (h : ClosesOpen depth rest) : ClosesOpen depth (c :: rest) := by
  cases h with
  | nested h => exact .nested (.char hopen hclose h)
  | close hinner h => exact .close (.char hopen hclose hinner) h

/-- What is closed first after a parenthesis makes a group with it. -/
theorem ClosesOpen.group {depth : Nat} {rest : List Char} (h : ClosesOpen (depth + 1) rest) :
    ClosesOpen depth ('(' :: rest) := by
  cases h with
  | @close _ inner rest hinner h =>
    cases h with
    | nested h => exact .nested (.group hinner h)
    | @close _ next rest hnext h =>
      have hcut : '(' :: (inner ++ ')' :: (next ++ ')' :: rest)) =
          '(' :: inner ++ ')' :: next ++ ')' :: rest := by
        simp
      rw [hcut]
      exact .close (.group hinner hnext) h

/-- **Counting open parentheses tells which texts close them.** -/
theorem balancedFrom_eq_true_iff {text : List Char} {depth : Nat} :
    balancedFrom depth text = true ↔ ClosesOpen depth text := by
  constructor
  · intro h
    induction text generalizing depth with
    | nil =>
      rw [balancedFrom, beq_iff_eq] at h
      exact h ▸ .nested .nil
    | cons c rest ih =>
      by_cases hopen : c = '('
      · subst hopen
        exact (ih h).group
      by_cases hclose : c = ')'
      · subst hclose
        cases depth with
        | zero => cases h
        | succ depth => exact .close .nil (ih h)
      · rw [balancedFrom_char hopen hclose] at h
        exact (ih h).char hopen hclose
  · intro h
    induction h with
    | nested h =>
      have hend := balancedFrom_append h 0 []
      rwa [List.append_nil] at hend
    | close hinner _ ih =>
      rw [balancedFrom_append hinner, balancedFrom_close]
      exact ih

theorem nested_iff {text : List Char} : Nested text ↔ balancedFrom 0 text = true := by
  rw [balancedFrom_eq_true_iff]
  constructor
  · exact .nested
  · rintro ⟨h⟩
    exact h

instance (text : List Char) : Decidable (Nested text) := decidable_of_iff' _ nested_iff

/-- Only one parenthesis can be the first that closes nothing. -/
theorem Nested.closing_unique {a b : List Char} (ha : Nested a) (hb : Nested b)
    {rest rest' : List Char} (h : a ++ ')' :: rest = b ++ ')' :: rest') : a = b ∧ rest = rest' := by
  induction ha generalizing b rest rest' with
  | nil =>
    cases hb with
    | nil => exact ⟨rfl, (List.cons.inj h).2⟩
    | char _ hclose _ => exact absurd (List.cons.inj h).1.symm hclose
    | group _ _ => exact absurd (List.cons.inj h).1 (by decide)
  | char hopen hclose _ ih =>
    cases hb with
    | nil => exact absurd (List.cons.inj h).1 hclose
    | char _ _ hb =>
      obtain ⟨rfl, h'⟩ := List.cons.inj h
      obtain ⟨rfl, hrest⟩ := ih hb h'
      exact ⟨rfl, hrest⟩
    | group _ _ => exact absurd (List.cons.inj h).1 hopen
  | @group inner after _ _ ihinner ih =>
    cases hb with
    | nil => exact absurd (List.cons.inj h).1 (by decide)
    | char hopen _ _ => exact absurd (List.cons.inj h).1.symm hopen
    | @group inner' after' hinner' hafter' =>
      simp only [List.cons_append, List.append_assoc] at h
      -- the first groups end at the same place, and what is left starts alike
      obtain ⟨rfl, h'⟩ := ihinner hinner' (List.cons.inj h).2
      obtain ⟨rfl, hrest⟩ := ih hafter' h'
      exact ⟨rfl, hrest⟩

/-! ## Calls -/

/-- The parts of a call: its word and blanks, what its first parentheses hold, and what comes after
them. -/
structure CallParts (text word blanks arguments after : List Char) : Prop where
  eq : text = word ++ blanks ++ '(' :: (arguments ++ ')' :: after)
  word_ne : word ≠ []
  word_chars : ∀ c ∈ word, isFunctionChar c = true
  blank : ∀ c ∈ blanks, Text.isBlank c = true
  nested : Nested arguments

/-- A word, blanks and one list of arguments, with blanks around them. -/
def IsCall (name : String) : Prop :=
  ∃ word blanks arguments, CallParts (Text.trimList name.toList) word blanks arguments []

/-- A call after whose arguments more text comes, which closes its parentheses and ends with one. -/
def CallGoesOn (name : String) : Prop :=
  ∃ word blanks arguments after, CallParts (Text.trimList name.toList) word blanks arguments after ∧
    Nested after ∧ after.getLast? = some ')'

theorem isBlank_eq_false_of_isFunctionChar {c : Char} (h : isFunctionChar c = true) :
    Text.isBlank c = false := by
  have hbounds : 0x2E ≤ c.toNat ∧ c.toNat ≤ 0x7A := by
    simp only [isFunctionChar, Char.isAlphanum, Bool.or_eq_true, beq_iff_eq] at h
    rcases h with ((halpha | hdigit) | rfl) | rfl
    · have halpha := Text.toNat_of_isAlpha halpha
      omega
    · have hdigit : 0x30 ≤ c.toNat ∧ c.toNat ≤ 0x39 := Char.isDigit_iff_toNat.1 hdigit
      omega
    · decide
    · decide
  simp only [Text.isBlank, Bool.or_eq_false_iff, Bool.and_eq_false_iff, beq_eq_false_iff_ne,
    decide_eq_false_iff_not]
  omega

namespace CallParts

variable {text word blanks arguments after : List Char}
  (h : CallParts text word blanks arguments after)
include h

theorem ne_open_of_mem {c : Char} (hc : c ∈ word ++ blanks) : decide (c ≠ '(') = true := by
  rw [decide_eq_true_eq]
  rintro rfl
  rcases List.mem_append.1 hc with hc | hc
  · exact absurd (h.word_chars _ hc) (by decide)
  · exact absurd (h.blank _ hc) (by decide)

theorem takeWhile_eq : text.takeWhile (· ≠ '(') = word ++ blanks := by
  rw [h.eq, List.takeWhile_append_of_pos fun c hc => h.ne_open_of_mem hc]
  simp

theorem dropWhile_eq : text.dropWhile (· ≠ '(') = '(' :: (arguments ++ ')' :: after) := by
  rw [h.eq, List.dropWhile_append_of_pos fun c hc => h.ne_open_of_mem hc]
  simp

theorem trimEndList_eq : Text.trimEndList (text.takeWhile (· ≠ '(')) = word := by
  rw [h.takeWhile_eq]
  exact Text.trimEndList_append_of_forall
    (fun c hc => isBlank_eq_false_of_isFunctionChar (h.word_chars c hc)) h.blank

theorem getLast?_eq_iff :
    text.getLast? = some ')' ↔ after = [] ∨ after.getLast? = some ')' := by
  have hcut : text = word ++ blanks ++ '(' :: arguments ++ [')'] ++ after := by
    rw [h.eq]
    simp
  rw [hcut, List.getLast?_append, List.getLast?_concat]
  cases hend : after.getLast? with
  | none => exact iff_of_true rfl (.inl (List.getLast?_eq_none_iff.1 hend))
  | some c =>
    have hne : after ≠ [] := by
      rintro rfl
      cases hend
    exact (or_iff_right hne).symm

/-- A text has its first parentheses in one place. -/
theorem after_unique {word' blanks' arguments' after' : List Char}
    (h' : CallParts text word' blanks' arguments' after') : after = after' := by
  have hargs := h.dropWhile_eq.symm.trans h'.dropWhile_eq
  exact (h.nested.closing_unique h'.nested (List.cons.inj hargs).2).2

end CallParts

theorem CallGoesOn.not_isCall {name : String} (h : CallGoesOn name) : ¬IsCall name := by
  obtain ⟨word, blanks, arguments, after, hparts, -, hlast⟩ := h
  rintro ⟨word', blanks', arguments', hparts'⟩
  rw [hparts.after_unique hparts'] at hlast
  cases hlast

theorem isFunctionCall_of_callParts {name : String} {word blanks arguments after : List Char}
    (h : CallParts (Text.trimList name.toList) word blanks arguments after) (hafter : Nested after)
    (hlast : after = [] ∨ after.getLast? = some ')') : isFunctionCall name = true := by
  have hend : (Text.trimList name.toList).getLast? = some ')' := h.getLast?_eq_iff.2 hlast
  have hbalanced : balancedFrom 0 ('(' :: (arguments ++ ')' :: after)) = true :=
    nested_iff.1 (.group h.nested hafter)
  unfold isFunctionCall
  simp only [h.dropWhile_eq, h.trimEndList_eq, hend, hbalanced, List.isEmpty_cons, Bool.not_false,
    Bool.true_and, Bool.and_true, beq_self_eq_true, Bool.and_eq_true, Bool.not_eq_true',
    List.isEmpty_eq_false_iff, List.all_eq_true]
  exact ⟨h.word_ne, h.word_chars⟩

theorem exists_callParts_of_isFunctionCall {name : String} (h : isFunctionCall name = true) :
    ∃ word blanks arguments after,
      CallParts (Text.trimList name.toList) word blanks arguments after ∧
        Nested after ∧ (after = [] ∨ after.getLast? = some ')') := by
  simp only [isFunctionCall, Bool.and_eq_true, Bool.not_eq_true', List.isEmpty_eq_false_iff,
    List.all_eq_true, beq_iff_eq] at h
  obtain ⟨⟨⟨⟨hopen, hword⟩, hchars⟩, hlast⟩, hbalanced⟩ := h
  generalize htext : Text.trimList name.toList = text at *
  -- the text is cut at its first parenthesis, and before it where the blanks start
  obtain ⟨blanks, hblanks, hblank⟩ := Text.exists_eq_trimEndList_append (text.takeWhile (· ≠ '('))
  obtain ⟨c, rest, hrest⟩ := List.exists_cons_of_ne_nil hopen
  have hc : c = '(' := by
    have hhead := List.head?_dropWhile_not (fun c => decide (c ≠ '(')) text
    rw [hrest] at hhead
    simpa using hhead
  subst hc
  rw [hrest, balancedFrom_open, balancedFrom_eq_true_iff] at hbalanced
  cases hbalanced with
  | @close _ arguments after harguments hafter =>
    cases hafter with
    | nested hafter =>
      have hparts : CallParts text _ blanks arguments after :=
        ⟨by rw [← hblanks, ← hrest, List.takeWhile_append_dropWhile], hword, hchars, hblank,
          harguments⟩
      exact ⟨_, _, _, _, hparts, hafter, hparts.getLast?_eq_iff.1 hlast⟩

/-- A call starts with a character of a function's name. -/
theorem head?_trim_of_isFunctionCall {name : String} (h : isFunctionCall name = true) :
    ∃ c, (Text.trim name).toList.head? = some c ∧ isFunctionChar c = true := by
  obtain ⟨word, _, _, _, hparts, -⟩ := exists_callParts_of_isFunctionCall h
  obtain ⟨c, rest, hword⟩ := List.exists_cons_of_ne_nil hparts.word_ne
  refine ⟨c, ?_, hparts.word_chars c (hword ▸ List.mem_cons_self)⟩
  rw [Text.trim, String.toList_ofList, hparts.eq, hword]
  rfl

/-- A call ends with a parenthesis. -/
theorem getLast?_trim_of_isFunctionCall {name : String} (h : isFunctionCall name = true) :
    (Text.trim name).toList.getLast? = some ')' := by
  obtain ⟨_, _, _, _, hparts, -, hlast⟩ := exists_callParts_of_isFunctionCall h
  rw [Text.trim, String.toList_ofList]
  exact hparts.getLast?_eq_iff.2 hlast

theorem isFunctionCall_of_not_mem {name : String} (h : '(' ∉ name.toList) :
    isFunctionCall name = false := by
  rw [← Bool.not_eq_true]
  intro hcall
  obtain ⟨_, _, _, _, hparts, -⟩ := exists_callParts_of_isFunctionCall hcall
  have hopen : '(' ∈ Text.trimList name.toList := by
    rw [hparts.eq]
    exact List.mem_append_right _ List.mem_cons_self
  exact h ((List.dropWhile_sublist _).subset (Text.mem_of_mem_trimEndList hopen))

/-- **The names that count as calls are the calls, unless one goes on after its arguments.** Those
that go on count as calls too, and no other names do. -/
theorem isFunctionCall_iff_isCall_iff (name : String) :
    (isFunctionCall name = true ↔ IsCall name ∨ CallGoesOn name) ∧
      ((isFunctionCall name = true ↔ IsCall name) ↔ ¬CallGoesOn name) := by
  have hcall : isFunctionCall name = true ↔ IsCall name ∨ CallGoesOn name := by
    constructor
    · intro h
      obtain ⟨word, blanks, arguments, after, hparts, hafter, rfl | hlast⟩ :=
        exists_callParts_of_isFunctionCall h
      · exact .inl ⟨word, blanks, arguments, hparts⟩
      · exact .inr ⟨word, blanks, arguments, after, hparts, hafter, hlast⟩
    · rintro (⟨word, blanks, arguments, hparts⟩ |
        ⟨word, blanks, arguments, after, hparts, hafter, hlast⟩)
      · exact isFunctionCall_of_callParts hparts .nil (.inl rfl)
      · exact isFunctionCall_of_callParts hparts hafter (.inr hlast)
  refine ⟨hcall, fun hsame hon => ?_, fun hon => ?_⟩
  · exact hon.not_isCall (hsame.1 (hcall.2 (.inr hon)))
  · rw [hcall, or_iff_left hon]

/-- A condition made of two calls counts as one. -/
theorem isFunctionCall_twoCalls :
    isFunctionCall "f(a) OR g(b)" = true ∧ ¬IsCall "f(a) OR g(b)" := by
  have hparts : CallParts (Text.trimList "f(a) OR g(b)".toList) "f".toList [] "a".toList
      " OR g(b)".toList :=
    ⟨by decide, by decide, List.all_eq_true.1 (by decide), nofun, by decide⟩
  have hon : CallGoesOn "f(a) OR g(b)" := ⟨_, _, _, _, hparts, by decide, by decide⟩
  exact ⟨by decide, hon.not_isCall⟩

end ServerGrid
