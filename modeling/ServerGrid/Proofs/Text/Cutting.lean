import Mathlib.Data.List.TakeWhile
import ServerGrid.Text.Blank
import ServerGrid.Text.Substring

/-!
# Trimmed and cut text

Trimming keeps the first character that is no blank and leaves a text without blanks alone, which is
its own only word. A text is cut at every separator: `segmentsList_append` goes through one
separator, and a text without any, such as a printed number, is its own only segment.
`cutLast_eq_some_iff` says what it means to be cut at the last separator.
-/

namespace ServerGrid.Text

/-! ## Trimming -/

theorem head?_trimEndList {text : List Char} (h : trimEndList text ≠ []) :
    (trimEndList text).head? = text.head? := by
  cases text with
  | nil => exact absurd rfl h
  | cons c rest =>
    unfold trimEndList at h ⊢
    split
    · next hkept =>
      rw [hkept] at h
      split
      · next hblank => exact absurd (if_pos hblank) h
      · rfl
    · rfl

theorem trimEndList_of_forall : ∀ {text : List Char}, (∀ c ∈ text, isBlank c = false) →
    trimEndList text = text
  | [], _ => rfl
  | c :: rest, h => by
    have hrest := trimEndList_of_forall fun d hd => h d (List.mem_cons_of_mem _ hd)
    have hc := h c List.mem_cons_self
    rw [trimEndList, hrest]
    cases rest with
    | nil => simp [hc]
    | cons d rest => rfl

theorem trimList_of_forall {text : List Char} (h : ∀ c ∈ text, isBlank c = false) :
    trimList text = text := by
  have hdrop : text.dropWhile isBlank = text := by
    cases text with
    | nil => rfl
    | cons c rest => simp [h c List.mem_cons_self]
  rw [trimList, hdrop, trimEndList_of_forall h]

theorem mem_of_mem_trimEndList {c : Char} : ∀ {text : List Char},
    c ∈ trimEndList text → c ∈ text
  | d :: rest, h => by
    unfold trimEndList at h
    split at h
    · split at h
      · cases h
      · rw [List.mem_singleton.1 h]
        exact List.mem_cons_self
    · obtain rfl | h := List.mem_cons.1 h
      · exact List.mem_cons_self
      · exact List.mem_cons_of_mem _ (mem_of_mem_trimEndList h)

theorem trimEndList_eq_nil_iff : ∀ {text : List Char},
    trimEndList text = [] ↔ ∀ c ∈ text, isBlank c = true
  | [] => by
    simp [trimEndList]
  | c :: rest => by
    have ih : trimEndList rest = [] ↔ ∀ d ∈ rest, isBlank d = true := trimEndList_eq_nil_iff
    rw [trimEndList, List.forall_mem_cons, ← ih]
    split
    · next hnil => simp [hnil]
    · next hkept => exact iff_of_false (List.cons_ne_nil _ _) fun h => hkept h.2

/-- What is trimmed from the end of a text are blanks. -/
theorem exists_eq_trimEndList_append : ∀ text : List Char,
    ∃ blanks, text = trimEndList text ++ blanks ∧ ∀ c ∈ blanks, isBlank c = true
  | [] => ⟨[], rfl, nofun⟩
  | c :: rest => by
    obtain ⟨blanks, hrest, hblanks⟩ := exists_eq_trimEndList_append rest
    unfold trimEndList
    split
    · next hnil =>
      rw [hnil, List.nil_append] at hrest
      split
      · next hc => exact ⟨c :: rest, rfl, List.forall_mem_cons.2 ⟨hc, hrest ▸ hblanks⟩⟩
      · exact ⟨blanks, congrArg (c :: ·) hrest, hblanks⟩
    · exact ⟨blanks, congrArg (c :: ·) hrest, hblanks⟩

/-- Blanks after the last character that is none are trimmed. -/
theorem trimEndList_append_of_forall {text blanks : List Char}
    (htext : ∀ c ∈ text, isBlank c = false) (hblanks : ∀ c ∈ blanks, isBlank c = true) :
    trimEndList (text ++ blanks) = text := by
  induction text with
  | nil => exact trimEndList_eq_nil_iff.2 hblanks
  | cons c rest ih =>
    obtain ⟨hc, hrest⟩ := List.forall_mem_cons.1 htext
    rw [List.cons_append, trimEndList, ih hrest]
    cases rest with
    | nil => exact if_neg (by rw [hc]; exact Bool.false_ne_true)
    | cons d rest => rfl

theorem trimList_eq_nil_iff {text : List Char} :
    trimList text = [] ↔ ∀ c ∈ text, isBlank c = true := by
  constructor
  · intro h c hc
    rw [trimList, trimEndList_eq_nil_iff] at h
    rw [← @List.takeWhile_append_dropWhile _ isBlank text, List.mem_append] at hc
    exact hc.elim (fun hc => List.mem_takeWhile_imp hc) (h c)
  · intro h
    rw [trimList, List.dropWhile_eq_nil_iff.2 h]
    rfl

/-- What is left of a trimmed text starts with a character that is no blank. -/
theorem trimList_trimList_eq_nil_iff {text : List Char} :
    trimList (trimList text) = [] ↔ trimList text = [] := by
  constructor
  · intro h
    by_contra hne
    obtain ⟨c, rest, htrim⟩ := List.exists_cons_of_ne_nil hne
    have hhead := head?_trimEndList hne
    have hstart := List.head?_dropWhile_not isBlank text
    rw [← trimList, htrim, List.head?_cons] at hhead
    rw [← hhead] at hstart
    rw [trimList_eq_nil_iff, htrim] at h
    exact Bool.false_ne_true (hstart.symm.trans (h c List.mem_cons_self))
  · intro h
    rw [h]
    rfl

/-! ## Words -/

theorem wordsFrom_eq_nil_iff {text : List Char} : ∀ {word : List Char},
    wordsFrom word text = [] ↔ word = [] ∧ ∀ c ∈ text, isBlank c = true := by
  induction text with
  | nil =>
    intro word
    cases word <;> simp [wordsFrom]
  | cons c rest ih =>
    intro word
    rw [wordsFrom, List.forall_mem_cons]
    split
    · next hc =>
      cases word with
      | nil => simp [ih, hc]
      | cons d word => simp
    · next hc => simp [ih, hc]

/-- A text has a word unless nothing is left when it is trimmed. -/
theorem words_eq_nil_iff {text : String} : words text = [] ↔ trim text = "" := by
  rw [words, List.map_eq_nil_iff, wordsFrom_eq_nil_iff, trim, ← String.toList_inj,
    String.toList_ofList]
  exact (and_iff_right rfl).trans trimList_eq_nil_iff.symm

theorem wordsFrom_of_forall {word text : List Char} (h : ∀ c ∈ text, isBlank c = false) :
    wordsFrom word text = if (word.reverse ++ text).isEmpty then [] else [word.reverse ++ text] := by
  induction text generalizing word with
  | nil => cases word <;> simp [wordsFrom]
  | cons c rest ih =>
    have hc : ¬isBlank c = true := by simp [h c]
    rw [wordsFrom, if_neg hc, ih fun d hd => h d (List.mem_cons_of_mem c hd)]
    simp

/-- A text without blanks is its own only word. -/
theorem words_of_forall {text : String} (h : ∀ c ∈ text.toList, isBlank c = false)
    (hne : text.isEmpty = false) : words text = [text] := by
  have hlist : ¬text.toList.isEmpty = true := by simpa using hne
  rw [words, wordsFrom_of_forall h, List.reverse_nil, List.nil_append, if_neg hlist]
  simp

/-! ## Segments -/

theorem segmentsList_ne_nil (sep : Char) (text : List Char) : segmentsList sep text ≠ [] := by
  cases text with
  | nil => exact List.cons_ne_nil _ _
  | cons c rest =>
    unfold segmentsList
    split
    · exact List.cons_ne_nil _ _
    · split <;> exact List.cons_ne_nil _ _

theorem segmentsList_of_not_mem {sep : Char} : ∀ {text : List Char}, sep ∉ text →
    segmentsList sep text = [text]
  | [], _ => rfl
  | c :: rest, h => by
    have hc := List.ne_of_not_mem_cons h
    have hrest := List.not_mem_of_not_mem_cons h
    rw [segmentsList, if_neg (Ne.symm hc), segmentsList_of_not_mem hrest]

theorem segmentsList_append (sep : Char) (b : List Char) : ∀ a : List Char,
    segmentsList sep (a ++ sep :: b) = segmentsList sep a ++ segmentsList sep b
  | [] => by
    rw [List.nil_append]
    exact if_pos rfl
  | c :: rest => by
    rw [List.cons_append, segmentsList, segmentsList_append sep b rest, segmentsList]
    split
    · rfl
    · cases hrest : segmentsList sep rest with
      | nil => exact absurd hrest (segmentsList_ne_nil sep rest)
      | cons first others => rfl

theorem mem_segmentsList {sep c : Char} : ∀ {text : List Char}, c ∈ text →
    c = sep ∨ ∃ segment ∈ segmentsList sep text, c ∈ segment
  | d :: rest, h => by
    unfold segmentsList
    split
    · next hsep =>
      obtain rfl | h := List.mem_cons.1 h
      · exact .inl hsep
      · obtain heq | ⟨segment, hsegment, hc⟩ := mem_segmentsList h
        · exact .inl heq
        · exact .inr ⟨segment, List.mem_cons_of_mem _ hsegment, hc⟩
    · obtain rfl | h := List.mem_cons.1 h
      · right
        split <;> exact ⟨_, List.mem_cons_self, List.mem_cons_self⟩
      · obtain heq | ⟨segment, hsegment, hc⟩ := mem_segmentsList h
        · exact .inl heq
        · right
          split
          · next hnil =>
            rw [hnil] at hsegment
            cases hsegment
          · next first others hcons =>
            rw [hcons] at hsegment
            obtain rfl | hsegment := List.mem_cons.1 hsegment
            · exact ⟨_, List.mem_cons_self, List.mem_cons_of_mem _ hc⟩
            · exact ⟨segment, List.mem_cons_of_mem _ hsegment, hc⟩

/-! ## The last separator -/

theorem cutLastList_of_not_mem {sep : Char} : ∀ {text : List Char}, sep ∉ text →
    cutLastList sep text = none
  | [], _ => rfl
  | c :: rest, h => by
    have hc := List.ne_of_not_mem_cons h
    have hrest := List.not_mem_of_not_mem_cons h
    rw [cutLastList, cutLastList_of_not_mem hrest]
    exact if_neg (Ne.symm hc)

theorem cutLastList_append {sep : Char} {b : List Char} (h : sep ∉ b) : ∀ a : List Char,
    cutLastList sep (a ++ sep :: b) = some (a, b)
  | [] => by
    rw [List.nil_append, cutLastList, cutLastList_of_not_mem h]
    exact if_pos rfl
  | c :: rest => by
    rw [List.cons_append, cutLastList, cutLastList_append h rest]

theorem exists_last_separator {sep : Char} : ∀ {text : List Char}, sep ∈ text →
    ∃ a b, text = a ++ sep :: b ∧ sep ∉ b
  | c :: rest, h => by
    by_cases hrest : sep ∈ rest
    · obtain ⟨a, b, rfl, hb⟩ := exists_last_separator hrest
      exact ⟨c :: a, b, rfl, hb⟩
    · obtain rfl | hmem := List.mem_cons.1 h
      · exact ⟨[], rest, rfl, hrest⟩
      · exact absurd hmem hrest

theorem cutLast_eq_none_iff {sep : Char} {text : String} :
    cutLast sep text = none ↔ sep ∉ text.toList := by
  constructor
  · intro h hmem
    obtain ⟨a, b, htext, hb⟩ := exists_last_separator hmem
    rw [cutLast, htext, cutLastList_append hb] at h
    cases h
  · intro h
    rw [cutLast, cutLastList_of_not_mem h]
    rfl

theorem cutLast_eq_some_iff {sep : Char} {text before after : String} :
    cutLast sep text = some (before, after) ↔
      text.toList = before.toList ++ sep :: after.toList ∧ sep ∉ after.toList := by
  constructor
  · intro h
    by_cases hmem : sep ∈ text.toList
    · obtain ⟨a, b, htext, hb⟩ := exists_last_separator hmem
      rw [cutLast, htext, cutLastList_append hb] at h
      cases h
      rw [String.toList_ofList, String.toList_ofList]
      exact ⟨htext, hb⟩
    · rw [cutLast_eq_none_iff.2 hmem] at h
      cases h
  · rintro ⟨htext, hafter⟩
    rw [cutLast, htext, cutLastList_append hafter]
    simp only [Option.map_some, String.ofList_toList]

/-! ## Printed numbers -/

theorem isDigit_of_mem_repr {n : Nat} {c : Char} (h : c ∈ n.repr.toList) : c.isDigit = true := by
  rw [Nat.toList_repr] at h
  exact Nat.isDigit_of_mem_toDigits (by decide) (by decide) h

theorem blank_not_mem_repr (n : Nat) : ' ' ∉ n.repr.toList :=
  fun h => absurd (isDigit_of_mem_repr h) (by decide)

end ServerGrid.Text
