import ServerGrid.Text.Substring

/-!
# Replaced text

What a replacement keeps. The characters of a kind that neither the pattern nor its replacement has
are the same before and after (`filter_replaceAll`). The first occurrence of a pattern is a cut of
the text, and what stands on both sides of it is kept (`replaceFirstList_of_occursIn`). A pattern of
one character is replaced character by character (`toList_replaceAll_singleton`).
-/

namespace ServerGrid.Text

theorem occursIn_of_countFrom_pos {pattern : List Char} : ∀ {skip : Nat} {text : List Char},
    0 < countFrom pattern skip text → occursIn pattern text = true
  | _ + 1, _ :: rest, h => by
    have hrest : occursIn pattern rest = true := occursIn_of_countFrom_pos h
    rw [occursIn, hrest, Bool.or_true]
  | 0, c :: rest, h => by
    unfold countFrom at h
    rw [occursIn, Bool.or_eq_true]
    split at h
    · next hstart => exact .inl hstart
    · exact .inr (occursIn_of_countFrom_pos h)

/-- The first occurrence gives way, and everything around it stays. -/
theorem replaceFirstList_of_occursIn {pattern : List Char} (hpattern : pattern ≠ [])
    (new : List Char) : ∀ {text : List Char}, occursIn pattern text = true →
      ∃ a b, text = a ++ pattern ++ b ∧ replaceFirstList pattern new text = a ++ new ++ b
  | [], h => by
    unfold occursIn at h
    exact absurd (List.isEmpty_iff.1 h) hpattern
  | c :: rest, h => by
    unfold replaceFirstList
    split
    · next hstart =>
      obtain ⟨b, hb⟩ := List.isPrefixOf_iff_prefix.1 hstart
      refine ⟨[], b, by rw [List.nil_append, hb], ?_⟩
      rw [← hb, List.drop_left, List.nil_append]
    · next hstart =>
      rw [occursIn, Bool.or_eq_true] at h
      obtain ⟨a, b, hrest, hreplaced⟩ :=
        replaceFirstList_of_occursIn hpattern new (h.resolve_left hstart)
      exact ⟨c :: a, b, by rw [hrest]; rfl, by rw [hreplaced]; rfl⟩

/-! ## Patterns of one character -/

theorem replaceFrom_singleton (p : Char) (new text : List Char) :
    replaceFrom [p] new 0 text = text.flatMap fun c => if c = p then new else [c] := by
  induction text with
  | nil => rfl
  | cons c rest ih =>
    by_cases hc : c = p
    · simp [replaceFrom, hc, ih]
    · simp [replaceFrom, hc, Ne.symm hc, ih]

theorem toList_replaceAll_singleton {pattern : String} {p : Char} (h : pattern.toList = [p])
    (new text : String) : (replaceAll pattern new text).toList =
      text.toList.flatMap fun c => if c = p then new.toList else [c] := by
  rw [replaceAll, String.toList_ofList, h, replaceFrom_singleton]

/-! ## Characters that a replacement does not touch -/

section Filter

variable {p : Char → Bool} {pattern new : List Char} (hpattern : pattern.filter p = [])
  (hnew : new.filter p = [])
include hpattern hnew

theorem filter_replaceFirstList (text : List Char) :
    (replaceFirstList pattern new text).filter p = text.filter p := by
  induction text with
  | nil => rfl
  | cons c rest ih =>
    unfold replaceFirstList
    split
    · next hstart =>
      obtain ⟨b, hb⟩ := List.isPrefixOf_iff_prefix.1 hstart
      rw [← hb, List.drop_left, List.filter_append, List.filter_append, hnew, hpattern]
    · rw [List.filter_cons, List.filter_cons, ih]

/-- The characters still to be dropped belong to an occurrence of the pattern. -/
theorem filter_replaceFrom (hne : pattern ≠ []) : ∀ {skip : Nat} {text : List Char},
    (text.take skip).filter p = [] → (replaceFrom pattern new skip text).filter p = text.filter p
  | _, [], _ => by
    rw [replaceFrom]
  | skip + 1, c :: rest, h => by
    rw [List.take_succ_cons, List.filter_cons] at h
    split at h
    · cases h
    · next hc => rw [replaceFrom, filter_replaceFrom hne h, List.filter_cons_of_neg hc]
  | 0, c :: rest, _ => by
    unfold replaceFrom
    split
    · next hstart =>
      -- an occurrence starts here, and the rest of it is what is to be dropped next
      have hlength : pattern.length = pattern.length - 1 + 1 := by
        have := List.length_pos_iff.2 hne
        omega
      have hoccurrence : pattern = c :: rest.take (pattern.length - 1) := by
        have htake := List.prefix_iff_eq_take.1 (List.isPrefixOf_iff_prefix.1 hstart)
        rwa [hlength, List.take_succ_cons] at htake
      have hnone := hpattern
      rw [hoccurrence, List.filter_cons] at hnone
      split at hnone
      · cases hnone
      · next hc =>
        rw [List.filter_append, hnew, filter_replaceFrom hne hnone, List.filter_cons_of_neg hc,
          List.nil_append]
    · rw [List.filter_cons, List.filter_cons, filter_replaceFrom hne rfl]

end Filter

end ServerGrid.Text
