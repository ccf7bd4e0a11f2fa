import Mathlib.Data.List.Infix
import ServerGrid.Text.Case
import ServerGrid.Text.Substring

/-!
# Searching text without regard to case

The lower-case form of a character depends on its neighbours only through the two small sigmas. A
word without them is therefore found in the lower-case form of a text exactly when it is found in
`fold`, which maps each character by itself and so goes through concatenation. Main statement:
`contains_lowercase_iff`. Signs and digits are neither made nor moved: one that is in the lower-case
form was in the text (`mem_of_mem_lowercase`).
-/

namespace ServerGrid.Text

/-- The search by prefixes finds exactly the infixes. -/
theorem occursIn_iff (pattern : List Char) :
    ∀ text : List Char, occursIn pattern text = true ↔ pattern <:+: text
  | [] => by
    rw [occursIn, List.isEmpty_iff, List.infix_nil]
  | c :: rest => by
    rw [occursIn, Bool.or_eq_true, List.isPrefixOf_iff_prefix, occursIn_iff pattern rest,
      List.infix_cons_iff]

/-! ## Mapping each character by itself -/

/-- The lower-case form of a character that stands alone. -/
def foldChar (c : Char) : List Char := lowercaseIn [] c []

/-- Every character in the lower-case form that it has alone. -/
def fold (text : List Char) : List Char := text.flatMap foldChar

@[simp] theorem fold_nil : fold [] = [] := rfl

@[simp] theorem fold_cons (c : Char) (text : List Char) :
    fold (c :: text) = foldChar c ++ fold text := rfl

@[simp] theorem fold_append (a b : List Char) : fold (a ++ b) = fold a ++ fold b :=
  List.flatMap_append

/-- A character that comes before the letters is its own lower-case form. -/
theorem foldChar_of_lt {c : Char} (h : c.toNat < 0x41) : foldChar c = [c] := by
  have hdot : c ≠ 'İ' := by rintro rfl; exact absurd h (by decide)
  have hsigma : c ≠ 'Σ' := by rintro rfl; exact absurd h (by decide)
  have hascii : c.toNat < 0x80 := by omega
  have hcapital : ¬(c.val ≥ 'A'.val ∧ c.val ≤ 'Z'.val) := fun hbounds =>
    absurd (UInt32.le_iff_toNat_le.1 hbounds.1) (Nat.not_le.2 h)
  have hlower : c.toLower = c := dif_neg hcapital
  rw [foldChar, lowercaseIn, if_neg hdot, if_neg hsigma, lowercaseChar, if_pos hascii, hlower]

theorem fold_of_forall_lt : ∀ {text : List Char}, (∀ c ∈ text, c.toNat < 0x41) → fold text = text
  | [], _ => rfl
  | c :: text, h => by
    rw [fold_cons, foldChar_of_lt (h c List.mem_cons_self),
      fold_of_forall_lt fun d hd => h d (List.mem_cons_of_mem _ hd)]
    rfl

/-! ## Signs and digits -/

/-- The mappings outside ASCII lead past the characters before the small letters. -/
theorem lt_of_mem_lowercaseRuns : ∀ run ∈ lowercaseRuns, 0x60 < run.first + run.distance := by
  decide +kernel

section Signs

variable {x : Char} (hpos : 0 < x.toNat) (hx : x.toNat ≤ 0x60)
include hpos hx

theorem eq_of_toLower_eq {c : Char} (h : c.toLower = x) : c = x := by
  unfold Char.toLower at h
  split at h
  · next hcapital =>
    have hfrom : 0x41 ≤ c.toNat := UInt32.le_iff_toNat_le.1 hcapital.1
    have hto : c.toNat ≤ 0x5A := UInt32.le_iff_toNat_le.1 hcapital.2
    have hlower : x.toNat = (c.toNat + 32) % 2 ^ 32 := by
      rw [← h]
      rfl
    omega
  · exact h

theorem eq_of_lowercaseChar_eq {c : Char} (h : lowercaseChar c = x) : c = x := by
  unfold lowercaseChar at h
  split at h
  · exact eq_of_toLower_eq hpos hx h
  · split at h
    · next run hrun =>
      have hlead := lt_of_mem_lowercaseRuns run (List.mem_of_find?_eq_some hrun)
      have hfirst : run.first ≤ c.toNat := by
        have hfound := List.find?_some hrun
        simp only [Bool.and_eq_true, decide_eq_true_eq] at hfound
        exact hfound.1.1
      -- a number that is no code point gives the zero character
      have hvalue : x.toNat = (c.toNat + run.distance).toNat ∨ x.toNat = 0 := by
        rw [← h]
        by_cases hvalid : (c.toNat + run.distance).toNat.isValidChar
        · rw [Char.ofNat, dif_pos hvalid]
          exact .inl rfl
        · rw [Char.ofNat, dif_neg hvalid]
          exact .inr rfl
      omega
    · exact h

theorem eq_of_mem_lowercaseIn {before after : List Char} {c : Char}
    (h : x ∈ lowercaseIn before c after) : x = c := by
  unfold lowercaseIn at h
  split at h
  · simp only [List.mem_cons, List.not_mem_nil, or_false] at h
    rcases h with rfl | rfl <;> exact absurd hx (by decide)
  · split at h
    · split at h <;> (rw [List.mem_singleton] at h; subst h; exact absurd hx (by decide))
    · exact (eq_of_lowercaseChar_eq hpos hx (List.mem_singleton.1 h).symm).symm

theorem mem_of_mem_lowercaseFrom {before text : List Char} (h : x ∈ lowercaseFrom before text) :
    x ∈ text := by
  induction text generalizing before with
  | nil => exact h
  | cons c rest ih =>
    rw [lowercaseFrom, List.mem_append] at h
    rcases h with h | h
    · rw [eq_of_mem_lowercaseIn hpos hx h]
      exact List.mem_cons_self
    · exact List.mem_cons_of_mem c (ih h)

/-- A character before the small letters is in the lower-case form only when it is in the text. -/
theorem mem_of_mem_lowercase {text : String} (h : x ∈ (lowercase text).toList) :
    x ∈ text.toList := by
  rw [lowercase, String.toList_ofList] at h
  exact mem_of_mem_lowercaseFrom hpos hx h

end Signs

/-! ## The two small sigmas -/

/-- The two small sigmas as one. -/
def mergeSigma (c : Char) : Char := if c = 'ς' then 'σ' else c

theorem mergeSigma_eq_self {c : Char} (h : mergeSigma c ≠ 'σ') : mergeSigma c = c := by
  unfold mergeSigma at h ⊢
  split
  · next hfinal => exact absurd (if_pos hfinal) h
  · rfl

theorem map_mergeSigma_lowercaseIn (before : List Char) (c : Char) (after : List Char) :
    (lowercaseIn before c after).map mergeSigma = (foldChar c).map mergeSigma := by
  unfold foldChar lowercaseIn
  split
  · rfl
  · split
    · cases casedNext before && !casedNext after <;> rfl
    · rfl

/-- The neighbours only matter for which small sigma there is. -/
theorem map_mergeSigma_lowercaseFrom : ∀ before text : List Char,
    (lowercaseFrom before text).map mergeSigma = (fold text).map mergeSigma
  | _, [] => rfl
  | before, c :: rest => by
    rw [lowercaseFrom, fold_cons, List.map_append, List.map_append, map_mergeSigma_lowercaseIn,
      map_mergeSigma_lowercaseFrom (c :: before) rest]

theorem map_mergeSigma_eq_self {text : List Char} (h : ∀ c ∈ text, mergeSigma c = c) :
    text.map mergeSigma = text :=
  (List.map_congr_left h).trans (List.map_id text)

/-- A word without a small sigma is found whether or not the two are told apart. -/
theorem infix_map_mergeSigma_iff {word : List Char} (hσ : 'σ' ∉ word) (hς : 'ς' ∉ word)
    (text : List Char) : word <:+: text.map mergeSigma ↔ word <:+: text := by
  rw [List.infix_map_iff]
  constructor
  · rintro ⟨found, hfound, rfl⟩
    have hsame : found.map mergeSigma = found := map_mergeSigma_eq_self fun c hc =>
      mergeSigma_eq_self fun hmerged => hσ (hmerged ▸ List.mem_map_of_mem hc)
    rwa [hsame]
  · intro h
    have hsame : word.map mergeSigma = word := map_mergeSigma_eq_self fun c hc => by
      have hfinal : c ≠ 'ς' := fun hfinal => hς (hfinal ▸ hc)
      rw [mergeSigma, if_neg hfinal]
    exact ⟨word, h, hsame.symm⟩

theorem contains_lowercase_iff {word : String} (hσ : 'σ' ∉ word.toList) (hς : 'ς' ∉ word.toList)
    (text : String) :
    contains word (lowercase text) = true ↔ word.toList <:+: fold text.toList := by
  rw [contains, occursIn_iff, lowercase, String.toList_ofList,
    ← infix_map_mergeSigma_iff hσ hς (lowercaseFrom [] text.toList), map_mergeSigma_lowercaseFrom,
    infix_map_mergeSigma_iff hσ hς]

end ServerGrid.Text
