import Mathlib.Data.List.Infix
import ServerGrid.Text.Substring

/-!
# Occurrences of a pattern of two characters

Two different characters cannot overlap with themselves, so the occurrences of such a pattern cut a
text into parts that have none. Main statements: `countFrom_pair_eq_two_iff`, two occurrences are
two cuts, and `replaceFirstList_pair`, a replacement takes the first cut.
-/

namespace ServerGrid.Text

theorem countFrom_eq_zero_iff {pattern : List Char} (hpattern : pattern ≠ []) :
    ∀ {text : List Char}, countFrom pattern 0 text = 0 ↔ occursIn pattern text = false
  | [] => by
    rw [countFrom, occursIn]
    simpa using hpattern
  | c :: rest => by
    rw [countFrom, occursIn, Bool.or_eq_false_iff]
    split
    · next hstart =>
      rw [hstart]
      simp
    · next hstart =>
      rw [countFrom_eq_zero_iff hpattern, Bool.not_eq_true] at *
      rw [hstart]
      simp

section Pair

variable {p s : Char}

theorem isPrefixOf_pair_iff {text : List Char} :
    [p, s].isPrefixOf text = true ↔ text.head? = some p ∧ text.tail.head? = some s := by
  match text with
  | [] => simp
  | [c] => simp
  | c :: d :: rest =>
    simp only [List.isPrefixOf_iff_prefix, List.cons_prefix_cons, List.nil_prefix, and_true,
      List.head?_cons, List.tail_cons, Option.some.injEq]
    exact and_congr eq_comm eq_comm

/-- An occurrence stands on one side of a cut, or across it. -/
theorem occursIn_pair_append_iff {b : List Char} : ∀ {a : List Char},
    occursIn [p, s] (a ++ b) = true ↔
      occursIn [p, s] a = true ∨ (a.getLast? = some p ∧ b.head? = some s) ∨
        occursIn [p, s] b = true
  | [] => by
    simp [occursIn]
  | [c] => by
    rw [List.singleton_append, occursIn, Bool.or_eq_true, isPrefixOf_pair_iff]
    simp [occursIn]
  | c :: d :: rest => by
    have ih := occursIn_pair_append_iff (b := b) (a := d :: rest)
    have hstep : ∀ text : List Char, occursIn [p, s] (c :: d :: text) = true ↔
        (some c = some p ∧ some d = some s) ∨ occursIn [p, s] (d :: text) = true := by
      intro text
      rw [occursIn, Bool.or_eq_true, isPrefixOf_pair_iff]
      rfl
    rw [List.cons_append, List.cons_append, hstep, hstep, ← List.cons_append, ih,
      List.getLast?_cons_cons, or_assoc]

theorem occursIn_pair_append_eq_false {a b : List Char} :
    occursIn [p, s] (a ++ b) = false ↔
      occursIn [p, s] a = false ∧ ¬(a.getLast? = some p ∧ b.head? = some s) ∧
        occursIn [p, s] b = false := by
  rw [← Bool.not_eq_true, occursIn_pair_append_iff, not_or, not_or, Bool.not_eq_true,
    Bool.not_eq_true]

/-- What stands before the first occurrence has none. -/
theorem exists_first_pair : ∀ {text : List Char}, occursIn [p, s] text = true →
    ∃ a b, text = a ++ p :: s :: b ∧ occursIn [p, s] a = false
  | [], h => by
    cases h
  | c :: rest, h => by
    by_cases hstart : [p, s].isPrefixOf (c :: rest) = true
    · obtain ⟨b, hb⟩ := List.isPrefixOf_iff_prefix.1 hstart
      exact ⟨[], b, hb.symm, rfl⟩
    · rw [occursIn, Bool.or_eq_true] at h
      obtain ⟨a, b, rfl, ha⟩ := exists_first_pair (h.resolve_left hstart)
      refine ⟨c :: a, b, rfl, ?_⟩
      rw [occursIn, Bool.or_eq_false_iff]
      refine ⟨?_, ha⟩
      -- the character before the cut is not the second one of an occurrence
      rw [Bool.eq_false_iff]
      intro hprefix
      apply hstart
      rw [isPrefixOf_pair_iff] at hprefix ⊢
      cases a with
      | nil => cases hprefix.2
      | cons d a => exact hprefix

variable (hps : p ≠ s)
include hps

theorem not_isPrefixOf_pair {c : Char} {a b : List Char} (ha : occursIn [p, s] (c :: a) = false) :
    ¬[p, s].isPrefixOf (c :: (a ++ p :: s :: b)) = true := by
  rw [occursIn, Bool.or_eq_false_iff, ← Bool.not_eq_true, isPrefixOf_pair_iff] at ha
  rw [isPrefixOf_pair_iff]
  intro h
  cases a with
  | nil => exact hps (Option.some.inj h.2)
  | cons d a => exact ha.1 h

theorem countFrom_pair (b : List Char) : ∀ {a : List Char}, occursIn [p, s] a = false →
    countFrom [p, s] 0 (a ++ p :: s :: b) = countFrom [p, s] 0 b + 1
  | [], _ => by
    rw [List.nil_append, countFrom, if_pos (by simp)]
    rfl
  | c :: a, ha => by
    rw [List.cons_append, countFrom, if_neg (not_isPrefixOf_pair hps ha)]
    rw [occursIn, Bool.or_eq_false_iff] at ha
    exact countFrom_pair b ha.2

theorem replaceFirstList_pair (new b : List Char) : ∀ {a : List Char}, occursIn [p, s] a = false →
    replaceFirstList [p, s] new (a ++ p :: s :: b) = a ++ new ++ b
  | [], _ => by
    rw [List.nil_append, replaceFirstList, if_pos (by simp)]
    rfl
  | c :: a, ha => by
    rw [List.cons_append, replaceFirstList, if_neg (not_isPrefixOf_pair hps ha)]
    rw [occursIn, Bool.or_eq_false_iff] at ha
    rw [replaceFirstList_pair new b ha.2]
    rfl

/-- Two occurrences cut a text into three parts that have none. -/
theorem countFrom_pair_eq_two_iff {text : List Char} :
    countFrom [p, s] 0 text = 2 ↔ ∃ a b c, text = a ++ p :: s :: (b ++ p :: s :: c) ∧
      occursIn [p, s] a = false ∧ occursIn [p, s] b = false ∧ occursIn [p, s] c = false := by
  have hpair : [p, s] ≠ [] := List.cons_ne_nil _ _
  -- a text with an occurrence is cut at the first one
  have hcut : ∀ {n : Nat} {text : List Char}, countFrom [p, s] 0 text = n + 1 →
      ∃ a rest, text = a ++ p :: s :: rest ∧ occursIn [p, s] a = false ∧
        countFrom [p, s] 0 rest = n := by
    intro n text h
    have hoccurs : occursIn [p, s] text = true := by
      rw [← Bool.not_eq_false, ← countFrom_eq_zero_iff hpair]
      omega
    obtain ⟨a, rest, rfl, ha⟩ := exists_first_pair hoccurs
    rw [countFrom_pair hps rest ha] at h
    exact ⟨a, rest, rfl, ha, by omega⟩
  constructor
  · intro h
    obtain ⟨a, rest, rfl, ha, hrest⟩ := hcut h
    obtain ⟨b, c, rfl, hb, hc⟩ := hcut hrest
    exact ⟨a, b, c, rfl, ha, hb, (countFrom_eq_zero_iff hpair).1 hc⟩
  · rintro ⟨a, b, c, rfl, ha, hb, hc⟩
    rw [countFrom_pair hps _ ha, countFrom_pair hps _ hb, (countFrom_eq_zero_iff hpair).2 hc]

end Pair

end ServerGrid.Text
