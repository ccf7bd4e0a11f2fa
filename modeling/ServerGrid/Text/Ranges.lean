/-!
# Membership in a table of ranges

Tables hold the code points outside ASCII. `toNat_of_isAlpha` places the letters of the core library
before every table.
-/

namespace ServerGrid.Text

/-- Whether a code point lies in one of the closed ranges. -/
def inRanges (ranges : List (Nat × Nat)) (n : Nat) : Bool :=
  ranges.any fun (first, last) => first ≤ n && n ≤ last

theorem inRanges_eq_true_iff {ranges : List (Nat × Nat)} {n : Nat} :
    inRanges ranges n = true ↔ ∃ r ∈ ranges, r.1 ≤ n ∧ n ≤ r.2 := by
  simp [inRanges]

/-- The letters of the core library lie between `A` and `z`. -/
theorem toNat_of_isAlpha {c : Char} (h : c.isAlpha = true) : 0x41 ≤ c.toNat ∧ c.toNat ≤ 0x7A := by
  have hcase : (decide ('A'.val ≤ c.val ∧ c.val ≤ 'Z'.val) ||
      (decide ('a'.val ≤ c.val) && decide (c.val ≤ 'z'.val))) = true := h
  simp only [Bool.or_eq_true, Bool.and_eq_true, decide_eq_true_eq, UInt32.le_iff_toNat_le] at hcase
  rcases hcase with ⟨hfrom, hto⟩ | ⟨hfrom, hto⟩
  · exact ⟨hfrom, Nat.le_trans hto (by decide)⟩
  · exact ⟨Nat.le_trans (by decide) hfrom, hto⟩

end ServerGrid.Text
