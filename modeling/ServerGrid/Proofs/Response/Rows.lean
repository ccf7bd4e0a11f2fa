import ServerGrid.Database
import ServerGrid.Keyed
import ServerGrid.RowShape

/-!
# Rows in their shape

Rows are shaped one by one, and only the number tells a row apart from one elsewhere on the page
(`getElem?_applyFrom`). The number is set last, so that nothing takes it away again. Main statement:
`rowIndex?_apply_iff`, rows count on from a number exactly when it is the one they were shaped with.
-/

namespace ServerGrid

/-- The number of a row, if it has one. -/
def rowIndex? : Json → Option Json
  | .object fields => Keyed.get? fields rowIndexKey
  | _ => none

namespace RowShape

variable (s : RowShape)

theorem rowIndex?_applyRow (hnumbered : s.numbered = true) (fields : Keyed Json) (index : UInt64) :
    rowIndex? (s.applyRow (.object fields) index) = some (Json.ofUInt64 index) := by
  change Keyed.get? (s.number index _) rowIndexKey = _
  rw [number, if_pos hnumbered, Keyed.get?_set, if_pos rfl]

theorem add_one_add_ofNat (index : UInt64) (k : Nat) :
    index + 1 + .ofNat k = index + .ofNat (k + 1) := by
  rw [UInt64.ofNat_add, UInt64.add_assoc, UInt64.add_comm (.ofNat k)]
  rfl

/-- A row is shaped with the number of the first row and the rows before it. -/
theorem getElem?_applyFrom (index : UInt64) (rows : List Json) (k : Nat) :
    (s.applyFrom index rows)[k]? = rows[k]?.map (s.applyRow · (index + .ofNat k)) := by
  induction rows generalizing index k with
  | nil => rfl
  | cons row rest ih =>
    cases k with
    | zero =>
      have hfirst : index + .ofNat 0 = index := UInt64.add_zero index
      rw [applyFrom, List.getElem?_cons_zero, List.getElem?_cons_zero, hfirst]
      rfl
    | succ k =>
      rw [applyFrom, List.getElem?_cons_succ, List.getElem?_cons_succ, ih, add_one_add_ofNat]

theorem isPlain_of_numbered (hnumbered : s.numbered = true) : s.isPlain = false := by
  rw [isPlain, hnumbered, Bool.not_true, Bool.and_false]

/-- The number of a row counts the first row and the rows before it. -/
theorem rowIndex?_apply (hnumbered : s.numbered = true) (rows : List Row) (start : UInt64)
    {k : Nat} {row : Json} (hrow : (s.apply (rows.map Row.toJson) start)[k]? = some row) :
    rowIndex? row = some (Json.ofUInt64 (firstIndex start + .ofNat k)) := by
  rw [apply, s.isPlain_of_numbered hnumbered, if_neg Bool.false_ne_true, getElem?_applyFrom,
    List.getElem?_map, Option.map_map, Option.map_eq_some_iff] at hrow
  obtain ⟨fetched, -, rfl⟩ := hrow
  exact s.rowIndex?_applyRow hnumbered _ _

/-! ## Numbers without overflow -/

theorem toNat_firstIndex {start : UInt64} (h : start.toNat + 1 < UInt64.size) :
    (firstIndex start).toNat = start.toNat + 1 := by
  rw [firstIndex, if_pos h, UInt64.toNat_add]
  exact Nat.mod_eq_of_lt h

/-- A number is the one that is counted exactly when there is such a number. -/
theorem toNat_firstIndex_add_iff {start : UInt64} (h : start.toNat + 1 < UInt64.size) (k : Nat) :
    (firstIndex start + .ofNat k).toNat = start.toNat + k + 1 ↔
      start.toNat + k + 1 < UInt64.size := by
  have hsize : UInt64.size = 2 ^ 64 := rfl
  have hcounted : (firstIndex start + .ofNat k).toNat = (start.toNat + k + 1) % UInt64.size := by
    rw [UInt64.toNat_add, toNat_firstIndex h, UInt64.toNat_ofNat', Nat.add_mod_mod, hsize]
    congr 1
    omega
  rw [hcounted]
  constructor
  · intro heq
    rw [← heq]
    exact Nat.mod_lt _ (by rw [hsize]; omega)
  · exact Nat.mod_eq_of_lt

theorem ofUInt64_eq_iff (n : UInt64) (m : Nat) :
    Json.ofUInt64 n = Json.ofInt m ↔ n.toNat = m := by
  simp only [Json.ofUInt64, Json.ofInt, Json.number.injEq, Number.integer.injEq]
  omega

/-- Rows count on from a number exactly when they were shaped with it, and do not run out of
numbers. -/
theorem rowIndex?_apply_iff (hnumbered : s.numbered = true) (rows : List Row) {start : UInt64}
    (hstart : start.toNat + 1 < UInt64.size) (before : Nat) :
    (∀ (k : Nat) (row : Json), (s.apply (rows.map Row.toJson) start)[k]? = some row →
        rowIndex? row = some (Json.ofInt (before + k + 1 : Nat))) ↔
      s.apply (rows.map Row.toJson) start = [] ∨ start.toNat = before ∧
        before + (s.apply (rows.map Row.toJson) start).length < UInt64.size := by
  have hindex : ∀ (k : Nat) (row : Json), (s.apply (rows.map Row.toJson) start)[k]? = some row →
      (rowIndex? row = some (Json.ofInt (before + k + 1 : Nat)) ↔
        (firstIndex start + .ofNat k).toNat = before + k + 1) := by
    intro k row hrow
    rw [s.rowIndex?_apply hnumbered rows start hrow, Option.some_inj, ofUInt64_eq_iff]
  generalize s.apply (rows.map Row.toJson) start = data at hindex
  constructor
  · intro h
    by_cases hempty : data = []
    · exact .inl hempty
    right
    have hpos : 0 < data.length := List.length_pos_iff.2 hempty
    have hcounted : ∀ k < data.length,
        (firstIndex start + .ofNat k).toNat = before + k + 1 := fun k hk =>
      (hindex k data[k] (List.getElem?_eq_getElem hk)).1
        (h k data[k] (List.getElem?_eq_getElem hk))
    -- the first row tells what the rows were shaped with, the last one that there is room for all
    have hfirst : start.toNat = before := by
      have hzero := hcounted 0 hpos
      rw [(toNat_firstIndex_add_iff hstart 0).2 hstart] at hzero
      omega
    subst hfirst
    have hlast := (toNat_firstIndex_add_iff hstart _).1 (hcounted (data.length - 1) (by omega))
    exact ⟨rfl, by omega⟩
  · rintro (hempty | ⟨rfl, hroom⟩) k row hrow
    · rw [hempty] at hrow
      cases hrow
    · have hk : k < data.length := (List.getElem?_eq_some_iff.1 hrow).1
      exact (hindex k row hrow).2 ((toNat_firstIndex_add_iff hstart k).2 (by omega))

end RowShape

end ServerGrid
