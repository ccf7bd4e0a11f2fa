import ServerGrid.Proofs.Query.Windows
import ServerGrid.Proofs.Response.Rows

/-!
# Rows by position

Shaping a page maps its rows one by one, and the number that a row gets is counted from the start of
the page. The shape that leaves rows as they are is not treated in a way of its own
(`apply_eq_applyFrom`). Main statement: `apply_eq_mapIdx`, with what follows for parts of a page.
-/

namespace ServerGrid.RowShape

/-! ## The plain shape -/

theorem isPlain_iff {s : RowShape} : s.isPlain = true ↔ s = plain := by
  obtain ⟨added, edited, removed, rowId, numbered⟩ := s
  simp [isPlain, plain, and_assoc]

/-- None of the steps does anything. -/
theorem applyRow_plain (row : Json) (index : UInt64) : plain.applyRow row index = row := by
  cases row <;> rfl

theorem applyFrom_plain (rows : List Json) :
    ∀ index : UInt64, plain.applyFrom index rows = rows := by
  induction rows with
  | nil => exact fun _ => rfl
  | cons row rest ih =>
    intro index
    rw [applyFrom, applyRow_plain, ih]

/-- Rows of the plain shape are those of the general way. -/
theorem apply_eq_applyFrom (s : RowShape) (rows : List Json) (start : UInt64) :
    s.apply rows start = s.applyFrom (firstIndex start) rows := by
  unfold apply
  split
  · next hplain =>
    obtain rfl := isPlain_iff.1 hplain
    exact (applyFrom_plain rows _).symm
  · rfl

/-! ## Numbers that count on -/

section Room

variable {start : UInt64}

theorem firstIndex_eq (h : start.toNat + 1 < UInt64.size) : firstIndex start = start + 1 :=
  if_pos h

theorem firstIndex_add_ofNat (h : start.toNat + 1 < UInt64.size) (k : Nat) :
    firstIndex start + .ofNat k = start + .ofNat k + 1 := by
  rw [firstIndex_eq h, UInt64.add_assoc, UInt64.add_comm 1, UInt64.add_assoc]

theorem toNat_add_ofNat {k : Nat} (h : start.toNat + k < UInt64.size) :
    (start + .ofNat k).toNat = start.toNat + k := by
  have hsize : UInt64.size = 2 ^ 64 := rfl
  rw [UInt64.toNat_add, UInt64.toNat_ofNat', Nat.mod_eq_of_lt (a := k) (by omega)]
  exact Nat.mod_eq_of_lt h

end Room

/-! ## Parts of a page -/

theorem length_applyFrom (s : RowShape) (rows : List Json) :
    ∀ index : UInt64, (s.applyFrom index rows).length = rows.length := by
  induction rows with
  | nil => exact fun _ => rfl
  | cons row rest ih =>
    intro index
    rw [applyFrom, List.length_cons, ih, List.length_cons]

theorem applyFrom_append (s : RowShape) (front back : List Json) : ∀ index : UInt64,
    s.applyFrom index (front ++ back) =
      s.applyFrom index front ++ s.applyFrom (index + .ofNat front.length) back := by
  induction front with
  | nil =>
    intro index
    have hsame : index + .ofNat 0 = index := UInt64.add_zero index
    rw [List.nil_append, List.length_nil, hsame, applyFrom, List.nil_append]
  | cons row rest ih =>
    intro index
    rw [List.cons_append, applyFrom, ih, add_one_add_ofNat, applyFrom, List.cons_append,
      List.length_cons]

/-- **Rows are shaped by their position.** A page is shaped row by row, each row with the number
after the start and the rows before it. No number overflows, and neither does the one that would
come next; rows that are no objects stay as they are. The parts of a page are shaped as pages of
their own, the later one from where the earlier one ends, and the plain shape leaves rows as the
general way would. A page of a request has room for fewer than `2 ^ 63` rows. -/
theorem apply_eq_mapIdx (s : RowShape) (rows : List Json) :
    (rows.length < 2 ^ 63 → ∀ first length : Option Int64,
      (Page.ofRequest first length).offset.toNat + rows.length + 1 < UInt64.size) ∧
    ∀ start : UInt64, start.toNat + rows.length + 1 < UInt64.size →
      (s.apply rows start).length = rows.length ∧
      (∀ k ≤ rows.length, (start + .ofNat k).toNat = start.toNat + k ∧
        (start + .ofNat k + 1).toNat = start.toNat + k + 1) ∧
      s.apply rows start =
        rows.mapIdx (fun k row => s.applyRow row (start + .ofNat k + 1)) ∧
      (∀ (k : Nat) (row : Json), rows[k]? = some row → (∀ fields, row ≠ .object fields) →
        (s.apply rows start)[k]? = some row) ∧
      (∀ front back, rows = front ++ back → s.apply rows start =
        s.apply front start ++ s.apply back (start + .ofNat front.length)) ∧
      (s.isPlain = true → s.apply rows start = rows ∧
        rows.mapIdx (fun k row => s.applyRow row (start + .ofNat k + 1)) = rows) := by
  refine ⟨fun hrows first length => ?_, fun start hroom => ?_⟩
  · have hoffset := Page.toNat_offset_lt first length
    have hsize : UInt64.size = 2 ^ 64 := rfl
    omega
  · have hstart : start.toNat + 1 < UInt64.size := by omega
    have hget : ∀ k, (s.apply rows start)[k]? =
        rows[k]?.map (s.applyRow · (start + .ofNat k + 1)) := by
      intro k
      rw [apply_eq_applyFrom, getElem?_applyFrom, firstIndex_add_ofNat hstart]
    have hmap : s.apply rows start =
        rows.mapIdx (fun k row => s.applyRow row (start + .ofNat k + 1)) := by
      apply List.ext_getElem?
      intro k
      rw [hget, List.getElem?_mapIdx]
    refine ⟨?length, fun k hk => ?numbers, hmap, fun k row hrow hother => ?others,
      fun front back hrows => ?parts, fun hplain => ?plain⟩
    case length => rw [apply_eq_applyFrom, length_applyFrom]
    case numbers =>
      refine ⟨toNat_add_ofNat (by omega), ?_⟩
      rw [← firstIndex_add_ofNat hstart]
      exact (toNat_firstIndex_add_iff hstart k).2 (by omega)
    case others =>
      rw [hget, hrow, Option.map_some]
      cases row with
      | object fields => exact absurd rfl (hother fields)
      | _ => rfl
    case parts =>
      subst hrows
      rw [List.length_append] at hroom
      have hlater : (start + .ofNat front.length).toNat + 1 < UInt64.size := by
        rw [toNat_add_ofNat (by omega)]
        omega
      rw [apply_eq_applyFrom, apply_eq_applyFrom, apply_eq_applyFrom, applyFrom_append,
        firstIndex_add_ofNat hstart, firstIndex_eq hlater]
    case plain =>
      have hrows : s.apply rows start = rows := if_pos hplain
      exact ⟨hrows, hmap.symm.trans hrows⟩

/-- Objects and a number, at the last start after which there is room for three rows; no page of a
request starts that late. -/
theorem apply_eq_mapIdx_lastPlace :
    let s := (plain.addColumn "link" (.computed id) (some 0)).numberRows
    let rows : List Json := [.object [("id", .ofInt 7)], .ofInt 8, .object []]
    let start : UInt64 := 18446744073709551611
    (Page.ofRequest (some Int64.maxValue) none).offset.toNat + rows.length + 1 < UInt64.size ∧
      start.toNat + rows.length + 1 < UInt64.size ∧ (s.apply rows start).length = 3 ∧
      (s.apply rows start)[1]? = some (.ofInt 8) ∧
      (s.apply rows start)[2]? =
        some (.object [("link", .object []), ("DT_RowIndex", .ofInt 18446744073709551614)]) := by
  intro s rows start
  have hroom : start.toNat + rows.length + 1 < UInt64.size := by decide
  obtain ⟨hpage, happly⟩ := apply_eq_mapIdx s rows
  obtain ⟨hlength, -, hmap, hothers, -, -⟩ := happly start hroom
  refine ⟨hpage (by decide) _ _, hroom, hlength, hothers 1 _ rfl nofun, ?_⟩
  rw [hmap, List.getElem?_mapIdx]
  decide

end ServerGrid.RowShape
