import ServerGrid.Json.Record

/-!
# Reading back what was written

Readers undo their encoders: numbers of either sign, lists, and absent values written as `null`. A
field is read back from an object whose look-up finds its encoding (`required?_of_get?`), and an
optional one also when the look-up finds nothing (`optional?_of_get?`).
-/

namespace ServerGrid.Json

theorem toUInt64?_ofUInt64 (n : UInt64) : toUInt64? (ofUInt64 n) = some n := by
  have hrange : 0 ≤ (n.toNat : Int) ∧ (n.toNat : Int).toNat < UInt64.size :=
    ⟨Int.natCast_nonneg _, n.toNat_lt⟩
  change (if _ then _ else _) = _
  rw [if_pos hrange, Int.toNat_natCast, UInt64.ofNat_toNat]

theorem toInt64?_ofInt (n : Int64) : toInt64? (ofInt n.toInt) = some n := by
  have hrange : Int64.minValue.toInt ≤ n.toInt ∧ n.toInt ≤ Int64.maxValue.toInt :=
    ⟨n.minValue_le_toInt, n.toInt_le⟩
  change (if _ then _ else _) = _
  rw [if_pos hrange, Int64.ofInt_toInt]

section

variable {α : Type} {fields : Keyed Json} {name : String} {o : Option α}

theorem toList?_map (item : Json → Option α) (encode : α → Json)
    (h : ∀ x, item (encode x) = some x) (xs : List α) :
    toList? item (.array (xs.map encode)) = some xs := by
  change (xs.map encode).mapM item = some xs
  induction xs with
  | nil => rfl
  | cons x rest ih => rw [List.map_cons, List.mapM_cons, h, ih]; rfl

theorem toOption?_of_ne_null (read : Json → Option α) {j : Json} (h : j ≠ .null) :
    toOption? read j = (read j).map some := by
  cases j with
  | null => exact absurd rfl h
  | _ => rfl

theorem required?_of_get? (read : Json → Option α) {j : Json} {x : α}
    (hget : fields.get? name = some j) (hread : read j = some x) :
    required? fields name read = some x := by
  rw [required?, hget]
  exact hread

/-- An absent value that is written as `null`. -/
theorem toOption?_ofOption (read : Json → Option α) {encode : α → Json}
    (h : ∀ x, encode x ≠ .null ∧ read (encode x) = some x) (o : Option α) :
    toOption? read (ofOption encode o) = some o := by
  cases o with
  | none => rfl
  | some x =>
    obtain ⟨hnull, hread⟩ := h x
    exact (toOption?_of_ne_null read hnull).trans (congrArg (Option.map some) hread)

/-- An optional field that is left out when it is absent. -/
theorem optional?_of_get? (read : Json → Option α) {encode : α → Json}
    (hget : fields.get? name = o.map encode)
    (hread : ∀ x ∈ o, encode x ≠ .null ∧ read (encode x) = some x) :
    field? fields name (toOption? read) none = some o := by
  unfold field?
  cases o with
  | none => rw [hget]; rfl
  | some x =>
    obtain ⟨hnull, hx⟩ := hread x rfl
    rw [hget]
    exact (toOption?_of_ne_null read hnull).trans (congrArg (Option.map some) hx)

end

theorem toOption?_string (o : Option String) : toOption? toString? (ofOption .string o) = some o :=
  toOption?_ofOption toString? (fun s => ⟨by simp, rfl⟩) o

theorem toOption?_signed (o : Option Int64) :
    toOption? toInt64? (ofOption (fun n => ofInt n.toInt) o) = some o :=
  toOption?_ofOption toInt64? (fun n => ⟨by simp [ofInt], toInt64?_ofInt n⟩) o

end ServerGrid.Json
