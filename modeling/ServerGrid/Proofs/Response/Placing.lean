import ServerGrid.Proofs.Response.Shapes

/-!
# Columns at a place

A column that is added to a row goes to a position among its keys, or to the end. The other keys
stay as they are and the name is there once, with the new value (`inserted_insertAt`). Main
statement: `putAt_addColumn_iff`, the column is where it was asked exactly when the row had none of
its name before that place. One that it had further on is taken along, but one before the place
leaves a gap that the others move up to, and past the end it is overwritten where it is.
-/

namespace ServerGrid

namespace Keyed

variable {α : Type}

/-! ## Where the key is afterwards -/

/-- The key is there once with the value, and the other entries are as they were, in their order. -/
structure Inserted (before after : Keyed α) (key : String) (value : α) : Prop where
  once : (keys after).count key = 1
  value : get? after key = some value
  others : after.filter (·.1 != key) = before.filter (·.1 != key)

/-- The key is where it was asked: at the position when some entry stood there, and else last. -/
structure PutAt (before after : Keyed α) (key : String) (value : α) (position : Option Nat) : Prop
    extends Inserted before after key value where
  at_position : ∀ p, position = some p → p < before.length → (keys after)[p]? = some key
  at_end : (∀ p, position = some p → before.length ≤ p) → (keys after).getLast? = some key

/-- The place among `count` entries that a position asks for; the last one when it is past the
end. -/
def place (position : Option Nat) (count : Nat) : Nat :=
  match position with
  | some p => min p (count - 1)
  | none => count - 1

section Place

variable {entries : Keyed α} (h : (keys entries).Nodup) (key : String) (value : α)
include h

theorem inserted_insertAt (position : Option Nat) :
    Inserted entries (insertAt entries key value position) key value where
  once := List.count_eq_one_of_mem (nodup_keys_insertAt h key value position)
    (mem_keys_insertAt_self entries key value position)
  value := get?_insertAt_self entries key value position
  others := filter_insertAt (· != key) (bne_self_eq_false key) entries value position

/-- A key from before the position leaves its place to those behind it. -/
theorem getElem?_keys_insertAt_iff {p : Nat} (hp : p < entries.length) {i : Nat} :
    (keys (insertAt entries key value (some p)))[i]? = some key ↔
      i = if key ∈ (keys entries).take p then p - 1 else p := by
  have hlength : (((keys entries).take p).filter (· != key)).length =
      if key ∈ (keys entries).take p then p - 1 else p := by
    have htake : ((keys entries).take p).length = p := by
      rw [List.length_take, keys, List.length_map, Nat.min_eq_left (Nat.le_of_lt hp)]
    have hnodup : ((keys entries).take p).Nodup := h.sublist (List.take_sublist _ _)
    rw [← hnodup.erase_eq_filter, List.length_erase, htake]
  have hkeys := keys_insertAt_of_lt entries key value hp
  have hat : (keys (insertAt entries key value (some p)))[
      (((keys entries).take p).filter (· != key)).length]? = some key := by
    rw [hkeys, List.getElem?_append_right (Nat.le_refl _), Nat.sub_self]
    rfl
  rw [← hlength]
  constructor
  · intro hi
    have hlt := (List.getElem?_eq_some_iff.1 hi).1
    exact (List.getElem?_inj hlt (nodup_keys_insertAt h key value _)).1 (hi.trans hat.symm)
  · rintro rfl
    exact hat

/-- Past the end a key that is there keeps its place. -/
theorem getElem?_keys_set_iff {i : Nat} :
    (keys (set entries key value))[i]? = some key ↔ i = (keys entries).idxOf key := by
  have hat : (keys (set entries key value))[(keys entries).idxOf key]? = some key := by
    rw [keys_set]
    split
    · next hmem => exact List.getElem?_idxOf hmem
    · next hmem => rw [List.idxOf_eq_length hmem, List.getElem?_concat_length]
  constructor
  · intro hi
    have hlt := (List.getElem?_eq_some_iff.1 hi).1
    exact (List.getElem?_inj hlt (nodup_keys_set h key value)).1 (hi.trans hat.symm)
  · rintro rfl
    exact hat

theorem getLast?_keys_set_iff : (keys (set entries key value)).getLast? = some key ↔
    key ∉ (keys entries).take (entries.length - 1) := by
  have hlength : (keys entries).length = entries.length := List.length_map _
  rw [List.getLast?_eq_getElem?, getElem?_keys_set_iff h, keys_set]
  by_cases hmem : key ∈ keys entries
  · have hlt := List.idxOf_lt_length_of_mem hmem
    rw [if_pos hmem, List.mem_take_iff_idxOf_lt hmem]
    omega
  · rw [if_neg hmem, List.idxOf_eq_length hmem, List.length_append, List.length_singleton]
    exact iff_of_true (Nat.add_sub_cancel _ 1) fun htake => hmem (List.mem_of_mem_take htake)

/-- **The key is where it was asked exactly when it was not before that place.** -/
theorem putAt_insertAt_iff (position : Option Nat) :
    PutAt entries (insertAt entries key value position) key value position ↔
      key ∉ (keys entries).take (place position entries.length) := by
  have hinserted := inserted_insertAt h key value position
  rcases position_cases entries position with ⟨p, rfl, hp⟩ | hend
  · have hplace : place (some p) entries.length = p := Nat.min_eq_left (by omega)
    have hat : (keys (insertAt entries key value (some p)))[p]? = some key ↔
        key ∉ (keys entries).take p := by
      rw [getElem?_keys_insertAt_iff h key value hp]
      split
      · next hmem =>
        have hpos : p ≠ 0 := by
          rintro rfl
          cases hmem
        exact iff_of_false (by omega) fun hnot => hnot hmem
      · next hmem => exact iff_of_true rfl hmem
    rw [hplace, ← hat]
    constructor
    · exact fun hput => hput.at_position p rfl hp
    · refine fun hput => ⟨hinserted, fun q hq _ => ?_, fun hend => ?_⟩
      · exact Option.some.inj hq ▸ hput
      · exact absurd hp (Nat.not_lt.2 (hend p rfl))
  · have hplace : place position entries.length = entries.length - 1 := by
      cases position with
      | none => rfl
      | some p =>
        have hp := hend p rfl
        exact Nat.min_eq_right (by omega)
    rw [hplace, ← getLast?_keys_set_iff h key value]
    rw [insertAt_eq_set hend] at hinserted ⊢
    constructor
    · exact fun hput => hput.at_end hend
    · exact fun hlast => ⟨hinserted, fun p hp hlt => absurd hlt (Nat.not_lt.2 (hend p hp)),
        fun _ => hlast⟩

end Place

end Keyed

namespace RowShape

theorem addAll_addColumn (s : RowShape) (name : String) (content : Content)
    (position : Option Nat) (fields : Keyed Json) :
    (s.addColumn name content position).addAll fields =
      (s.addAll fields).insertAt name (content.render (.object (s.addAll fields))) position := by
  rw [addAll, addColumn, List.foldl_concat, ← addAll]

/-- **An added column is where it was asked, unless the row had it before that place.** Whatever
columns were added before it, its name is there once with its content, and all other keys keep their
values and their order. -/
theorem putAt_addColumn_iff (s : RowShape) {fields : Keyed Json} (h : (Keyed.keys fields).Nodup)
    (name : String) (content : Content) (position : Option Nat) :
    let before := s.addAll fields
    let after := (s.addColumn name content position).addAll fields
    let value := content.render (.object before)
    Keyed.Inserted before after name value ∧
      (Keyed.PutAt before after name value position ↔
        name ∉ (Keyed.keys before).take (Keyed.place position before.length)) := by
  intro before after value
  have hnodup := s.nodup_keys_addAll h
  have hafter : after = before.insertAt name value position :=
    s.addAll_addColumn name content position fields
  rw [hafter]
  exact ⟨Keyed.inserted_insertAt hnodup name value position,
    Keyed.putAt_insertAt_iff hnodup name value position⟩

/-- A row with the columns of a person. -/
def person : Keyed Json := [("age", .ofInt 30), ("id", .ofInt 1), ("name", .string "ann")]

/-- A column that stands last is moved to the front. -/
theorem putAt_addColumn_name :
    (Keyed.keys person).Nodup ∧
      Keyed.PutAt person ((plain.addColumn "name" (.fixed .null) (some 0)).addAll person) "name"
        .null (some 0) := by
  have hnodup : (Keyed.keys person).Nodup := by decide
  have hput := plain.putAt_addColumn_iff hnodup "name" (.fixed .null) (some 0)
  exact ⟨hnodup, hput.2.2 (by decide)⟩

/-- A column that stands first is neither moved to the end nor to the last position. -/
theorem not_putAt_addColumn_age :
    (Keyed.keys person).Nodup ∧
      ¬Keyed.PutAt person ((plain.addColumn "age" (.fixed .null) none).addAll person) "age" .null
        none ∧
      ¬Keyed.PutAt person ((plain.addColumn "age" (.fixed .null) (some 2)).addAll person) "age"
        .null (some 2) := by
  refine ⟨by decide, fun hput => ?_, fun hput => ?_⟩
  · exact absurd (hput.at_end nofun) (by decide)
  · exact absurd (hput.at_position 2 rfl (by decide)) (by decide)

end RowShape

end ServerGrid
