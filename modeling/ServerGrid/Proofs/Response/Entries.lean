import Mathlib.Data.List.Nodup
import ServerGrid.Keyed

/-!
# Entries that stay

Setting, erasing and inserting an entry change nothing about the entries with other keys, neither
their values nor their order. `Reworks` is any sequence of these three at certain keys. Main
statements: `Reworks.nodup`, distinct keys stay distinct, and `Reworks.filter_eq`, what stands at
the other keys is the same before and after.
-/

namespace ServerGrid

namespace Keyed

variable {α : Type}

/-! ## Insertion at a position -/

/-- A position is that of an entry, or it is past the end. -/
theorem position_cases (entries : Keyed α) (position : Option Nat) :
    (∃ p, position = some p ∧ p < entries.length) ∨
      ∀ p, position = some p → entries.length ≤ p := by
  cases position with
  | none => exact .inr nofun
  | some p =>
    by_cases hp : p < entries.length
    · exact .inl ⟨p, rfl, hp⟩
    · exact .inr fun q hq => Option.some.inj hq ▸ Nat.not_lt.1 hp

theorem insertAt_of_lt (entries : Keyed α) (key : String) (value : α) {p : Nat}
    (hp : p < entries.length) : insertAt entries key value (some p) =
      erase (entries.take p) key ++ (key, value) :: erase (entries.drop p) key :=
  if_pos hp

theorem insertAt_eq_set {entries : Keyed α} {position : Option Nat}
    (h : ∀ p, position = some p → entries.length ≤ p) (key : String) (value : α) :
    insertAt entries key value position = set entries key value := by
  cases position with
  | none => rfl
  | some p => exact if_neg (Nat.not_lt.2 (h p rfl))

/-- The key stands between the others, those before the position in front of it. -/
theorem keys_insertAt_of_lt (entries : Keyed α) (key : String) (value : α) {p : Nat}
    (hp : p < entries.length) : keys (insertAt entries key value (some p)) =
      ((keys entries).take p).filter (· != key) ++
        key :: ((keys entries).drop p).filter (· != key) := by
  have htake : keys (entries.take p) = (keys entries).take p := List.map_take
  have hdrop : keys (entries.drop p) = (keys entries).drop p := List.map_drop
  have happend : ∀ a b : Keyed α, keys (a ++ (key, value) :: b) = keys a ++ key :: keys b :=
    fun a b => List.map_append
  rw [insertAt_of_lt entries key value hp, happend, keys_erase, keys_erase, htake, hdrop]

theorem get?_insertAt_self (entries : Keyed α) (key : String) (value : α)
    (position : Option Nat) : get? (insertAt entries key value position) key = some value := by
  rcases position_cases entries position with ⟨p, rfl, hp⟩ | hend
  · rw [insertAt_of_lt entries key value hp, get?_append, get?_erase, if_pos rfl, get?, if_pos rfl]
    rfl
  · rw [insertAt_eq_set hend, get?_set, if_pos rfl]

theorem mem_keys_insertAt_self (entries : Keyed α) (key : String) (value : α)
    (position : Option Nat) : key ∈ keys (insertAt entries key value position) := by
  by_contra hmem
  have hget := get?_insertAt_self entries key value position
  rw [get?_of_not_mem hmem] at hget
  cases hget

theorem nodup_keys_erase {entries : Keyed α} (h : (keys entries).Nodup) (key : String) :
    (keys (erase entries key)).Nodup := by
  rw [keys_erase]
  exact h.filter _

theorem nodup_keys_insertAt {entries : Keyed α} (h : (keys entries).Nodup) (key : String)
    (value : α) (position : Option Nat) : (keys (insertAt entries key value position)).Nodup := by
  rcases position_cases entries position with ⟨p, rfl, hp⟩ | hend
  · rw [keys_insertAt_of_lt entries key value hp, List.nodup_middle, List.nodup_cons,
      ← List.filter_append, List.take_append_drop]
    exact ⟨by simp, h.filter _⟩
  · rw [insertAt_eq_set hend]
    exact nodup_keys_set h key value

/-! ## Entries that are left alone -/

section Untouched

variable (keep : String → Bool) {key : String} (h : keep key = false)
include h

theorem filter_set (entries : Keyed α) (value : α) :
    (set entries key value).filter (keep ·.1) = entries.filter (keep ·.1) := by
  induction entries with
  | nil => simp [set, h]
  | cons entry rest ih =>
    obtain ⟨k, v⟩ := entry
    by_cases hk : k = key
    · subst hk
      simp [set, h]
    · simp [set, hk, List.filter_cons, ih]

theorem filter_erase (entries : Keyed α) :
    (erase entries key).filter (keep ·.1) = entries.filter (keep ·.1) := by
  rw [erase_eq_filter, List.filter_filter]
  refine List.filter_congr fun entry _ => ?_
  by_cases hk : entry.1 = key
  · rw [hk, h, Bool.false_and]
  · rw [bne_iff_ne.2 hk, Bool.and_true]

theorem filter_insertAt (entries : Keyed α) (value : α) (position : Option Nat) :
    (insertAt entries key value position).filter (keep ·.1) = entries.filter (keep ·.1) := by
  rcases position_cases entries position with ⟨p, rfl, hp⟩ | hend
  · have hmiddle : ∀ a b : Keyed α, (a ++ (key, value) :: b).filter (keep ·.1) =
        a.filter (keep ·.1) ++ b.filter (keep ·.1) := by
      intro a b
      simp [h]
    rw [insertAt_of_lt entries key value hp, hmiddle, filter_erase keep h, filter_erase keep h,
      ← List.filter_append, List.take_append_drop]
  · rw [insertAt_eq_set hend, filter_set keep h]

end Untouched

/-! ## Any number of changes -/

/-- What a map becomes when entries are set, erased and inserted at the keys in question. -/
inductive Reworks (touched : String → Bool) (before : Keyed α) : Keyed α → Prop
  | refl : Reworks touched before before
  | set {entries : Keyed α} (h : Reworks touched before entries) {key : String}
      (hkey : touched key = true) (value : α) : Reworks touched before (entries.set key value)
  | erase {entries : Keyed α} (h : Reworks touched before entries) {key : String}
      (hkey : touched key = true) : Reworks touched before (entries.erase key)
  | insertAt {entries : Keyed α} (h : Reworks touched before entries) {key : String}
      (hkey : touched key = true) (value : α) (position : Option Nat) :
      Reworks touched before (entries.insertAt key value position)

namespace Reworks

variable {touched : String → Bool} {before after : Keyed α} (h : Reworks touched before after)
include h

theorem nodup (hbefore : (keys before).Nodup) : (keys after).Nodup := by
  induction h with
  | refl => exact hbefore
  | set _ _ value ih => exact nodup_keys_set ih _ value
  | erase _ _ ih => exact nodup_keys_erase ih _
  | insertAt _ _ value position ih => exact nodup_keys_insertAt ih _ value position

theorem filter_eq : after.filter (!touched ·.1) = before.filter (!touched ·.1) := by
  have hkeep : ∀ {key : String}, touched key = true → (!touched key) = false := by
    intro key hkey
    rw [hkey, Bool.not_true]
  induction h with
  | refl => rfl
  | set _ hkey value ih => rw [filter_set (!touched ·) (hkeep hkey), ih]
  | erase _ hkey ih => rw [filter_erase (!touched ·) (hkeep hkey), ih]
  | insertAt _ hkey value position ih =>
    rw [filter_insertAt (!touched ·) (hkeep hkey), ih]

end Reworks

end Keyed

end ServerGrid
