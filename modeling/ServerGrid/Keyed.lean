/-!
# Insertion-ordered maps with text keys

An entry list in which `set` overwrites a present key in its place and appends a new one. Main
statements: `get?_set`, `get?_erase` and `get?_append` say what each operation does to the look-up,
`keys_set` and `keys_erase` what it does to the keys, and `nodup_keys_set` that distinct keys stay
distinct.
-/

namespace ServerGrid

/-- Entries in insertion order. -/
abbrev Keyed (α : Type) := List (String × α)

namespace Keyed

variable {α : Type}

/-- The value of the first entry with the key. -/
def get? (entries : Keyed α) (key : String) : Option α :=
  match entries with
  | [] => none
  | (k, v) :: rest => if k = key then some v else get? rest key

/-- Overwrite the entry with the key in its place, or append one. -/
def set (entries : Keyed α) (key : String) (value : α) : Keyed α :=
  match entries with
  | [] => [(key, value)]
  | (k, v) :: rest => if k = key then (key, value) :: rest else (k, v) :: set rest key value

/-- Drop the entries with the key; the others keep their order. -/
def erase (entries : Keyed α) (key : String) : Keyed α :=
  match entries with
  | [] => []
  | (k, v) :: rest => if k = key then erase rest key else (k, v) :: erase rest key

/-- The keys in order. -/
def keys (entries : Keyed α) : List String :=
  entries.map (·.1)

/-- Whether some entry has the key. -/
def hasKey (entries : Keyed α) (key : String) : Bool :=
  (get? entries key).isSome

/-- The map that arises by setting the given pairs in order. -/
def ofList (pairs : List (String × α)) : Keyed α :=
  pairs.foldl (fun entries (key, value) => set entries key value) []

/-- Put an entry at `position` among the entries; an older one with the key goes away. A position
past the end overwrites in place or appends. -/
def insertAt (entries : Keyed α) (key : String) (value : α) (position : Option Nat) : Keyed α :=
  match position with
  | some p =>
    if p < entries.length then
      erase (entries.take p) key ++ (key, value) :: erase (entries.drop p) key
    else set entries key value
  | none => set entries key value

/-! ## What the operations do to the look-up -/

@[simp] theorem get?_nil (key : String) : get? ([] : Keyed α) key = none := rfl

theorem get?_set (entries : Keyed α) (key : String) (value : α) (key' : String) :
    get? (set entries key value) key' = if key = key' then some value else get? entries key' := by
  induction entries with
  | nil => by_cases h : key = key' <;> simp [set, get?, h]
  | cons entry rest ih =>
    obtain ⟨k, v⟩ := entry
    by_cases hk : k = key
    · subst hk
      by_cases h : k = key' <;> simp [set, get?, h]
    · by_cases h : k = key'
      · subst h
        simp [set, get?, hk, Ne.symm hk]
      · simp [set, get?, hk, h, ih]

theorem get?_erase (entries : Keyed α) (key key' : String) :
    get? (erase entries key) key' = if key = key' then none else get? entries key' := by
  induction entries with
  | nil => simp [erase]
  | cons entry rest ih =>
    obtain ⟨k, v⟩ := entry
    by_cases hk : k = key
    · subst hk
      by_cases h : k = key'
      · subst h
        simpa [erase] using ih
      · simp [erase, ih, get?, h]
    · by_cases h : k = key'
      · subst h
        simp [erase, get?, hk, Ne.symm hk]
      · simp [erase, get?, hk, h, ih]

/-! ## What the operations do to the keys -/

theorem keys_set (entries : Keyed α) (key : String) (value : α) :
    keys (set entries key value) =
      if key ∈ keys entries then keys entries else keys entries ++ [key] := by
  induction entries with
  | nil => simp [set, keys]
  | cons entry rest ih =>
    obtain ⟨k, v⟩ := entry
    by_cases hk : k = key
    · subst hk
      simp [set, keys]
    · have hk' : key ≠ k := Ne.symm hk
      have hc : keys ((k, v) :: rest) = k :: keys rest := rfl
      have hs : keys (set ((k, v) :: rest) key value) = k :: keys (set rest key value) := by
        simp [set, hk, keys]
      rw [hs, hc, ih]
      by_cases h : key ∈ keys rest <;> simp [h, hk']

theorem nodup_keys_set {entries : Keyed α} (h : (keys entries).Nodup) (key : String) (value : α) :
    (keys (set entries key value)).Nodup := by
  rw [keys_set]
  split
  · exact h
  · rename_i hk
    rw [List.nodup_append]
    refine ⟨h, by simp, fun a ha b hb => ?_⟩
    rw [List.mem_singleton] at hb
    subst hb
    rintro rfl
    exact hk ha

theorem erase_eq_filter (entries : Keyed α) (key : String) :
    erase entries key = entries.filter (·.1 != key) := by
  induction entries with
  | nil => rfl
  | cons entry rest ih =>
    obtain ⟨k, v⟩ := entry
    by_cases h : k = key <;> simp [erase, h, ih]

theorem keys_erase (entries : Keyed α) (key : String) :
    keys (erase entries key) = (keys entries).filter (· != key) := by
  rw [erase_eq_filter, keys, keys, List.filter_map]
  rfl

/-! ## Entries of one map after those of another -/

theorem get?_append (first second : Keyed α) (key : String) :
    get? (first ++ second) key = (get? first key).or (get? second key) := by
  induction first with
  | nil => rfl
  | cons entry rest ih =>
    obtain ⟨k, v⟩ := entry
    by_cases h : k = key <;> simp [get?, h, ih]

theorem get?_of_not_mem {entries : Keyed α} {key : String} (h : key ∉ keys entries) :
    get? entries key = none := by
  induction entries with
  | nil => rfl
  | cons entry rest ih =>
    obtain ⟨k, v⟩ := entry
    rw [keys, List.map_cons, List.mem_cons, not_or] at h
    rw [get?, if_neg (Ne.symm h.1), ih h.2]

/-! ## Maps of pairs -/

theorem mem_keys_set {entries : Keyed α} {key key' : String} {value : α} :
    key' ∈ keys (set entries key value) ↔ key' ∈ keys entries ∨ key' = key := by
  rw [keys_set]
  split
  · next h => exact ⟨.inl, fun hkey => hkey.elim id fun e => e ▸ h⟩
  · rw [List.mem_append, List.mem_singleton]

theorem nodup_keys_ofList (pairs : List (String × α)) : (keys (ofList pairs)).Nodup := by
  have hfold : ∀ entries : Keyed α, (keys entries).Nodup →
      (keys (pairs.foldl (fun entries (k, v) => set entries k v) entries)).Nodup := by
    induction pairs with
    | nil => exact fun _ h => h
    | cons pair rest ih => exact fun _ h => ih _ (nodup_keys_set h pair.1 pair.2)
  exact hfold [] List.nodup_nil

theorem mem_keys_ofList {pairs : List (String × α)} {key : String} :
    key ∈ keys (ofList pairs) ↔ ∃ pair ∈ pairs, pair.1 = key := by
  have hfold : ∀ entries : Keyed α,
      key ∈ keys (pairs.foldl (fun entries (k, v) => set entries k v) entries) ↔
        key ∈ keys entries ∨ ∃ pair ∈ pairs, pair.1 = key := by
    induction pairs with
    | nil => simp
    | cons pair rest ih =>
      intro entries
      rw [List.foldl_cons, ih, mem_keys_set, or_assoc]
      simp [eq_comm]
  exact (hfold []).trans (by simp [keys])

end Keyed

end ServerGrid
