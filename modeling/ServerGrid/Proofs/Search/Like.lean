import Mathlib.Data.List.Infix
import ServerGrid.Search.Predicate

/-!
# What LIKE accepts

`accepts_char_iff` and its like say what the first item of a pattern asks of a text, and
`accepts_chars_append_iff` what a run of given characters asks. `accepts` decides the relation by
trying every way to fill a wildcard. `items?_append` reads a pattern without escape characters, and
`Predicate.AcceptsText` is the truth of a LIKE predicate at the text of its operand.
-/

namespace ServerGrid

namespace Like

/-! ## Items -/

section Items

variable {items : List Item} {text : List Char}

@[simp] theorem accepts_nil_iff : Accepts [] text ↔ text = [] := by
  constructor
  · intro h
    cases h
    rfl
  · rintro rfl
    exact .nil

@[simp] theorem accepts_char_iff {c : Char} :
    Accepts (.char c :: items) text ↔ ∃ rest, text = c :: rest ∧ Accepts items rest := by
  constructor
  · intro h
    cases h with
    | char h => exact ⟨_, rfl, h⟩
  · rintro ⟨rest, rfl, h⟩
    exact .char h

@[simp] theorem accepts_one_iff :
    Accepts (.one :: items) text ↔ ∃ c rest, text = c :: rest ∧ Accepts items rest := by
  constructor
  · intro h
    cases h with
    | one h => exact ⟨_, _, rfl, h⟩
  · rintro ⟨c, rest, rfl, h⟩
    exact .one h

/-- A wildcard takes any beginning of the text away. -/
@[simp] theorem accepts_many_iff :
    Accepts (.many :: items) text ↔ ∃ rest, rest <:+ text ∧ Accepts items rest := by
  constructor
  · intro h
    induction text with
    | nil =>
      cases h with
      | none h => exact ⟨[], List.suffix_rfl, h⟩
    | cons c text ih =>
      cases h with
      | none h => exact ⟨c :: text, List.suffix_rfl, h⟩
      | more h =>
        obtain ⟨rest, hrest, hitems⟩ := ih h
        exact ⟨rest, hrest.trans (List.suffix_cons c text), hitems⟩
  · rintro ⟨rest, ⟨taken, rfl⟩, h⟩
    induction taken with
    | nil => exact .none h
    | cons c taken ih => exact .more ih

theorem accepts_chars_append_iff (sought : List Char) :
    Accepts (sought.map .char ++ items) text ↔
      ∃ rest, text = sought ++ rest ∧ Accepts items rest := by
  induction sought generalizing text with
  | nil => simp
  | cons c sought ih => simp [ih]

end Items

/-! ## The matcher -/

/-- Try every way to fill the wildcards. -/
def accepts : List Item → List Char → Bool
  | [], text => text.isEmpty
  | .char c :: items, text => text.head? == some c && accepts items text.tail
  | .one :: items, text => !text.isEmpty && accepts items text.tail
  | .many :: items, text => text.tails.any (accepts items)

theorem accepts_iff (items : List Item) (text : List Char) :
    accepts items text = true ↔ Accepts items text := by
  induction items generalizing text with
  | nil => simp [accepts]
  | cons item items ih =>
    cases item with
    | char c => cases text <;> simp [accepts, ih, and_assoc]
    | one => cases text <;> simp [accepts, ih]
    | many => simp [accepts, ih]

instance (items : List Item) (text : List Char) : Decidable (Accepts items text) :=
  decidable_of_iff _ (accepts_iff items text)

/-! ## Reading patterns -/

/-- A text of which LIKE reads every character as itself. -/
def Plain (text : List Char) : Prop := '\\' ∉ text ∧ '%' ∉ text ∧ '_' ∉ text

instance : DecidablePred Plain :=
  fun text => inferInstanceAs (Decidable ('\\' ∉ text ∧ '%' ∉ text ∧ '_' ∉ text))

section Reading

variable {escape : Bool} {c : Char} {rest : List Char}

theorem items?_cons (hc : c ≠ '\\') :
    items? escape (c :: rest) = (items? escape rest).map (.ofChar c :: ·) := by
  have hliteral : ¬(escape = true ∧ c = '\\') := fun h => hc h.2
  cases rest with
  | nil => simp [items?, hliteral]
  | cons d rest => rw [items?, if_neg hliteral]

theorem items?_escape :
    items? true ('\\' :: c :: rest) = (items? true rest).map (.char c :: ·) := by
  rw [items?, if_pos ⟨rfl, rfl⟩]

theorem items?_wildcard : items? escape ('%' :: rest) = (items? escape rest).map (.many :: ·) :=
  items?_cons (by decide)

/-- Without an escape character every character is read by itself. -/
theorem items?_append {text : List Char} (h : '\\' ∉ text) :
    items? escape (text ++ rest) = (items? escape rest).map (text.map .ofChar ++ ·) := by
  induction text with
  | nil => simp
  | cons c text ih =>
    rw [List.mem_cons, not_or] at h
    rw [List.cons_append, items?_cons (Ne.symm h.1), ih h.2, Option.map_map]
    rfl

theorem items?_of_not_mem {text : List Char} (h : '\\' ∉ text) :
    items? escape text = some (text.map .ofChar) := by
  have happend : items? escape (text ++ []) = _ := items?_append h
  rwa [List.append_nil, items?, Option.map_some, List.append_nil] at happend

theorem items?_concat_wildcard {text : List Char} (h : '\\' ∉ text) :
    items? escape (text ++ ['%']) = some (text.map .ofChar ++ [.many]) := by
  rw [items?_append h, items?_wildcard]
  rfl

theorem Plain.map_ofChar {text : List Char} (h : Plain text) :
    text.map Item.ofChar = text.map .char := by
  refine List.map_congr_left fun c hc => ?_
  have hpercent : c ≠ '%' := fun heq => h.2.1 (heq ▸ hc)
  have hunderscore : c ≠ '_' := fun heq => h.2.2 (heq ▸ hc)
  rw [Item.ofChar, if_neg hpercent, if_neg hunderscore]

end Reading

end Like

/-! ## Predicates -/

namespace Predicate

/-- How the pattern of a LIKE predicate is read. Without a clause of its own it depends on the
database whether a backslash escapes. -/
def likeItems? (backslash : Bool) : Predicate → Option (List Like.Item)
  | .like _ pattern escaped => Like.items? (escaped || backslash) pattern.toList
  | _ => none

/-- Whether a LIKE predicate holds when its operand has a given text. An ill-formed pattern accepts
nothing. -/
def AcceptsText (backslash : Bool) (p : Predicate) (text : String) : Prop :=
  ∃ items, p.likeItems? backslash = some items ∧ Like.Accepts items text.toList

theorem acceptsText_iff {backslash : Bool} {p : Predicate} {items : List Like.Item}
    (h : p.likeItems? backslash = some items) (text : String) :
    p.AcceptsText backslash text ↔ Like.Accepts items text.toList := by
  simp [AcceptsText, h]

instance (backslash : Bool) (p : Predicate) (text : String) :
    Decidable (p.AcceptsText backslash text) :=
  decidable_of_iff ((p.likeItems? backslash).any (Like.accepts · text.toList) = true) <| by
    cases h : p.likeItems? backslash <;> simp [AcceptsText, h, Like.accepts_iff]

end Predicate

end ServerGrid
