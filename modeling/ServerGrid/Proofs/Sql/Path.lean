import ServerGrid.Dialect
import ServerGrid.Proofs.Text.Cutting

/-!
# Reading back a dotted path

A path is a list of names with dots between them, each name quoted or a bare `*`. `Path.lex` reads a
text that is a path from front to end. Main statement: `lex_chars`, reading takes back the names
that were written, so that paths are equal when their texts are (`chars_inj`).
-/

namespace ServerGrid

namespace Path

/-- A name along a path. -/
def itemChars (quote : Char) (name : String) : List Char :=
  if name = "*" then ['*'] else Identifier.encode quote name.toList

/-- Names with dots between them. -/
def chars (quote : Char) : List String → List Char
  | [] => []
  | [name] => itemChars quote name
  | name :: next :: rest => itemChars quote name ++ '.' :: chars quote (next :: rest)

/-- Read one name from the front of a text: the name and what follows it. -/
def lexItem (quote : Char) (text : List Char) : Option (String × List Char) :=
  match text with
  | '*' :: after => some ("*", after)
  | _ => (Identifier.decode quote text).map fun (name, after) => (.ofList name, after)

/-! ## One name -/

theorem length_lt_of_decodeBody {quote : Char} : ∀ {text name after : List Char},
    Identifier.decodeBody quote text = some (name, after) → after.length < text.length
  | [c], name, after, h => by
    unfold Identifier.decodeBody at h
    split at h
    · cases h
      exact Nat.zero_lt_one
    · cases h
  | c :: d :: rest, name, after, h => by
    unfold Identifier.decodeBody at h
    split at h
    · split at h
      · obtain ⟨⟨name', after'⟩, hrest, heq⟩ := Option.map_eq_some_iff.1 h
        cases heq
        have hlt := length_lt_of_decodeBody hrest
        simp only [List.length_cons]
        omega
      · cases h
        simp
    · obtain ⟨⟨name', after'⟩, hrest, heq⟩ := Option.map_eq_some_iff.1 h
      cases heq
      have hlt := length_lt_of_decodeBody hrest
      simp only [List.length_cons] at hlt ⊢
      omega

theorem length_lt_of_lexItem {quote : Char} {text : List Char} {name : String} {after : List Char}
    (h : lexItem quote text = some (name, after)) : after.length < text.length := by
  unfold lexItem at h
  split at h
  · cases h
    simp
  · obtain ⟨⟨name', after'⟩, hdecode, heq⟩ := Option.map_eq_some_iff.1 h
    cases heq
    cases text with
    | nil => cases hdecode
    | cons c rest =>
      change (if c = quote then _ else none) = _ at hdecode
      split at hdecode
      · exact Nat.lt_succ_of_lt (length_lt_of_decodeBody hdecode)
      · cases hdecode

/-- Reading a name takes back what was written, whatever follows but a quote character. -/
theorem lexItem_itemChars {quote : Char} (hstar : quote ≠ '*') (name : String) {after : List Char}
    (hafter : after.head? ≠ some quote) :
    lexItem quote (itemChars quote name ++ after) = some (name, after) := by
  unfold itemChars
  split
  · next hname =>
    subst hname
    rfl
  · have hdecode := Identifier.decode_encode quote name.toList after hafter
    unfold lexItem
    split
    · next rest heq =>
      exact absurd (List.cons.inj heq).1 hstar
    · rw [hdecode, Option.map_some]
      simp only [String.ofList_toList]

/-! ## Whole paths -/

/-- Read a text that is a path: names with dots between them, and nothing left over. -/
def lex (quote : Char) (text : List Char) : Option (List String) :=
  match _hitem : lexItem quote text with
  | none => none
  | some (name, []) => some [name]
  | some (name, c :: rest) => if c = '.' then (lex quote rest).map (name :: ·) else none
termination_by text.length
decreasing_by
  have hlt := length_lt_of_lexItem _hitem
  simp only [List.length_cons] at hlt
  omega

theorem lex_chars {quote : Char} (hstar : quote ≠ '*') (hdot : quote ≠ '.') :
    ∀ {names : List String}, names ≠ [] → lex quote (chars quote names) = some names
  | [], h => absurd rfl h
  | [name], _ => by
    have hitem : lexItem quote (itemChars quote name) = some (name, []) := by
      have hafter : ([] : List Char).head? ≠ some quote := nofun
      have h := lexItem_itemChars hstar name hafter
      rwa [List.append_nil] at h
    rw [lex, chars]
    split
    · next hnone => cases hitem.symm.trans hnone
    · next hsome => cases hitem.symm.trans hsome; rfl
    · next hsome => cases hitem.symm.trans hsome
  | name :: next :: rest, _ => by
    have hafter : ('.' :: chars quote (next :: rest)).head? ≠ some quote := fun h =>
      hdot (Option.some.inj h).symm
    have hitem := lexItem_itemChars hstar name hafter
    have hrest := lex_chars hstar hdot (List.cons_ne_nil next rest)
    rw [lex, chars]
    split
    · next hnone => cases hitem.symm.trans hnone
    · next hsome => cases hitem.symm.trans hsome
    · next hsome =>
      cases hitem.symm.trans hsome
      rw [if_pos rfl, hrest]
      rfl

theorem chars_inj {quote : Char} (hstar : quote ≠ '*') (hdot : quote ≠ '.') {a b : List String}
    (ha : a ≠ []) (hb : b ≠ []) : chars quote a = chars quote b ↔ a = b := by
  constructor
  · intro h
    have hlex := lex_chars hstar hdot ha
    rw [h, lex_chars hstar hdot hb] at hlex
    exact (Option.some.inj hlex).symm
  · rintro rfl
    rfl

/-! ## The paths of a dialect -/

theorem chars_concat (quote : Char) (last : String) : ∀ {names : List String}, names ≠ [] →
    chars quote (names ++ [last]) = chars quote names ++ '.' :: itemChars quote last
  | [], h => absurd rfl h
  | [_], _ => rfl
  | name :: next :: rest, _ => by
    have hrest := chars_concat quote last (List.cons_ne_nil next rest)
    rw [List.cons_append, List.cons_append, chars, ← List.cons_append, hrest, chars]
    simp

theorem head?_chars {quote : Char} : ∀ {names : List String}, names ≠ [] →
    (chars quote names).head? = some '*' ∨ (chars quote names).head? = some quote
  | [], h => absurd rfl h
  | [name], _ => by
    rw [chars, itemChars]
    split
    · exact .inl rfl
    · exact .inr rfl
  | name :: next :: rest, _ => by
    rw [chars, itemChars]
    split
    · exact .inl rfl
    · exact .inr rfl

theorem chars_eq_toList_join (quote : Char) : ∀ names : List String,
    chars quote names =
      (Text.join "." (names.map fun name => .ofList (itemChars quote name))).toList
  | [] => rfl
  | [name] => by
    rw [List.map_singleton, Text.join, String.toList_ofList]
    rfl
  | name :: next :: rest => by
    have hrest := chars_eq_toList_join quote (next :: rest)
    rw [chars, hrest]
    simp [Text.join]

end Path

namespace Dialect

variable (d : Dialect)

theorem quote_ne_star : d.templates.quote ≠ '*' := by
  cases d <;> decide

theorem quote_ne_dot : d.templates.quote ≠ '.' := by
  cases d <;> decide

/-- The names along a dotted path. -/
def pathNames (path : String) : List String := (Text.segments '.' path).map Text.trim

theorem pathNames_ne_nil (path : String) : pathNames path ≠ [] := by
  simp [pathNames, Text.segments, Text.segmentsList_ne_nil]

theorem quoteIdentifier_eq (name : String) :
    d.quoteIdentifier name = .ofList (Path.itemChars d.templates.quote name) := by
  unfold quoteIdentifier Path.itemChars
  split
  · next hname =>
    subst hname
    rfl
  · rfl

theorem toList_quotePath (path : String) :
    (d.quotePath path).toList = Path.chars d.templates.quote (pathNames path) := by
  rw [Path.chars_eq_toList_join, quotePath, pathNames, List.map_map]
  simp only [quoteIdentifier_eq]
  rfl

end Dialect

end ServerGrid
