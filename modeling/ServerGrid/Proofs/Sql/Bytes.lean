import ServerGrid.Proofs.Sql.Placeholders

/-!
# Placeholders by bytes

Quotes and placeholders are ASCII, and every byte of another character is at least 128, so the text
can be scanned by the bytes of its UTF-8. `offsets` is what such a scan finds, and `spliceFrom`
writes numbered placeholders over it. Both agree with the scan by characters: every offset is that
of a character (`isValid_of_mem_offsets`), there is one for each placeholder (`length_offsets`), and
the spliced bytes are those of the bound text (`bytes_bindPlaceholders`).
-/

namespace ServerGrid.Unquoted

/-! ## The scan -/

/-- The bytes of a text in UTF-8. -/
def bytes (sql : String) : List UInt8 := sql.toUTF8.data.toList

/-- The quote that is open after a byte. -/
def openAfterByte : Option UInt8 → UInt8 → Option UInt8
  | some quote, b => if b = quote then none else some quote
  | none, b => if b = 0x27 ∨ b = 0x22 ∨ b = 0x60 then some b else none

/-- The offsets of the placeholders, in bytes that start at an offset with the given quote open. -/
def offsetsFrom (quote : Option UInt8) (offset : Nat) : List UInt8 → List Nat
  | [] => []
  | b :: rest =>
    let later := offsetsFrom (openAfterByte quote b) (offset + 1) rest
    if quote.isNone && b == 0x3F then offset :: later else later

/-- The offsets of the placeholders of a text. -/
def offsets (sql : String) : List Nat := offsetsFrom none 0 (bytes sql)

/-- Copy the bytes from `last` on, with placeholders numbered from `n` over those at the offsets. -/
def spliceFrom (text : List UInt8) (last n : Nat) : List Nat → List UInt8
  | [] => text.drop last
  | offset :: rest =>
    text.extract last offset ++ bytes ("$" ++ n.repr) ++ spliceFrom text (offset + 1) (n + 1) rest

/-! ## Bytes of characters -/

def utf8 (text : List Char) : List UInt8 := text.flatMap String.utf8EncodeChar

theorem utf8_append (a b : List Char) : utf8 (a ++ b) = utf8 a ++ utf8 b := List.flatMap_append

theorem utf8_cons (c : Char) (rest : List Char) :
    utf8 (c :: rest) = String.utf8EncodeChar c ++ utf8 rest := List.flatMap_cons

theorem bytes_ofList (text : List Char) : bytes (.ofList text) = utf8 text := by
  rw [bytes, String.toUTF8_eq_toByteArray, String.toByteArray_ofList]
  exact List.toList_data_toByteArray

theorem bytes_eq (sql : String) : bytes sql = utf8 sql.toList := by
  rw [← bytes_ofList, String.ofList_toList]

theorem length_bytes (sql : String) : (bytes sql).length = sql.utf8ByteSize := rfl

theorem utf8EncodeChar_of_lt {c : Char} (hc : c.toNat < 128) :
    String.utf8EncodeChar c = [c.toUInt8] :=
  String.utf8EncodeChar_eq_singleton (Char.utf8Size_eq_one_iff.2 (UInt32.le_iff_toNat_le.2
    (Nat.le_of_lt_succ hc)))

theorem toNat_toUInt8 {c : Char} (hc : c.toNat < 128) : c.toUInt8.toNat = c.toNat :=
  (UInt32.toNat_toUInt8 c.val).trans (Nat.mod_eq_of_lt (Nat.lt_trans hc (by decide)))

theorem toUInt8_eq_iff {c q : Char} (hc : c.toNat < 128) (hq : q.toNat < 128) :
    c.toUInt8 = q.toUInt8 ↔ c = q := by
  rw [← UInt8.toNat_inj, toNat_toUInt8 hc, toNat_toUInt8 hq, Char.toNat_inj]

/-- No byte of a character outside ASCII is one of an ASCII character. -/
theorem le_toNat_of_mem_utf8EncodeChar {c : Char} (hc : 128 ≤ c.toNat) :
    ∀ b ∈ String.utf8EncodeChar c, 128 ≤ b.toNat := by
  have hval : ¬c.val.toNat ≤ 127 := Nat.not_le_of_lt hc
  unfold String.utf8EncodeChar
  rw [if_neg hval]
  repeat' split
  all_goals
    simp only [List.mem_cons, List.not_mem_nil, or_false, forall_eq_or_imp, forall_eq,
      UInt8.toNat_ofNat']
    omega

/-! ## The scan by bytes follows that by characters -/

theorem toNat_lt_of_isMark {c : Char} (hc : isMark c = true) : c.toNat < 128 := by
  simp only [isMark, isQuote, Bool.or_eq_true, beq_iff_eq] at hc
  rcases hc with rfl | (rfl | rfl) | rfl <;> decide

theorem toNat_lt_of_isQuote {c : Char} (hc : isQuote c = true) : c.toNat < 128 :=
  toNat_lt_of_isMark (by rw [isMark, hc, Bool.or_true])

/-- Bytes outside ASCII only move the offset on. -/
theorem offsetsFrom_of_le {quote : Option UInt8} (hquote : ∀ q ∈ quote, q.toNat < 128)
    {front : List UInt8} (hfront : ∀ b ∈ front, 128 ≤ b.toNat) (rest : List UInt8) :
    ∀ offset, offsetsFrom quote offset (front ++ rest) =
      offsetsFrom quote (offset + front.length) rest := by
  induction front with
  | nil => exact fun _ => rfl
  | cons b front ih =>
    intro offset
    obtain ⟨hb, hfront⟩ := List.forall_mem_cons.1 hfront
    have hne : ∀ x : UInt8, x.toNat < 128 → b ≠ x := by
      rintro x hx rfl
      omega
    have hopen : openAfterByte quote b = quote := by
      cases quote with
      | some q => rw [openAfterByte, if_neg (hne q (hquote q rfl))]
      | none =>
        rw [openAfterByte, if_neg]
        simp only [hne 0x27 (by decide), hne 0x22 (by decide), hne 0x60 (by decide), or_self,
          not_false_eq_true]
    rw [List.cons_append, offsetsFrom, hopen, beq_eq_false_iff_ne.2 (hne 0x3F (by decide)),
      Bool.and_false, ih hfront, List.length_cons, Nat.add_assoc, Nat.add_comm 1]
    rfl

section Step

variable {quote : Option Char} (hquote : ∀ q ∈ quote, isQuote q = true)
include hquote

theorem openAfterByte_toUInt8 {c : Char} (hc : c.toNat < 128) :
    openAfterByte (quote.map Char.toUInt8) c.toUInt8 = (openAfter quote c).map Char.toUInt8 := by
  have hsame : ∀ q : Char, isQuote q = true → (c.toUInt8 = q.toUInt8 ↔ c = q) :=
    fun q hq => toUInt8_eq_iff hc (toNat_lt_of_isQuote hq)
  cases quote with
  | some q =>
    rw [Option.map_some, openAfterByte, openAfter, apply_ite (Option.map Char.toUInt8)]
    simp only [hsame q (hquote q rfl), Option.map_none, Option.map_some]
  | none =>
    have hsingle : c.toUInt8 = 0x27 ↔ c = '\x27' := hsame '\x27' rfl
    have hdouble : c.toUInt8 = 0x22 ↔ c = '"' := hsame '"' rfl
    have hback : c.toUInt8 = 0x60 ↔ c = '\x60' := hsame '\x60' rfl
    rw [Option.map_none, openAfterByte, openAfter, apply_ite (Option.map Char.toUInt8)]
    simp only [hsingle, hdouble, hback, Option.map_none, Option.map_some]

theorem offsetsFrom_utf8EncodeChar (c : Char) (offset : Nat) (rest : List UInt8) :
    offsetsFrom (quote.map Char.toUInt8) offset (String.utf8EncodeChar c ++ rest) =
      (if isPlaceholder quote c then [offset] else []) ++
        offsetsFrom ((openAfter quote c).map Char.toUInt8)
          (offset + (String.utf8EncodeChar c).length) rest := by
  by_cases hc : c.toNat < 128
  · have hmark : (c.toUInt8 == 0x3F) = (c == '?') := by
      have hascii : '?'.toNat < 128 := by decide
      have hiff : c.toUInt8 = 0x3F ↔ c = '?' := toUInt8_eq_iff hc hascii
      rw [Bool.eq_iff_iff, beq_iff_eq, beq_iff_eq, hiff]
    rw [utf8EncodeChar_of_lt hc, List.singleton_append, offsetsFrom,
      openAfterByte_toUInt8 hquote hc, Option.isNone_map, hmark, List.length_singleton]
    unfold isPlaceholder
    split <;> rfl
  · have hplain : isMark c = false := by
      rw [Bool.eq_false_iff]
      exact fun hmark => hc (toNat_lt_of_isMark hmark)
    have hascii : ∀ q ∈ quote.map Char.toUInt8, q.toNat < 128 := by
      intro b hb
      obtain ⟨q, hq, rfl⟩ := Option.map_eq_some_iff.1 hb
      rw [toNat_toUInt8 (toNat_lt_of_isQuote (hquote q hq))]
      exact toNat_lt_of_isQuote (hquote q hq)
    rw [offsetsFrom_of_le hascii (le_toNat_of_mem_utf8EncodeChar (Nat.le_of_not_lt hc)),
      openAfter_of_not_isMark hquote hplain, isPlaceholder_of_not_isMark quote hplain]
    rfl

end Step

/-! ## Cuts -/

/-- The offsets of the marks between texts, the first of which starts at an offset. -/
def startsFrom (offset : Nat) (first : List Char) : List (List Char) → List Nat
  | [] => []
  | part :: rest =>
    let start := offset + (utf8 first).length
    start :: startsFrom (start + 1) part rest

theorem startsFrom_cons (offset : Nat) (c : Char) (first : List Char) (later : List (List Char)) :
    startsFrom offset (c :: first) later =
      startsFrom (offset + (String.utf8EncodeChar c).length) first later := by
  cases later with
  | nil => rfl
  | cons part rest => rw [startsFrom, startsFrom, utf8_cons, List.length_append, ← Nat.add_assoc]

theorem length_startsFrom (later : List (List Char)) : ∀ (offset : Nat) (first : List Char),
    (startsFrom offset first later).length = later.length := by
  induction later with
  | nil => exact fun _ _ => rfl
  | cons part rest ih =>
    intro offset first
    rw [startsFrom, List.length_cons, ih, List.length_cons]

theorem offsetsFrom_utf8 (text : List Char) : ∀ {quote : Option Char},
    (∀ q ∈ quote, isQuote q = true) → ∀ offset : Nat,
      offsetsFrom (quote.map Char.toUInt8) offset (utf8 text) =
        startsFrom offset (cutFrom quote text).1 (cutFrom quote text).2 := by
  induction text with
  | nil => exact fun _ _ => rfl
  | cons c rest ih =>
    intro quote hquote offset
    rw [utf8_cons, offsetsFrom_utf8EncodeChar hquote, ih (isQuote_openAfter hquote c)]
    cases hc : isPlaceholder quote c with
    | true =>
      rw [cutFrom_placeholder rest hc, (isPlaceholder_iff.1 hc).2]
      rfl
    | false =>
      rw [cutFrom_plain rest hc, startsFrom_cons]
      rfl

theorem mark_of_mem_startsFrom (later : List (List Char)) :
    ∀ {offset : Nat} {first : List Char} (n : Nat), ∀ start ∈ startsFrom offset first later,
      ∃ before after, first ++ fill (fun _ => ['?']) n later = before ++ '?' :: after ∧
        start = offset + (utf8 before).length := by
  induction later with
  | nil => exact fun _ _ h => absurd h List.not_mem_nil
  | cons part rest ih =>
    intro offset first n start hstart
    rw [startsFrom, List.mem_cons] at hstart
    rcases hstart with rfl | hstart
    · exact ⟨first, part ++ fill _ (n + 1) rest, by rw [fill, List.append_assoc]; rfl, rfl⟩
    · obtain ⟨before, after, htext, rfl⟩ := ih (n + 1) start hstart
      refine ⟨first ++ '?' :: before, after, ?_, ?_⟩
      · rw [fill, List.append_assoc, htext, List.append_assoc]
        rfl
      · have hmark : (String.utf8EncodeChar '?').length = 1 := rfl
        rw [utf8_append, utf8_cons, List.length_append, List.length_append, hmark]
        omega

/-- Splicing goes on behind bytes that are copied already, whichever they are. -/
theorem spliceFrom_startsFrom (later : List (List Char)) :
    ∀ (first : List Char) (front : List UInt8) (m n : Nat),
      spliceFrom (front ++ utf8 (first ++ fill (fun _ => ['?']) m later)) front.length n
          (startsFrom front.length first later) =
        utf8 (first ++ fill (fun n => '$' :: n.repr.toList) n later) := by
  induction later with
  | nil => exact fun first front m n => List.drop_left
  | cons part rest ih =>
    intro first front m n
    -- the first text and its mark are copied too when the rest is spliced
    have hfront : (front ++ utf8 first ++ [0x3F]).length =
        front.length + (utf8 first).length + 1 := by
      simp only [List.length_append, List.length_singleton]
    have htext : front ++ utf8 (first ++ fill (fun _ => ['?']) m (part :: rest)) =
        front ++ utf8 first ++ [0x3F] ++ utf8 (part ++ fill (fun _ => ['?']) (m + 1) rest) := by
      have hmark : utf8 ['?'] = [0x3F] := rfl
      rw [fill, List.append_assoc, utf8_append, utf8_append, hmark]
      simp only [List.append_assoc]
    have hcopy : (front ++ utf8 first ++ [0x3F] ++
        utf8 (part ++ fill (fun _ => ['?']) (m + 1) rest)).extract front.length
          (front.length + (utf8 first).length) = utf8 first := by
      rw [List.extract_eq_take_drop, List.append_assoc, List.append_assoc, List.drop_left,
        Nat.add_sub_cancel_left, List.take_left]
    have hnumber : bytes ("$" ++ n.repr) = utf8 ('$' :: n.repr.toList) := by
      rw [bytes_eq, String.toList_append]
      rfl
    rw [startsFrom, spliceFrom, htext, hcopy, ← hfront, ih, hnumber, fill]
    simp only [utf8_append, List.append_assoc]

/-! ## Both scans -/

theorem offsets_eq (sql : String) :
    offsets sql = startsFrom 0 (cutFrom none sql.toList).1 (cutFrom none sql.toList).2 := by
  have hnone : ∀ q ∈ (none : Option Char), isQuote q = true := nofun
  rw [offsets, bytes_eq]
  exact offsetsFrom_utf8 sql.toList hnone 0

theorem length_offsets (sql : String) : (offsets sql).length = countPlaceholders sql := by
  rw [offsets_eq, length_startsFrom, length_cutFrom, countPlaceholders]

theorem eq_append_of_mem_offsets {sql : String} {offset : Nat} (h : offset ∈ offsets sql) :
    ∃ before after : String, sql = before ++ "?" ++ after ∧ offset = before.utf8ByteSize := by
  rw [offsets_eq] at h
  obtain ⟨before, after, htext, hoffset⟩ := mark_of_mem_startsFrom _ 0 offset h
  refine ⟨.ofList before, .ofList after, ?_, ?_⟩
  · rw [fill_cutFrom] at htext
    have hmark : "?".toList = ['?'] := rfl
    simp only [← String.toList_inj, String.toList_append, String.toList_ofList, htext, hmark,
      List.append_assoc, List.singleton_append]
  · rw [hoffset, Nat.zero_add, ← bytes_ofList, length_bytes]

/-- A placeholder starts and ends at the bounds of characters. -/
theorem isValid_of_mem_offsets {sql : String} {offset : Nat} (h : offset ∈ offsets sql) :
    String.Pos.Raw.IsValid sql ⟨offset⟩ ∧ String.Pos.Raw.IsValid sql ⟨offset + 1⟩ := by
  obtain ⟨before, after, hsql, hoffset⟩ := eq_append_of_mem_offsets h
  have hend : (before ++ "?").utf8ByteSize = offset + 1 := by
    rw [String.utf8ByteSize_append, hoffset]
    rfl
  constructor
  · exact String.Pos.Raw.isValid_iff_exists_append.2
      ⟨before, "?" ++ after, hsql.trans String.append_assoc, congrArg _ hoffset⟩
  · exact String.Pos.Raw.isValid_iff_exists_append.2
      ⟨before ++ "?", after, hsql, congrArg _ hend.symm⟩

/-- **Splicing bytes binds placeholders.** -/
theorem bytes_bindPlaceholders (sql : String) (bound : Nat) :
    bytes (bindPlaceholders sql .postgres bound) =
      spliceFrom (bytes sql) 0 (bound + 1) (offsets sql) := by
  have hsplice := spliceFrom_startsFrom (cutFrom none sql.toList).2 (cutFrom none sql.toList).1 []
    0 (bound + 1)
  rw [fill_cutFrom, ← numberFrom_eq] at hsplice
  rw [bindPlaceholders, bytes_ofList, ← hsplice, offsets_eq, bytes_eq]
  rfl

end ServerGrid.Unquoted
