import ServerGrid.Proofs.Sql.Path
import ServerGrid.Sql.Unquoted

/-!
# Placeholders outside quotes

Which characters of a text are placeholders depends on its quote characters and question marks only
(`countFrom_filter_isMark`), and a path of quoted names has none (`countFrom_chars`). A text is cut
at its placeholders by `cutFrom`; main statement: `toList_bindPlaceholders`, binding fills the cuts
with the placeholders of the backend and changes nothing else.
-/

namespace ServerGrid.Unquoted

/-! ## The characters that count -/

/-- A character that opens a quote. -/
def isQuote (c : Char) : Bool := c == '\x27' || c == '"' || c == '\x60'

/-- A character that decides which placeholders a text has. -/
def isMark (c : Char) : Bool := c == '?' || isQuote c

theorem isPlaceholder_iff {quote : Option Char} {c : Char} :
    isPlaceholder quote c = true ↔ quote = none ∧ c = '?' := by
  rw [isPlaceholder, Bool.and_eq_true, Option.isNone_iff_eq_none, beq_iff_eq]

theorem openAfter_none_of_not_isQuote {c : Char} (hc : isQuote c = false) :
    openAfter none c = none := by
  have hnot : ¬(c = '\x27' ∨ c = '"' ∨ c = '\x60') := by
    simpa [isQuote, and_assoc] using hc
  rw [openAfter, if_neg hnot]

theorem isPlaceholder_of_not_isMark (quote : Option Char) {c : Char} (hc : isMark c = false) :
    isPlaceholder quote c = false := by
  rw [isMark, Bool.or_eq_false_iff] at hc
  rw [isPlaceholder, hc.1, Bool.and_false]

section Marks

variable {quote : Option Char} (hquote : ∀ q ∈ quote, isQuote q = true)
include hquote

theorem isQuote_openAfter (c : Char) : ∀ q ∈ openAfter quote c, isQuote q = true := by
  intro q hq
  cases quote with
  | none =>
    rw [openAfter] at hq
    split at hq
    · next hc =>
      cases hq
      simpa [isQuote, or_assoc] using hc
    · cases hq
  | some other =>
    rw [openAfter] at hq
    split at hq
    · cases hq
    · exact hquote q hq

theorem openAfter_of_not_isMark {c : Char} (hc : isMark c = false) : openAfter quote c = quote := by
  rw [isMark, Bool.or_eq_false_iff] at hc
  cases quote with
  | none => exact openAfter_none_of_not_isQuote hc.2
  | some other =>
    have hne : c ≠ other := by
      rintro rfl
      rw [hquote c rfl] at hc
      cases hc.2
    rw [openAfter, if_neg hne]

theorem countFrom_filter_isMark (text : List Char) :
    countFrom quote (text.filter isMark) = countFrom quote text := by
  induction text generalizing quote with
  | nil => rfl
  | cons c rest ih =>
    cases hc : isMark c with
    | true =>
      rw [List.filter_cons_of_pos hc, countFrom, countFrom, ih (isQuote_openAfter hquote c)]
    | false =>
      -- an open quote is a mark, so this character neither closes it nor opens one
      rw [List.filter_cons_of_neg (by rw [hc]; exact Bool.false_ne_true), countFrom,
        isPlaceholder_of_not_isMark quote hc, openAfter_of_not_isMark hquote hc, ih hquote]
      simp only [Bool.false_eq_true, ite_false, Nat.zero_add]

end Marks

/-- Texts with the same marks have the same number of placeholders. -/
theorem countPlaceholders_congr {a b : String}
    (h : a.toList.filter isMark = b.toList.filter isMark) :
    countPlaceholders a = countPlaceholders b := by
  have hnone : ∀ q ∈ (none : Option Char), isQuote q = true := fun q hq => by cases hq
  rw [countPlaceholders, countPlaceholders, ← countFrom_filter_isMark hnone a.toList, h,
    countFrom_filter_isMark hnone]

theorem countFrom_of_not_mem {text : List Char} (h : '?' ∉ text) (quote : Option Char) :
    countFrom quote text = 0 := by
  induction text generalizing quote with
  | nil => rfl
  | cons c rest ih =>
    rw [List.mem_cons, not_or] at h
    have hplain : isPlaceholder quote c = false := by
      rw [isPlaceholder, beq_eq_false_iff_ne.2 (Ne.symm h.1), Bool.and_false]
    rw [countFrom, hplain, ih h.2]
    rfl

/-! ## Cutting at the placeholders -/

/-- What stands before the first placeholder of a text, and what stands after each of them. -/
def cutFrom (quote : Option Char) : List Char → List Char × List (List Char)
  | [] => ([], [])
  | c :: rest =>
    let later := cutFrom (openAfter quote c) rest
    if isPlaceholder quote c then ([], later.1 :: later.2) else (c :: later.1, later.2)

/-- Put marks, numbered from `n`, in front of texts. -/
def fill (mark : Nat → List Char) (n : Nat) : List (List Char) → List Char
  | [] => []
  | part :: rest => mark n ++ part ++ fill mark (n + 1) rest

section Cut

variable {quote : Option Char} {c : Char} (rest : List Char)

theorem cutFrom_placeholder (hc : isPlaceholder quote c = true) : cutFrom quote (c :: rest) =
    ([], (cutFrom (openAfter quote c) rest).1 :: (cutFrom (openAfter quote c) rest).2) := by
  rw [cutFrom, if_pos hc]

theorem cutFrom_plain (hc : isPlaceholder quote c = false) : cutFrom quote (c :: rest) =
    (c :: (cutFrom (openAfter quote c) rest).1, (cutFrom (openAfter quote c) rest).2) := by
  rw [cutFrom, hc]
  rfl

/-- Nothing counts inside quotes. -/
theorem cutFrom_inside {quote : Char} (c : Char) : cutFrom (some quote) (c :: rest) =
    (c :: (cutFrom (openAfter (some quote) c) rest).1,
      (cutFrom (openAfter (some quote) c) rest).2) :=
  cutFrom_plain rest rfl

end Cut

theorem length_cutFrom (text : List Char) : ∀ quote : Option Char,
    (cutFrom quote text).2.length = countFrom quote text := by
  induction text with
  | nil => exact fun quote => rfl
  | cons c rest ih =>
    intro quote
    cases hc : isPlaceholder quote c with
    | true =>
      rw [cutFrom_placeholder rest hc, List.length_cons, ih, countFrom, if_pos hc, Nat.add_comm]
    | false =>
      rw [cutFrom_plain rest hc, ih, countFrom, hc]
      exact (Nat.zero_add _).symm

theorem fill_cutFrom (text : List Char) : ∀ (quote : Option Char) (n : Nat),
    (cutFrom quote text).1 ++ fill (fun _ => ['?']) n (cutFrom quote text).2 = text := by
  induction text with
  | nil => exact fun quote n => rfl
  | cons c rest ih =>
    intro quote n
    cases hc : isPlaceholder quote c with
    | true =>
      rw [cutFrom_placeholder rest hc, List.nil_append, fill, List.append_assoc, ih,
        (isPlaceholder_iff.1 hc).2]
      rfl
    | false => rw [cutFrom_plain rest hc, List.cons_append, ih]

section Numbering

variable {quote : Option Char} {bound : Nat} {c : Char} {text : List Char}

theorem numberFrom_placeholder (hc : isPlaceholder quote c = true) :
    numberFrom quote bound (c :: text) =
      '$' :: (bound + 1).repr.toList ++ numberFrom (openAfter quote c) (bound + 1) text := by
  rw [numberFrom, if_pos hc]

theorem numberFrom_plain (hc : isPlaceholder quote c = false) :
    numberFrom quote bound (c :: text) = c :: numberFrom (openAfter quote c) bound text := by
  rw [numberFrom, hc]
  rfl

end Numbering

theorem numberFrom_eq (text : List Char) : ∀ (quote : Option Char) (bound : Nat),
    numberFrom quote bound text = (cutFrom quote text).1 ++
      fill (fun n => '$' :: n.repr.toList) (bound + 1) (cutFrom quote text).2 := by
  induction text with
  | nil => exact fun quote bound => rfl
  | cons c rest ih =>
    intro quote bound
    cases hc : isPlaceholder quote c with
    | true =>
      rw [numberFrom_placeholder hc, cutFrom_placeholder rest hc, List.nil_append, fill, ih,
        List.append_assoc]
    | false => rw [numberFrom_plain hc, cutFrom_plain rest hc, List.cons_append, ih]

/-! ## Quoted names -/

section Names

variable {quote : Char} (hquote : isQuote quote = true)
include hquote

theorem openAfter_none_quote : openAfter none quote = some quote := by
  rw [isQuote, Bool.or_eq_true, Bool.or_eq_true, beq_iff_eq, beq_iff_eq, beq_iff_eq,
    or_assoc] at hquote
  rw [openAfter, if_pos hquote]

theorem cutFrom_quote (rest : List Char) : cutFrom none (quote :: rest) =
    (quote :: (cutFrom (some quote) rest).1, (cutFrom (some quote) rest).2) := by
  have hplain : isPlaceholder none quote = false := by
    rw [isPlaceholder, beq_eq_false_iff_ne.2, Bool.and_false]
    rintro rfl
    exact absurd hquote (by decide)
  rw [cutFrom_plain rest hplain, openAfter_none_quote hquote]

/-- A doubled quote closes and opens again, so a name never leaves its quotes. -/
theorem cutFrom_body (name rest : List Char) :
    cutFrom (some quote) (Identifier.body quote name ++ rest) =
      (Identifier.body quote name ++ (cutFrom (some quote) rest).1,
        (cutFrom (some quote) rest).2) := by
  induction name with
  | nil => rfl
  | cons c name ih =>
    rw [Identifier.body, List.flatMap_cons, ← Identifier.body]
    split
    · rw [List.append_assoc, List.cons_append, List.singleton_append, cutFrom_inside, openAfter,
        if_pos rfl, cutFrom_quote hquote, ih]
      rfl
    · next hc =>
      rw [List.append_assoc, List.singleton_append, cutFrom_inside, openAfter, if_neg hc, ih]
      rfl

/-- A quoted name has no placeholders, and what follows it is read outside quotes. -/
theorem cutFrom_encode (name rest : List Char) :
    cutFrom none (Identifier.encode quote name ++ rest) =
      (Identifier.encode quote name ++ (cutFrom none rest).1, (cutFrom none rest).2) := by
  rw [Identifier.encode, List.append_assoc, List.cons_append, cutFrom_quote hquote,
    cutFrom_body hquote, List.singleton_append, cutFrom_inside, openAfter, if_pos rfl]
  simp only [List.cons_append, List.append_assoc, List.nil_append]

theorem countFrom_encode (name rest : List Char) :
    countFrom none (Identifier.encode quote name ++ rest) = countFrom none rest := by
  rw [← length_cutFrom, cutFrom_encode hquote, length_cutFrom]

theorem numberFrom_encode (bound : Nat) (name rest : List Char) :
    numberFrom none bound (Identifier.encode quote name ++ rest) =
      Identifier.encode quote name ++ numberFrom none bound rest := by
  rw [numberFrom_eq, cutFrom_encode hquote, numberFrom_eq, List.append_assoc]

theorem countFrom_itemChars (name : String) (rest : List Char) :
    countFrom none (Path.itemChars quote name ++ rest) = countFrom none rest := by
  unfold Path.itemChars
  split
  · rw [List.singleton_append, countFrom]
    exact Nat.zero_add _
  · exact countFrom_encode hquote name.toList rest

theorem countFrom_chars (names : List String) : countFrom none (Path.chars quote names) = 0 := by
  induction names with
  | nil => rfl
  | cons name names ih =>
    cases names with
    | nil =>
      rw [Path.chars, ← List.append_nil (Path.itemChars quote name), countFrom_itemChars hquote]
      rfl
    | cons next rest =>
      rw [Path.chars, countFrom_itemChars hquote, countFrom]
      exact (Nat.zero_add _).trans ih

end Names

/-- **Binding puts the placeholders of the backend where the text has its own, numbered on from the
values bound before.** -/
theorem toList_bindPlaceholders (sql : String) (backend : Backend) (bound : Nat) :
    (bindPlaceholders sql backend bound).toList = (cutFrom none sql.toList).1 ++
      fill (fun n => (backend.placeholder n).toList) (bound + 1) (cutFrom none sql.toList).2 := by
  have hquestion : (fun _ : Nat => "?".toList) = fun _ => ['?'] := by
    funext n
    rw [show "?" = String.ofList ['?'] from rfl, String.toList_ofList]
  cases backend with
  | postgres =>
    have hnumber : (fun n => (Backend.postgres.placeholder n).toList) =
        fun n : Nat => '$' :: n.repr.toList := by
      funext n
      rw [Backend.placeholder, String.toList_append]
      rfl
    rw [bindPlaceholders, String.toList_ofList, numberFrom_eq, hnumber]
  | sqlite =>
    simp only [bindPlaceholders, Backend.placeholder]
    rw [hquestion, fill_cutFrom]
  | mysql =>
    simp only [bindPlaceholders, Backend.placeholder]
    rw [hquestion, fill_cutFrom]

end ServerGrid.Unquoted

namespace ServerGrid.Dialect

open Unquoted

variable (d : Dialect)

theorem isQuote_quote : isQuote d.templates.quote = true := by
  cases d <;> rfl

theorem quote_ne {c : Char} (h : isQuote c = false) : d.templates.quote ≠ c := by
  rintro rfl
  rw [d.isQuote_quote] at h
  cases h

end ServerGrid.Dialect
