import ServerGrid.Proofs.Sql.Bytes

/-!
# Spans inside and outside quotes

A text of spans, each of them outside quotes or between them, is read as it was written: its
placeholders are the question marks outside quotes, and binding numbers those. Main statement:
`bindPlaceholders_text`, together with what the scan by bytes finds in such a text.
-/

namespace ServerGrid.Unquoted

/-- A part of a text: characters outside quotes, or a body between quotes, where the quote itself is
doubled. -/
inductive Span where
  | plain (text : List Char) (hplain : text.any isQuote = false)
  | quoted (quote : Char) (hquote : isQuote quote = true) (body : List Char)

/-- Number the question marks of a text on from `bound`. -/
def numberMarks (bound : Nat) : List Char → List Char
  | [] => []
  | c :: rest =>
    if c = '?' then '$' :: (bound + 1).repr.toList ++ numberMarks (bound + 1) rest
    else c :: numberMarks bound rest

/-! ## Characters outside quotes -/

theorem mem_numberMarks {c : Char} {text : List Char} : ∀ {bound : Nat},
    c ∈ numberMarks bound text → (c ∈ text ∧ c ≠ '?') ∨ c = '$' ∨ c.isDigit = true := by
  induction text with
  | nil => exact fun h => absurd h List.not_mem_nil
  | cons x rest ih =>
    intro bound h
    have hrest : ∀ {n}, c ∈ numberMarks n rest →
        (c ∈ x :: rest ∧ c ≠ '?') ∨ c = '$' ∨ c.isDigit = true :=
      fun h => (ih h).imp_left fun hc => ⟨List.mem_cons_of_mem x hc.1, hc.2⟩
    rw [numberMarks] at h
    split at h
    · rw [List.mem_append, List.mem_cons] at h
      rcases h with (hdollar | hdigit) | h
      · exact .inr (.inl hdollar)
      · exact .inr (.inr (Text.isDigit_of_mem_repr hdigit))
      · exact hrest h
    · next hx =>
      rw [List.mem_cons] at h
      rcases h with rfl | h
      · exact .inl ⟨List.mem_cons_self, hx⟩
      · exact hrest h

theorem mark_not_mem_numberMarks (bound : Nat) (text : List Char) :
    '?' ∉ numberMarks bound text := by
  intro h
  rcases mem_numberMarks h with ⟨-, hne⟩ | hdollar | hdigit
  · exact hne rfl
  · exact absurd hdollar (by decide)
  · exact absurd hdigit (by decide)

section Plain

variable {text : List Char} (hplain : text.any isQuote = false)
include hplain

theorem any_isQuote_numberMarks (bound : Nat) : (numberMarks bound text).any isQuote = false := by
  rw [List.any_eq_false]
  intro c hc hquote
  rcases mem_numberMarks hc with ⟨htext, -⟩ | rfl | hdigit
  · exact List.any_eq_false.1 hplain c htext hquote
  · cases hquote
  · simp only [isQuote, Bool.or_eq_true, beq_iff_eq] at hquote
    rcases hquote with (rfl | rfl) | rfl <;> exact absurd hdigit (by decide)

theorem countFrom_append_of_plain (rest : List Char) :
    countFrom none (text ++ rest) = text.count '?' + countFrom none rest := by
  induction text with
  | nil => exact (Nat.zero_add _).symm
  | cons c text ih =>
    obtain ⟨hc, htext⟩ := Bool.or_eq_false_iff.1 hplain
    have hmark : isPlaceholder none c = (c == '?') := rfl
    rw [List.cons_append, countFrom, openAfter_none_of_not_isQuote hc, ih htext, hmark,
      List.count_cons]
    omega

theorem numberFrom_append_of_plain (rest : List Char) : ∀ bound : Nat,
    numberFrom none bound (text ++ rest) =
      numberMarks bound text ++ numberFrom none (bound + text.count '?') rest := by
  induction text with
  | nil => exact fun _ => rfl
  | cons c text ih =>
    intro bound
    obtain ⟨hc, htext⟩ := Bool.or_eq_false_iff.1 hplain
    rw [List.cons_append, numberMarks]
    split
    · next hmark =>
      subst hmark
      rw [numberFrom_placeholder rfl, openAfter_none_of_not_isQuote hc, ih htext,
        List.count_cons_self, List.append_assoc, Nat.add_assoc, Nat.add_comm 1]
    · next hmark =>
      have hnot : isPlaceholder none c = false := beq_eq_false_iff_ne.2 hmark
      rw [numberFrom_plain hnot, openAfter_none_of_not_isQuote hc, ih htext,
        List.count_cons_of_ne hmark, List.cons_append]

end Plain

/-! ## One span -/

namespace Span

def chars : Span → List Char
  | plain text _ => text
  | quoted quote _ body => Identifier.encode quote body

/-- The characters outside quotes. -/
def outside : Span → List Char
  | plain text _ => text
  | quoted .. => []

/-- Number the question marks outside quotes, and leave what is quoted alone. -/
def number (bound : Nat) : Span → Span
  | plain text hplain => plain (numberMarks bound text) (any_isQuote_numberMarks hplain bound)
  | quoted quote hquote body => quoted quote hquote body

theorem countFrom_chars_append (s : Span) (rest : List Char) :
    countFrom none (s.chars ++ rest) = s.outside.count '?' + countFrom none rest := by
  cases s with
  | plain text hplain => exact countFrom_append_of_plain hplain rest
  | quoted quote hquote body =>
    exact (countFrom_encode hquote body rest).trans (Nat.zero_add _).symm

theorem numberFrom_chars_append (s : Span) (bound : Nat) (rest : List Char) :
    numberFrom none bound (s.chars ++ rest) =
      (s.number bound).chars ++ numberFrom none (bound + s.outside.count '?') rest := by
  cases s with
  | plain text hplain => exact numberFrom_append_of_plain hplain rest bound
  | quoted quote hquote body => exact numberFrom_encode hquote bound body rest

theorem mark_not_mem_number (s : Span) (bound : Nat) : '?' ∉ (s.number bound).outside := by
  cases s with
  | plain text hplain => exact mark_not_mem_numberMarks bound text
  | quoted quote hquote body => exact List.not_mem_nil

/-! ## Texts of spans -/

/-- The text that spans make up. -/
def text (spans : List Span) : String := .ofList (spans.flatMap chars)

/-- The characters of spans that are outside quotes. -/
def unquoted (spans : List Span) : List Char := spans.flatMap outside

theorem unquoted_cons (s : Span) (spans : List Span) :
    unquoted (s :: spans) = s.outside ++ unquoted spans := List.flatMap_cons

/-- Number the question marks outside quotes on from `bound`, through all spans. -/
def numberAll (bound : Nat) : List Span → List Span
  | [] => []
  | s :: rest => s.number bound :: numberAll (bound + s.outside.count '?') rest

theorem countFrom_flatMap_chars (spans : List Span) (rest : List Char) :
    countFrom none (spans.flatMap chars ++ rest) =
      (unquoted spans).count '?' + countFrom none rest := by
  induction spans with
  | nil => exact (Nat.zero_add _).symm
  | cons s spans ih =>
    rw [List.flatMap_cons, List.append_assoc, countFrom_chars_append, ih, unquoted_cons,
      List.count_append, Nat.add_assoc]

theorem numberFrom_flatMap_chars (spans : List Span) (rest : List Char) : ∀ bound : Nat,
    numberFrom none bound (spans.flatMap chars ++ rest) =
      (numberAll bound spans).flatMap chars ++
        numberFrom none (bound + (unquoted spans).count '?') rest := by
  induction spans with
  | nil => exact fun _ => rfl
  | cons s spans ih =>
    intro bound
    rw [List.flatMap_cons, List.append_assoc, numberFrom_chars_append, ih, numberAll,
      List.flatMap_cons, List.append_assoc, unquoted_cons, List.count_append, Nat.add_assoc]

theorem mark_not_mem_numberAll (spans : List Span) : ∀ bound : Nat,
    '?' ∉ unquoted (numberAll bound spans) := by
  induction spans with
  | nil => exact fun _ => List.not_mem_nil
  | cons s spans ih =>
    intro bound
    rw [numberAll, unquoted_cons, List.mem_append, not_or]
    exact ⟨mark_not_mem_number s bound, ih _⟩

theorem countPlaceholders_text (spans : List Span) :
    countPlaceholders (text spans) = (unquoted spans).count '?' := by
  have hcount := countFrom_flatMap_chars spans []
  rw [List.append_nil] at hcount
  rw [countPlaceholders, text, String.toList_ofList]
  exact hcount

theorem bindPlaceholders_text_append (spans : List Span) (sql : String) (bound : Nat) :
    bindPlaceholders (text spans ++ sql) .postgres bound =
      text (numberAll bound spans) ++
        bindPlaceholders sql .postgres (bound + countPlaceholders (text spans)) := by
  rw [bindPlaceholders, String.toList_append, text, String.toList_ofList, numberFrom_flatMap_chars,
    String.ofList_append, ← text, ← text, countPlaceholders_text, bindPlaceholders]

end Span

/-- **Placeholders are the question marks outside quotes.** They are what is counted in a text of
spans. Binding for PostgreSQL numbers them on from the values bound before: it numbers each plain
span and leaves no question mark in it, and copies each quoted one. The scan by bytes finds as many
offsets, each with the bounds of a character on both sides, and splicing the numbers over them gives
the bytes of the bound text. What follows the text is bound on from its placeholders. Other backends
leave the text as it is. Two quoted spans with the same quote may stand side by side; they are read
as one, which changes nothing of this. -/
theorem bindPlaceholders_text (spans : List Span) (bound : Nat) :
    let sql := Span.text spans
    let numbered := bindPlaceholders sql .postgres bound
    countPlaceholders sql = (Span.unquoted spans).count '?' ∧
      numbered = Span.text (Span.numberAll bound spans) ∧
      '?' ∉ Span.unquoted (Span.numberAll bound spans) ∧ countPlaceholders numbered = 0 ∧
      (offsets sql).length = countPlaceholders sql ∧
      (∀ offset ∈ offsets sql,
        String.Pos.Raw.IsValid sql ⟨offset⟩ ∧ String.Pos.Raw.IsValid sql ⟨offset + 1⟩) ∧
      bytes numbered = spliceFrom (bytes sql) 0 (bound + 1) (offsets sql) ∧
      (∀ rest : String, bindPlaceholders (sql ++ rest) .postgres bound =
        numbered ++ bindPlaceholders rest .postgres (bound + countPlaceholders sql)) ∧
      ∀ backend : Backend, backend ≠ .postgres → bindPlaceholders sql backend bound = sql := by
  intro sql numbered
  have hnumbered : numbered = Span.text (Span.numberAll bound spans) := by
    have hempty : ∀ n, bindPlaceholders "" .postgres n = "" := fun _ => rfl
    have happend := Span.bindPlaceholders_text_append spans "" bound
    rwa [hempty, String.append_empty, String.append_empty] at happend
  have hnone := Span.mark_not_mem_numberAll spans bound
  refine ⟨Span.countPlaceholders_text spans, hnumbered, hnone, ?_, length_offsets sql,
    fun offset => isValid_of_mem_offsets, bytes_bindPlaceholders sql bound, fun rest => ?_,
    fun backend hbackend => ?_⟩
  · rw [hnumbered, Span.countPlaceholders_text]
    exact List.count_eq_zero_of_not_mem hnone
  · rw [hnumbered]
    exact Span.bindPlaceholders_text_append spans rest bound
  · cases backend with
    | postgres => exact absurd rfl hbackend
    | sqlite => rfl
    | mysql => rfl

/-- Doubled and other quotes, question marks between quotes, and a character of two bytes before the
first placeholder. -/
theorem bindPlaceholders_text_quotes :
    let spans : List Span := [.plain "é = ? AND ".toList rfl,
      .quoted '\x27' rfl "it's ?".toList, .plain " OR ".toList rfl,
      .quoted '"' rfl "a?`b".toList, .plain " = ?".toList rfl,
      .quoted '\x60' rfl "?".toList, .plain "?".toList rfl]
    let sql := "é = ? AND 'it''s ?' OR \"a?`b\" = ?`?`?"
    Span.text spans = sql ∧ countPlaceholders sql = 3 ∧ offsets sql = [5, 33, 37] ∧
      String.Pos.Raw.IsValid sql ⟨33⟩ ∧
      bindPlaceholders sql .postgres 7 = "é = $8 AND 'it''s ?' OR \"a?`b\" = $9`?`$10" ∧
      bindPlaceholders (sql ++ " = ?") .postgres 7 =
        bindPlaceholders sql .postgres 7 ++ bindPlaceholders " = ?" .postgres 10 ∧
      bindPlaceholders sql .mysql 7 = sql := by
  intro spans sql
  have hsql : Span.text spans = sql := by decide
  have hoffsets : offsets sql = [5, 33, 37] := by decide
  obtain ⟨hcount, hnumbered, -, -, -, hvalid, -, hrest, hother⟩ := bindPlaceholders_text spans 7
  simp only [hsql] at hcount hnumbered hvalid hrest hother
  have hthree : countPlaceholders sql = 3 := hcount.trans (by decide)
  refine ⟨hsql, hthree, hoffsets, (hvalid 33 ?_).1, hnumbered.trans (by decide), ?_,
    hother .mysql nofun⟩
  · rw [hoffsets]
    decide
  · rw [hrest, hthree]

end ServerGrid.Unquoted
