import ServerGrid.Count
import ServerGrid.Proofs.Text.Cutting
import ServerGrid.Proofs.Text.Folding

/-!
# Marker words in the text of pieces

A count keeps the select list of a statement when its text holds a marker word. A marker in a piece
is a marker in the text. Conversely a marker in the text stands in one piece unless it crosses from
one into the next, and it cannot cross where one side of the cut rules it out: `Opens` says that no
marker ends in the beginning of a text, `Closes` that none begins in its end. Both are decided by
comparing with the parts of the five markers.
-/

namespace ServerGrid

open Text (fold foldChar)

/-! ## Texts without a marker -/

/-- A text in lower case without a marker. -/
def Unmarked (text : List Char) : Prop := ∀ word ∈ complexMarkers, ¬word.toList <:+: text

instance : DecidablePred Unmarked :=
  fun text => inferInstanceAs (Decidable (∀ word ∈ complexMarkers, ¬word.toList <:+: text))

theorem isComplexQuery_eq_false_iff (sql : String) :
    isComplexQuery sql = false ↔ Unmarked (fold sql.toList) := by
  have hsigma : ∀ word ∈ complexMarkers, 'σ' ∉ word.toList ∧ 'ς' ∉ word.toList := by decide
  unfold isComplexQuery
  rw [List.any_eq_false]
  refine forall₂_congr fun word hword => not_congr ?_
  exact Text.contains_lowercase_iff (hsigma word hword).1 (hsigma word hword).2 sql

theorem Unmarked.of_infix {part text : List Char} (h : Unmarked text) (hpart : part <:+: text) :
    Unmarked part :=
  fun word hword hfound => h word hword (hfound.trans hpart)

/-- What stands before a cut through a marker. -/
def markerStarts : List (List Char) :=
  complexMarkers.flatMap fun word =>
    word.toList.inits.filter fun start => start ≠ [] && start ≠ word.toList

/-- What stands after a cut through a marker. -/
def markerEnds : List (List Char) :=
  complexMarkers.flatMap fun word =>
    word.toList.tails.filter fun ending => ending ≠ [] && ending ≠ word.toList

theorem mem_markerStarts {word : String} (hword : word ∈ complexMarkers) {start ending : List Char}
    (hstart : start ≠ []) (hending : ending ≠ []) (h : word.toList = start ++ ending) :
    start ∈ markerStarts := by
  refine List.mem_flatMap.2 ⟨word, hword, List.mem_filter.2 ⟨?_, ?_⟩⟩
  · exact (List.mem_inits _ _).2 ⟨ending, h.symm⟩
  · simp [h, hstart, hending]

theorem mem_markerEnds {word : String} (hword : word ∈ complexMarkers) {start ending : List Char}
    (hstart : start ≠ []) (hending : ending ≠ []) (h : word.toList = start ++ ending) :
    ending ∈ markerEnds := by
  refine List.mem_flatMap.2 ⟨word, hword, List.mem_filter.2 ⟨?_, ?_⟩⟩
  · exact (List.mem_tails _ _).2 ⟨start, h.symm⟩
  · simp [h, hstart, hending]

/-- No marker that began before a text can end in it, whatever follows. -/
def Opens (text : List Char) : Prop :=
  text = [] ∨ ∀ ending ∈ markerEnds, ¬ending <+: text ∧ ¬text <+: ending

/-- No marker that begins in a text can end after it, whatever came before. -/
def Closes (text : List Char) : Prop :=
  text ≠ [] ∧ ∀ start ∈ markerStarts, ¬start <:+ text ∧ ¬text <:+ start

instance : DecidablePred Opens :=
  fun text => inferInstanceAs
    (Decidable (text = [] ∨ ∀ ending ∈ markerEnds, ¬ending <+: text ∧ ¬text <+: ending))

instance : DecidablePred Closes :=
  fun text => inferInstanceAs
    (Decidable (text ≠ [] ∧ ∀ start ∈ markerStarts, ¬start <:+ text ∧ ¬text <:+ start))

theorem Opens.append_of_ne_nil {a : List Char} (ha : Opens a) (hne : a ≠ []) (b : List Char) :
    Opens (a ++ b) := by
  have hapart := ha.resolve_left hne
  refine .inr fun ending hending => ⟨fun h => ?_, fun h => ?_⟩
  · obtain h | h := List.prefix_or_prefix_of_prefix h (List.prefix_append a b)
    · exact (hapart ending hending).1 h
    · exact (hapart ending hending).2 h
  · exact (hapart ending hending).2 ((List.prefix_append a b).trans h)

theorem Opens.append {a b : List Char} (ha : Opens a) (hb : Opens b) : Opens (a ++ b) := by
  by_cases hne : a = []
  · rwa [hne]
  · exact ha.append_of_ne_nil hne b

/-- Two texts without a marker hold none together when one side of the cut rules out a crossing. -/
theorem Unmarked.append {a b : List Char} (ha : Unmarked a) (hb : Unmarked b)
    (hcut : Closes a ∨ Opens b) : Unmarked (a ++ b) := by
  intro word hword h
  obtain h | h | ⟨start, ending, hstart, hending, hsplit, hsuffix, hprefix⟩ :=
    List.infix_append_iff_ne_nil.1 h
  · exact ha word hword h
  · exact hb word hword h
  · obtain hcloses | rfl | hopens := hcut
    · exact (hcloses.2 start (mem_markerStarts hword hstart hending hsplit)).1 hsuffix
    · exact hending (List.prefix_nil.1 hprefix)
    · exact (hopens ending (mem_markerEnds hword hstart hending hsplit)).1 hprefix

/-- Every marker has a letter. -/
theorem Unmarked.of_forall_lt {text : List Char} (h : ∀ c ∈ text, c.toNat < 0x41) :
    Unmarked text := by
  have hletter : ∀ word ∈ complexMarkers, ∃ c ∈ word.toList, ¬c.toNat < 0x41 := by
    simp [complexMarkers]
  intro word hword hfound
  obtain ⟨c, hc, hge⟩ := hletter word hword
  exact hge (h c (hfound.subset hc))

/-! ## Quoted names -/

theorem eq_nil_of_prefix_cons {x : Char} {word text : List Char} (hx : x ∉ word)
    (h : word <+: x :: text) : word = [] := by
  cases word with
  | nil => rfl
  | cons d rest =>
    have hd : d = x := (List.cons_prefix_cons.1 h).1
    exact absurd (hd ▸ List.mem_cons_self) hx

theorem infix_of_infix_cons {x : Char} {word text : List Char} (hx : x ∉ word)
    (h : word <:+: x :: text) : word <:+: text := by
  obtain h | h := List.infix_cons_iff.1 h
  · rw [eq_nil_of_prefix_cons hx h]
    exact List.nil_infix
  · exact h

section Quoted

variable {quote : Char} (hquote : foldChar quote = [quote])
include hquote

theorem fold_body_cons (c : Char) (name : List Char) :
    fold (Identifier.body quote (c :: name)) =
      (if c = quote then [quote, quote] else foldChar c) ++ fold (Identifier.body quote name) := by
  change fold ((if c = quote then [quote, quote] else [c]) ++ _) = _
  rw [Text.fold_append]
  split
  · rw [Text.fold_cons, Text.fold_cons, Text.fold_nil, hquote]
    rfl
  · rw [Text.fold_cons, Text.fold_nil, List.append_nil]
    rfl

/-- Doubling the quote characters of a name adds no beginning without a quote character. -/
theorem prefix_of_prefix_fold_body : ∀ {name word : List Char}, quote ∉ word →
    word <+: fold (Identifier.body quote name) → word <+: fold name
  | [], _, _, h => h
  | c :: name, word, hword, h => by
    rw [fold_body_cons hquote] at h
    rw [Text.fold_cons]
    split at h
    · rw [eq_nil_of_prefix_cons hword h]
      exact List.nil_prefix
    · obtain hshort | ⟨rest, rfl⟩ :=
        List.prefix_or_prefix_of_prefix h (List.prefix_append (foldChar c) _)
      · exact hshort.trans (List.prefix_append _ _)
      · rw [List.prefix_append_right_inj] at h ⊢
        exact prefix_of_prefix_fold_body (fun hmem => hword (List.mem_append_right _ hmem)) h

/-- Doubling the quote characters of a name adds no word without a quote character. -/
theorem infix_of_infix_fold_body : ∀ {name word : List Char}, quote ∉ word →
    word <:+: fold (Identifier.body quote name) → word <:+: fold name
  | [], _, _, h => h
  | c :: name, word, hword, h => by
    rw [fold_body_cons hquote] at h
    rw [Text.fold_cons, List.infix_append_iff]
    split at h
    · have hrest : word <:+: fold (Identifier.body quote name) :=
        infix_of_infix_cons hword (infix_of_infix_cons hword h)
      exact .inr (.inl (infix_of_infix_fold_body hword hrest))
    · obtain h | h | ⟨start, ending, rfl, hsuffix, hprefix⟩ := List.infix_append_iff.1 h
      · exact .inl h
      · exact .inr (.inl (infix_of_infix_fold_body hword h))
      · refine .inr (.inr ⟨start, ending, rfl, hsuffix, ?_⟩)
        exact prefix_of_prefix_fold_body hquote
          (fun hmem => hword (List.mem_append_right _ hmem)) hprefix

end Quoted

/-- A text that neither holds a marker nor has one cross its ends. -/
def Separates (text : List Char) : Prop := Unmarked text ∧ Opens text ∧ Closes text

instance : DecidablePred Separates :=
  fun text => inferInstanceAs (Decidable (Unmarked text ∧ Opens text ∧ Closes text))

theorem Backend.foldChar_quote (backend : Backend) :
    foldChar backend.quote = [backend.quote] := by
  cases backend <;> rfl

theorem Backend.quote_not_mem_marker (backend : Backend) :
    ∀ word ∈ complexMarkers, backend.quote ∉ word.toList := by
  cases backend <;> decide

theorem Backend.separates_quote (backend : Backend) : Separates [backend.quote] := by
  cases backend <;> decide

theorem Backend.fold_encode (backend : Backend) (name : List Char) :
    fold (Identifier.encode backend.quote name) =
      [backend.quote] ++ (fold (Identifier.body backend.quote name) ++ [backend.quote]) := by
  change fold (backend.quote :: (Identifier.body backend.quote name ++ [backend.quote])) = _
  rw [Text.fold_cons, Text.fold_append, Text.fold_cons, Text.fold_nil, List.append_nil,
    backend.foldChar_quote]

/-- A quoted name holds a marker only when the name does. -/
theorem Unmarked.fold_encode (backend : Backend) {name : List Char} (h : Unmarked (fold name)) :
    Unmarked (fold (Identifier.encode backend.quote name)) := by
  obtain ⟨hunmarked, hopens, hcloses⟩ := backend.separates_quote
  have hbody : Unmarked (fold (Identifier.body backend.quote name)) := fun word hword hfound =>
    h word hword
      (infix_of_infix_fold_body backend.foldChar_quote (backend.quote_not_mem_marker word hword)
        hfound)
  rw [backend.fold_encode]
  exact hunmarked.append (hbody.append hunmarked (.inr hopens)) (.inl hcloses)

theorem Backend.lt_of_mem_placeholder (backend : Backend) (n : Nat) :
    ∀ c ∈ (backend.placeholder n).toList, c.toNat < 0x41 := by
  have hmark : ∀ c ∈ "?".toList, c.toNat < 0x41 := by simp
  have hdollar : ∀ c ∈ "$".toList, c.toNat < 0x41 := by simp
  cases backend with
  | sqlite => exact hmark
  | mysql => exact hmark
  | postgres =>
    intro c hc
    rw [Backend.placeholder, String.toList_append] at hc
    obtain hc | hc := List.mem_append.1 hc
    · exact hdollar c hc
    · have hdigit := Char.isDigit_iff_toNat.1 (Text.isDigit_of_mem_repr hc)
      exact Nat.lt_of_le_of_lt hdigit.2 (by decide)

/-- A marker consists of letters and blanks, so that it cannot cross a text without any. -/
theorem separates_of_forall_lt {text : List Char} (hne : text ≠ [])
    (h : ∀ c ∈ text, c.toNat < 0x41 ∧ c ≠ ' ') : Separates text := by
  have hnonempty : ∀ part ∈ markerStarts ++ markerEnds, part ≠ [] := by decide
  have hletters : (markerStarts ++ markerEnds).all
      (·.all fun c => 0x41 ≤ c.toNat || c == ' ') = true := by decide
  have hapart : ∀ part ∈ markerStarts ++ markerEnds, ∀ c ∈ part, c ∉ text := by
    intro part hpart c hc hmem
    have hchar := List.all_eq_true.1 (List.all_eq_true.1 hletters part hpart) c hc
    rw [Bool.or_eq_true, decide_eq_true_eq, beq_iff_eq] at hchar
    rcases hchar with hletter | hblank
    · exact Nat.not_lt.2 hletter (h c hmem).1
    · exact (h c hmem).2 hblank
  have hneither : ∀ part ∈ markerStarts ++ markerEnds, ¬part ⊆ text ∧ ¬text ⊆ part := by
    intro part hpart
    constructor
    · intro hsub
      obtain ⟨c, hc⟩ := List.exists_mem_of_ne_nil part (hnonempty part hpart)
      exact hapart part hpart c hc (hsub hc)
    · intro hsub
      obtain ⟨c, hc⟩ := List.exists_mem_of_ne_nil text hne
      exact hapart part hpart c (hsub hc) hc
  refine ⟨.of_forall_lt fun c hc => (h c hc).1, .inr fun ending hending => ?_, hne,
    fun start hstart => ?_⟩
  · have hends := hneither ending (List.mem_append_right _ hending)
    exact ⟨fun hprefix => hends.1 hprefix.subset, fun hprefix => hends.2 hprefix.subset⟩
  · have hstarts := hneither start (List.mem_append_left _ hstart)
    exact ⟨fun hsuffix => hstarts.1 hsuffix.subset, fun hsuffix => hstarts.2 hsuffix.subset⟩

theorem Backend.blank_not_mem_placeholder (backend : Backend) (n : Nat) :
    ' ' ∉ (backend.placeholder n).toList := by
  have hmark : ' ' ∉ "?".toList := by decide
  have hdollar : ' ' ∉ "$".toList := by decide
  cases backend with
  | sqlite => exact hmark
  | mysql => exact hmark
  | postgres =>
    rw [Backend.placeholder, String.toList_append, List.mem_append, not_or]
    exact ⟨hdollar, fun hmem => absurd (Text.isDigit_of_mem_repr hmem) (by decide)⟩

theorem separates_placeholder (backend : Backend) (n : Nat) :
    Separates (fold (backend.placeholder n).toList) := by
  have hlt := backend.lt_of_mem_placeholder n
  have hne : (backend.placeholder n).toList ≠ [] := by
    cases backend <;> simp [Backend.placeholder]
  rw [Text.fold_of_forall_lt hlt]
  refine separates_of_forall_lt hne fun c hc => ⟨hlt c hc, ?_⟩
  rintro rfl
  exact backend.blank_not_mem_placeholder n hc

/-! ## Operators between blanks

An operator of the database stands between two blanks, where it could complete a marker that begins
before it or ends after it: `by` after `order`, or the other way round. -/

theorem of_mem_markerStarts_of_blank {start : List Char} (hstart : start ++ [' '] ∈ markerStarts) :
    ' ' ∉ start ∧ ∃ word ∈ complexMarkers, word.toList = start ++ " by".toList := by
  have hall : ∀ s ∈ markerStarts, s.getLast? = some ' ' → ' ' ∉ s.dropLast ∧
      ∃ word ∈ complexMarkers, word.toList = s.dropLast ++ " by".toList := by decide
  have h := hall _ hstart List.getLast?_concat
  rwa [List.dropLast_concat] at h

theorem eq_of_mem_markerEnds_of_blank {ending : List Char} (hending : ' ' :: ending ∈ markerEnds) :
    ending = "by".toList := by
  have hall : ∀ s ∈ markerEnds, s.head? = some ' ' → s.tail = "by".toList := by decide
  exact hall _ hending rfl

theorem opens_between_blanks {operator : List Char}
    (h : Unmarked ("order ".toList ++ operator ++ " by".toList)) :
    Opens (' ' :: (operator ++ [' '])) := by
  refine .inr fun ending hending => ⟨fun hprefix => ?_, fun hprefix => ?_⟩
  · obtain rfl | ⟨rest, rfl, hrest⟩ := List.prefix_cons_iff.1 hprefix
    · exact absurd hending (by decide)
    · obtain rfl := eq_of_mem_markerEnds_of_blank hending
      obtain hwhole | ⟨after, rfl⟩ := List.prefix_concat_iff.1 hrest
      · have hlast := congrArg List.getLast? hwhole
        rw [List.getLast?_concat] at hlast
        exact absurd hlast (by decide)
      · refine h "order by" (by decide) ⟨[], after ++ " by".toList, ?_⟩
        simp
  · obtain ⟨rest, rfl⟩ := hprefix
    have hby := eq_of_mem_markerEnds_of_blank hending
    have hblank : ' ' ∈ "by".toList := by
      rw [← hby]
      simp
    exact absurd hblank (by decide)

theorem closes_between_blanks {operator : List Char}
    (h : Unmarked ("order ".toList ++ operator ++ " by".toList)) :
    Closes (' ' :: (operator ++ [' '])) := by
  refine ⟨List.cons_ne_nil _ _, fun start hstart => ⟨fun hsuffix => ?_, fun hsuffix => ?_⟩⟩
  · rw [← List.cons_append] at hsuffix
    obtain rfl | ⟨rest, rfl, hrest⟩ := List.suffix_concat_iff.1 hsuffix
    · exact absurd hstart (by decide)
    · obtain ⟨hblank, word, hword, hsplit⟩ := of_mem_markerStarts_of_blank hstart
      obtain rfl | ⟨before, rfl⟩ := List.suffix_cons_iff.1 hrest
      · exact hblank List.mem_cons_self
      · refine h word hword ⟨"order ".toList ++ before, [], ?_⟩
        rw [hsplit]
        simp
  · obtain ⟨before, rfl⟩ := hsuffix
    rw [← List.cons_append, ← List.append_assoc] at hstart
    exact (of_mem_markerStarts_of_blank hstart).1 (by simp)

theorem separates_between_blanks {operator : String}
    (h : isComplexQuery ("order " ++ operator ++ " by") = false) :
    Separates (fold (" " ++ operator ++ " ").toList) := by
  have hfold : ∀ before after : String, fold (before ++ operator ++ after).toList =
      fold before.toList ++ fold operator.toList ++ fold after.toList := fun before after => by
    simp only [String.toList_append, Text.fold_append]
  rw [isComplexQuery_eq_false_iff, hfold] at h
  rw [hfold]
  have hbefore : fold "order ".toList = "order".toList ++ fold " ".toList := by decide
  have hafter : fold " by".toList = fold " ".toList ++ "by".toList := by decide
  refine ⟨h.of_infix ⟨"order".toList, "by".toList, ?_⟩, opens_between_blanks h,
    closes_between_blanks h⟩
  rw [hbefore, hafter]
  simp only [List.append_assoc]

/-! ## Pieces -/

namespace Piece

/-- The text of pieces in lower case. -/
def folded (backend : Backend) (bound : Nat) (pieces : List Piece) : List Char :=
  fold (sqlFrom backend bound pieces).toList

theorem folded_append (backend : Backend) (bound : Nat) (a b : List Piece) :
    folded backend bound (a ++ b) =
      folded backend bound a ++ folded backend (bound + (values a).length) b := by
  rw [folded, sqlFrom_append, String.toList_append, Text.fold_append]
  rfl

theorem folded_text (backend : Backend) (bound : Nat) (text : String) :
    folded backend bound [.text text] = fold text.toList := by
  rw [folded, sqlFrom, sqlFrom, String.append_empty]

/-- A text among pieces stands in their text. -/
theorem infix_folded_of_mem {backend : Backend} {text : String} : ∀ {pieces : List Piece}
    {bound : Nat}, .text text ∈ pieces → fold text.toList <:+: folded backend bound pieces
  | p :: rest, bound, h => by
    have happend := folded_append backend bound [p] rest
    rw [List.singleton_append] at happend
    rw [happend]
    obtain rfl | h := List.mem_cons.1 h
    · rw [folded_text]
      exact (List.prefix_append _ _).isInfix
    · exact (infix_folded_of_mem h).trans (List.suffix_append _ _).isInfix

/-- The text of pieces holds no marker, however many parameters came before. -/
def Quiet (backend : Backend) (pieces : List Piece) : Prop :=
  ∀ bound, Unmarked (folded backend bound pieces)

/-- Pieces that can follow any others: they hold no marker, and none that began before them ends in
them. -/
structure Trailing (backend : Backend) (pieces : List Piece) : Prop where
  quiet : Quiet backend pieces
  opens : ∀ bound, Opens (folded backend bound pieces)

variable {backend : Backend} {a b : List Piece}

theorem quiet_nil : Quiet backend [] := fun _ => by
  change Unmarked []
  decide

theorem quiet_text {text : String} (h : Unmarked (fold text.toList)) :
    Quiet backend [.text text] := fun bound => by
  rwa [folded_text]

/-- Pieces after a text that no marker leaves. -/
theorem Quiet.text_cons {text : String} (hunmarked : Unmarked (fold text.toList))
    (hcloses : Closes (fold text.toList)) (hb : Quiet backend b) :
    Quiet backend (.text text :: b) := fun bound => by
  rw [← List.singleton_append, folded_append, folded_text]
  exact hunmarked.append (hb _) (.inl hcloses)

theorem Quiet.append (ha : Quiet backend a) (hb : Trailing backend b) :
    Quiet backend (a ++ b) := fun bound => by
  rw [folded_append]
  exact (ha bound).append (hb.quiet _) (.inr (hb.opens _))

namespace Trailing

theorem nil : Trailing backend [] := ⟨quiet_nil, fun _ => .inl rfl⟩

theorem text_cons {text : String} (h : Separates (fold text.toList)) (hb : Quiet backend b) :
    Trailing backend (.text text :: b) := by
  refine ⟨hb.text_cons h.1 h.2.2, fun bound => ?_⟩
  rw [← List.singleton_append, folded_append, folded_text]
  exact h.2.1.append_of_ne_nil h.2.2.1 _

theorem append (ha : Trailing backend a) (hb : Trailing backend b) : Trailing backend (a ++ b) := by
  refine ⟨ha.quiet.append hb, fun bound => ?_⟩
  rw [folded_append]
  exact (ha.opens bound).append (hb.opens _)

theorem flatMap {α : Type} {f : α → List Piece} : ∀ {l : List α},
    (∀ x ∈ l, Trailing backend (f x)) → Trailing backend (l.flatMap f)
  | [], _ => nil
  | _ :: _, h =>
    (h _ List.mem_cons_self).append (flatMap fun x hx => h x (List.mem_cons_of_mem _ hx))

end Trailing

/-- Pieces on both sides of a separating text. -/
theorem Quiet.between {text : String} (ha : Quiet backend a) (h : Separates (fold text.toList))
    (hb : Quiet backend b) : Quiet backend (a ++ .text text :: b) :=
  ha.append (.text_cons h hb)

theorem quiet_raw {sql : String} (h : isComplexQuery sql = false) :
    Quiet backend [.raw sql] := fun bound => by
  rw [folded, sqlFrom, sqlFrom, String.append_empty]
  exact (isComplexQuery_eq_false_iff sql).1 h

theorem quiet_name {name : String} (h : isComplexQuery name = false) :
    Quiet backend [.name name] := fun bound => by
  rw [folded, sqlFrom, sqlFrom, String.append_empty, Identifier.quoted, String.toList_ofList]
  exact Unmarked.fold_encode backend ((isComplexQuery_eq_false_iff name).1 h)

/-- A placeholder has no letter. -/
theorem quiet_param (v : Value) : Quiet backend [.param v] := fun bound => by
  have hlt := backend.lt_of_mem_placeholder (bound + 1)
  rw [folded, sqlFrom, sqlFrom, String.append_empty, Text.fold_of_forall_lt hlt]
  exact Unmarked.of_forall_lt hlt

theorem trailing_parenthesised (ha : Quiet backend a) :
    Trailing backend (parenthesised a) := by
  have hclosed : Quiet backend (a ++ [.text ")"]) := ha.between (by decide) quiet_nil
  exact .text_cons (by decide) hclosed

/-- The texts between the values of pieces, with a text before the first of them. -/
def runsFrom (backend : Backend) (before : String) : List Piece → List String
  | [] => [before]
  | .text s :: rest => runsFrom backend (before ++ s) rest
  | .name s :: rest => runsFrom backend (before ++ Identifier.quoted backend.quote s) rest
  | .raw s :: rest => runsFrom backend (before ++ s) rest
  | .param _ :: rest => before :: runsFrom backend "" rest

/-- A marker has no placeholder in it, so that it stands between two values. -/
theorem unmarked_of_runsFrom : ∀ {pieces : List Piece} {before : String} (bound : Nat),
    (∀ run ∈ runsFrom backend before pieces, isComplexQuery run = false) →
      Unmarked (fold (before ++ sqlFrom backend bound pieces).toList)
  | [], before, _, h => by
    rw [sqlFrom, String.append_empty]
    exact (isComplexQuery_eq_false_iff before).1 (h before List.mem_cons_self)
  | .text _ :: _, _, bound, h => by
    rw [sqlFrom, ← String.append_assoc]
    exact unmarked_of_runsFrom bound h
  | .name _ :: _, _, bound, h => by
    rw [sqlFrom, ← String.append_assoc]
    exact unmarked_of_runsFrom bound h
  | .raw _ :: _, _, bound, h => by
    rw [sqlFrom, ← String.append_assoc]
    exact unmarked_of_runsFrom bound h
  | .param _ :: rest, before, bound, h => by
    rw [runsFrom, List.forall_mem_cons, isComplexQuery_eq_false_iff] at h
    have hrest := unmarked_of_runsFrom (bound + 1) h.2
    rw [String.empty_append] at hrest
    obtain ⟨hunmarked, hopens, hcloses⟩ := separates_placeholder backend (bound + 1)
    rw [sqlFrom, String.toList_append, String.toList_append, Text.fold_append, Text.fold_append]
    exact h.1.append (hunmarked.append hrest (.inl hcloses))
      (.inr (hopens.append_of_ne_nil hcloses.1 _))

theorem quiet_of_runsFrom {pieces : List Piece}
    (h : ∀ run ∈ runsFrom backend "" pieces, isComplexQuery run = false) :
    Quiet backend pieces := fun bound => by
  have hunmarked := unmarked_of_runsFrom bound h
  rwa [String.empty_append] at hunmarked

theorem quiet_separated {separator : String} (h : Separates (fold separator.toList)) :
    ∀ {groups : List (List Piece)}, (∀ group ∈ groups, Quiet backend group) →
      Quiet backend (separated separator groups)
  | [], _ => quiet_nil
  | [_], hgroups => hgroups _ List.mem_cons_self
  | _ :: _ :: _, hgroups =>
    (hgroups _ List.mem_cons_self).between h
      (quiet_separated h fun group hgroup => hgroups group (List.mem_cons_of_mem _ hgroup))

end Piece

end ServerGrid
