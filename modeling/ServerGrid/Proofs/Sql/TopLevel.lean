import ServerGrid.Proofs.Sql.Placeholders

/-!
# The words ORDER BY at the top level

`orderBysFrom` counts where the words ORDER BY start outside quotes and parentheses; `hasOrderBy` is
whether there are any (`hasOrderBy_iff`). A text that ends in the state it started from, whatever
follows, adds a fixed number of them (`Adds`). Such texts are closed under concatenation, and
parentheses or quotes around one leave nothing to count.
-/

namespace ServerGrid.Unquoted

/-- Whether a text starts with the words, without regard to case. -/
def startsOrderBy (text : List Char) : Bool :=
  "ORDER BY".toList.isPrefixOf (text.map Char.toUpper)

/-- How often the words start outside quotes and parentheses, in a text that starts with the given
quote open and at the given depth. -/
def orderBysFrom (quote : Option Char) (depth : Nat) : List Char → Nat
  | [] => 0
  | c :: rest =>
    orderBysFrom (openAfter quote c) (if quote.isNone then depthAfter depth c else depth) rest +
      if quote = none ∧ depth = 0 ∧ startsOrderBy (c :: rest) = true then 1 else 0

/-- How often the words start outside quotes and parentheses. -/
def orderBys (sql : String) : Nat := orderBysFrom none 0 sql.toList

/-! ## Counting agrees with the test -/

section Upper

/-- No letter becomes a character that is none. -/
theorem toUpper_eq_iff {c x : Char} (hx : ¬(0x41 ≤ x.toNat ∧ x.toNat ≤ 0x5A))
    (hx' : ¬(0x61 ≤ x.toNat ∧ x.toNat ≤ 0x7A)) : c.toUpper = x ↔ c = x := by
  unfold Char.toUpper
  split
  · next hsmall =>
    have hfrom : 0x61 ≤ c.val.toNat := UInt32.le_iff_toNat_le.1 hsmall.1
    have hto : c.val.toNat ≤ 0x7A := UInt32.le_iff_toNat_le.1 hsmall.2
    constructor
    · intro h
      -- the distance to the capital letters, modulo 2 ^ 32
      have hdistance : ('A'.val - 'a'.val).toNat = 4294967264 := by decide
      have hupper : x.toNat = (c.val.toNat + 4294967264) % 2 ^ 32 := by
        rw [← h, ← hdistance, ← UInt32.toNat_add]
        rfl
      omega
    · rintro rfl
      exact absurd ⟨hfrom, hto⟩ hx'
  · exact Iff.rfl

theorem toUpper_of_lt {c : Char} (h : c.toNat < 0x61) : c.toUpper = c := by
  unfold Char.toUpper
  split
  · next hsmall =>
    have hfrom : 0x61 ≤ c.toNat := UInt32.le_iff_toNat_le.1 hsmall.1
    omega
  · rfl

theorem openAfter_toUpper {quote : Option Char} (hquote : ∀ q ∈ quote, isQuote q = true)
    (c : Char) : openAfter quote c.toUpper = openAfter quote c := by
  have hsame : ∀ q : Char, isQuote q = true → (c.toUpper = q ↔ c = q) := by
    intro q hq
    simp only [isQuote, Bool.or_eq_true, beq_iff_eq] at hq
    rcases hq with (rfl | rfl) | rfl
    · exact toUpper_eq_iff (by decide) (by decide)
    · exact toUpper_eq_iff (by decide) (by decide)
    · exact toUpper_eq_iff (by decide) (by decide)
  cases quote with
  | some q => simp only [openAfter, hsame q (hquote q rfl)]
  | none =>
    simp only [openAfter, hsame '\x27' rfl, hsame '"' rfl, hsame '\x60' rfl]
    split
    · next hc => rcases hc with rfl | rfl | rfl <;> rfl
    · rfl

theorem depthAfter_toUpper (depth : Nat) (c : Char) :
    depthAfter depth c.toUpper = depthAfter depth c := by
  have hopen : c.toUpper = '(' ↔ c = '(' := toUpper_eq_iff (by decide) (by decide)
  have hclose : c.toUpper = ')' ↔ c = ')' := toUpper_eq_iff (by decide) (by decide)
  unfold depthAfter
  simp only [hopen, hclose]

end Upper

theorem toUpper_of_startsOrderBy {c : Char} {rest : List Char}
    (h : startsOrderBy (c :: rest) = true) : c.toUpper = 'O' := by
  unfold startsOrderBy at h
  rw [List.map_cons] at h
  have hhead : ('O' == c.toUpper) = true := (Bool.and_eq_true_iff.1 h).1
  exact (beq_iff_eq.1 hhead).symm

theorem hasWordsFrom_iff {quote : Option Char} (hquote : ∀ q ∈ quote, isQuote q = true)
    {text : List Char} : ∀ {depth : Nat},
      hasWordsFrom "ORDER BY".toList quote depth (text.map Char.toUpper) = true ↔
        0 < orderBysFrom quote depth text := by
  induction text generalizing quote with
  | nil =>
    intro depth
    exact iff_of_false Bool.false_ne_true (Nat.lt_irrefl 0)
  | cons c rest ih =>
    intro depth
    have hstart : (quote.isNone && (openAfter quote c).isNone && depth == 0 &&
        "ORDER BY".toList.isPrefixOf (c.toUpper :: rest.map Char.toUpper)) = true ↔
          quote = none ∧ depth = 0 ∧ startsOrderBy (c :: rest) = true := by
      simp only [Bool.and_eq_true, Option.isNone_iff_eq_none, beq_iff_eq]
      constructor
      · rintro ⟨⟨⟨hnone, -⟩, hdepth⟩, hwords⟩
        exact ⟨hnone, hdepth, hwords⟩
      · rintro ⟨rfl, hdepth, hwords⟩
        refine ⟨⟨⟨rfl, ?_⟩, hdepth⟩, hwords⟩
        rw [← openAfter_toUpper hquote, toUpper_of_startsOrderBy hwords]
        rfl
    rw [List.map_cons, hasWordsFrom, openAfter_toUpper hquote, depthAfter_toUpper,
      Bool.or_eq_true, hstart, ih (isQuote_openAfter hquote c), orderBysFrom]
    by_cases h : quote = none ∧ depth = 0 ∧ startsOrderBy (c :: rest) = true
    · rw [if_pos h]
      exact iff_of_true (.inl h) (Nat.succ_pos _)
    · rw [if_neg h]
      exact or_iff_right h

theorem hasOrderBy_iff (sql : String) : hasOrderBy sql = true ↔ 0 < orderBys sql := by
  have hnone : ∀ q ∈ (none : Option Char), isQuote q = true := fun q hq => by cases hq
  have hupper : (Text.asciiUppercase sql).toList = sql.toList.map Char.toUpper :=
    String.toList_ofList
  rw [hasOrderBy, hupper]
  exact hasWordsFrom_iff hnone

/-! ## One character -/

section Step

variable {depth : Nat} {rest : List Char}

theorem orderBysFrom_plain {c : Char} (hquote : isQuote c = false) (hopen : c ≠ '(')
    (hclose : c ≠ ')') : orderBysFrom none depth (c :: rest) = orderBysFrom none depth rest +
      if depth = 0 ∧ startsOrderBy (c :: rest) = true then 1 else 0 := by
  rw [orderBysFrom, openAfter_none_of_not_isQuote hquote, Option.isNone_none, if_pos rfl,
    depthAfter, if_neg hopen, if_neg hclose]
  simp only [true_and]

theorem orderBysFrom_open :
    orderBysFrom none depth ('(' :: rest) = orderBysFrom none (depth + 1) rest := by
  have hstart : startsOrderBy ('(' :: rest) = false := rfl
  simp [orderBysFrom, openAfter, depthAfter, hstart]

theorem orderBysFrom_close :
    orderBysFrom none (depth + 1) (')' :: rest) = orderBysFrom none depth rest := by
  simp [orderBysFrom, openAfter, depthAfter]

theorem orderBysFrom_inside {quote : Char} (c : Char) :
    orderBysFrom (some quote) depth (c :: rest) =
      orderBysFrom (openAfter (some quote) c) depth rest := by
  simp [orderBysFrom]

theorem orderBysFrom_quote {quote : Char} (hquote : isQuote quote = true) :
    orderBysFrom none depth (quote :: rest) = orderBysFrom (some quote) depth rest := by
  have hstart : startsOrderBy (quote :: rest) = false := by
    simp only [isQuote, Bool.or_eq_true, beq_iff_eq] at hquote
    rcases hquote with (rfl | rfl) | rfl <;> rfl
  have hdepth : depthAfter depth quote = depth := by
    simp only [isQuote, Bool.or_eq_true, beq_iff_eq] at hquote
    rcases hquote with (rfl | rfl) | rfl <;> rfl
  simp [orderBysFrom, openAfter_none_quote hquote, hstart, hdepth]

end Step

/-! ## Texts that leave the state as it was -/

/-- A text that ends where it started, outside quotes and at the same depth, whatever follows. At
the top level it adds a number of the words, and inside parentheses none. -/
structure Adds (text : List Char) (n : Nat) : Prop where
  nested : ∀ depth rest,
    orderBysFrom none (depth + 1) (text ++ rest) = orderBysFrom none (depth + 1) rest
  top : ∀ rest, orderBysFrom none 0 (text ++ rest) = n + orderBysFrom none 0 rest

namespace Adds

variable {a b : List Char} {m n : Nat}

theorem nil : Adds [] 0 := ⟨fun _ _ => rfl, fun _ => (Nat.zero_add _).symm⟩

theorem append (ha : Adds a m) (hb : Adds b n) : Adds (a ++ b) (m + n) where
  nested depth rest := by
    rw [List.append_assoc, ha.nested, hb.nested]
  top rest := by
    rw [List.append_assoc, ha.top, hb.top, Nat.add_assoc]

theorem parenthesised (ha : Adds a n) : Adds ('(' :: a ++ [')']) 0 where
  nested depth rest := by
    rw [List.append_assoc, List.cons_append, orderBysFrom_open, ha.nested, List.singleton_append,
      orderBysFrom_close]
  top rest := by
    rw [List.append_assoc, List.cons_append, orderBysFrom_open, ha.nested, List.singleton_append,
      orderBysFrom_close, Nat.zero_add]

theorem orderBysFrom_eq (ha : Adds a n) : orderBysFrom none 0 a = n := by
  have h := ha.top []
  rwa [List.append_nil] at h

end Adds

/-! ## Names -/

section Names

variable {quote : Char} (hquote : isQuote quote = true)
include hquote

/-- A doubled quote closes and opens again. -/
theorem orderBysFrom_body (depth : Nat) (name rest : List Char) :
    orderBysFrom (some quote) depth (Identifier.body quote name ++ rest) =
      orderBysFrom (some quote) depth rest := by
  induction name with
  | nil => rfl
  | cons c name ih =>
    rw [Identifier.body, List.flatMap_cons, ← Identifier.body, List.append_assoc]
    split
    · rw [List.cons_append, List.singleton_append, orderBysFrom_inside, openAfter, if_pos rfl,
        orderBysFrom_quote hquote, ih]
    · next hc => rw [List.singleton_append, orderBysFrom_inside, openAfter, if_neg hc, ih]

theorem orderBysFrom_encode (depth : Nat) (name rest : List Char) :
    orderBysFrom none depth (Identifier.encode quote name ++ rest) =
      orderBysFrom none depth rest := by
  rw [Identifier.encode, List.append_assoc, List.cons_append, orderBysFrom_quote hquote,
    orderBysFrom_body hquote, List.singleton_append, orderBysFrom_inside, openAfter, if_pos rfl]

theorem adds_encode (name : List Char) : Adds (Identifier.encode quote name) 0 where
  nested depth rest := orderBysFrom_encode hquote (depth + 1) name rest
  top rest := (orderBysFrom_encode hquote 0 name rest).trans (Nat.zero_add _).symm

end Names

/-! ## Plain texts -/

/-- Whether further text cannot complete the words that start in a text. -/
def endsWhole : List Char → Bool
  | [] => true
  | c :: rest => !((c :: rest).map Char.toUpper).isPrefixOf "ORDER BY".toList && endsWhole rest

def isPlain (c : Char) : Bool := !isQuote c && c != '(' && c != ')'

theorem startsOrderBy_append {a : List Char} (b : List Char)
    (h : (a.map Char.toUpper).isPrefixOf "ORDER BY".toList = false) :
    startsOrderBy (a ++ b) = startsOrderBy a := by
  unfold startsOrderBy
  rw [Bool.eq_iff_iff, List.isPrefixOf_iff_prefix, List.isPrefixOf_iff_prefix, List.map_append]
  constructor
  · intro hwords
    rcases List.prefix_or_prefix_of_prefix hwords (List.prefix_append _ _) with hin | hcut
    · exact hin
    · rw [← List.isPrefixOf_iff_prefix, h] at hcut
      cases hcut
  · intro hwords
    exact hwords.trans (List.prefix_append _ _)

theorem adds_of_plain {text : List Char} (hplain : text.all isPlain = true)
    (hwhole : endsWhole text = true) : Adds text (orderBysFrom none 0 text) := by
  induction text with
  | nil => exact .nil
  | cons c rest ih =>
    simp only [List.all_cons, isPlain, Bool.and_eq_true, Bool.not_eq_true', bne_iff_ne] at hplain
    obtain ⟨⟨⟨hquote, hopen⟩, hclose⟩, hplain⟩ := hplain
    rw [endsWhole, Bool.and_eq_true, Bool.not_eq_true'] at hwhole
    have hrest := ih hplain hwhole.2
    constructor
    · intro depth after
      rw [List.cons_append, orderBysFrom_plain hquote hopen hclose, hrest.nested]
      simp
    · intro after
      rw [List.cons_append, orderBysFrom_plain hquote hopen hclose, hrest.top,
        orderBysFrom_plain hquote hopen hclose, ← List.cons_append,
        startsOrderBy_append after hwhole.1]
      omega

/-- Whether a fixed text leaves everything as it was. -/
def isSilent (text : List Char) : Bool :=
  text.all isPlain && endsWhole text && orderBysFrom none 0 text == 0

theorem adds_zero {text : List Char} (h : isSilent text = true) : Adds text 0 := by
  simp only [isSilent, Bool.and_eq_true, beq_iff_eq] at h
  exact h.2 ▸ adds_of_plain h.1.1 h.1.2

/-- A text in which nothing can start the words. -/
theorem adds_of_forall {text : List Char}
    (h : ∀ c ∈ text, isPlain c = true ∧ c.toUpper ≠ 'O') : Adds text 0 := by
  have hnone : ∀ {rest : List Char} {depth : Nat},
      orderBysFrom none depth (text ++ rest) = orderBysFrom none depth rest := by
    intro rest depth
    induction text with
    | nil => rfl
    | cons c text ih =>
      rw [List.forall_mem_cons] at h
      obtain ⟨⟨hplain, hne⟩, h⟩ := h
      simp only [isPlain, Bool.and_eq_true, Bool.not_eq_true', bne_iff_ne] at hplain
      have hstart : ¬(depth = 0 ∧ startsOrderBy (c :: (text ++ rest)) = true) :=
        fun hstart => hne (toUpper_of_startsOrderBy hstart.2)
      rw [List.cons_append, orderBysFrom_plain hplain.1.1 hplain.1.2 hplain.2, if_neg hstart]
      exact ih h
  exact ⟨fun _ _ => hnone, fun _ => hnone.trans (Nat.zero_add _).symm⟩

theorem Adds.skip {a : List Char} (ha : Adds a 0) (depth : Nat) (rest : List Char) :
    orderBysFrom none depth (a ++ rest) = orderBysFrom none depth rest := by
  cases depth with
  | zero => rw [ha.top, Nat.zero_add]
  | succ depth => exact ha.nested depth rest

theorem adds_repr (n : Nat) : Adds n.repr.toList 0 := by
  refine adds_of_forall fun c hc => ?_
  have hdigit : 0x30 ≤ c.toNat ∧ c.toNat ≤ 0x39 :=
    Char.isDigit_iff_toNat.1 (Text.isDigit_of_mem_repr hc)
  have hne : ∀ x : Char, x.toNat < 0x30 ∨ 0x39 < x.toNat → c ≠ x := by
    rintro x hx rfl
    omega
  rw [toUpper_of_lt (by omega)]
  refine ⟨?_, hne 'O' (by decide)⟩
  simp [isPlain, isQuote, hne '\x27' (by decide), hne '"' (by decide), hne '\x60' (by decide),
    hne '(' (by decide), hne ')' (by decide)]

/-! ## Paths -/

theorem adds_chars {quote : Char} (hquote : isQuote quote = true) :
    ∀ names : List String, Adds (Path.chars quote names) 0 := by
  have hitem : ∀ name, Adds (Path.itemChars quote name) 0 := by
    intro name
    unfold Path.itemChars
    split
    · exact adds_zero (by decide)
    · exact adds_encode hquote name.toList
  have hdot : Adds ['.'] 0 := adds_zero (by decide)
  intro names
  induction names with
  | nil => exact .nil
  | cons name names ih =>
    cases names with
    | nil => exact hitem name
    | cons next rest => exact (hitem name).append (hdot.append ih)

/-! ## Placeholders -/

/-- A numbered placeholder. -/
theorem adds_mark (n : Nat) : Adds ('$' :: n.repr.toList) 0 := by
  have hdollar : Adds ['$'] 0 := adds_zero (by decide)
  exact hdollar.append (adds_repr n)

theorem adds_placeholder (backend : Backend) (n : Nat) :
    Adds (backend.placeholder n).toList 0 := by
  have hmark : Adds "?".toList 0 := adds_zero (by decide)
  cases backend with
  | sqlite => exact hmark
  | mysql => exact hmark
  | postgres =>
    rw [Backend.placeholder, String.toList_append]
    exact adds_mark n

/-- A word without placeholders in it starts where it did, whichever way they are written. -/
theorem isPrefixOf_numberFrom {text : List Char} (rest : List Char) :
    ∀ {word : List Char} {quote : Option Char} {bound : Nat}, '?' ∉ word → '$' ∉ word →
      word.isPrefixOf ((numberFrom quote bound text ++ rest).map Char.toUpper) =
        word.isPrefixOf ((text ++ rest).map Char.toUpper) := by
  induction text with
  | nil => exact fun _ _ => rfl
  | cons c text ih =>
    intro word quote bound hmark hdollar
    cases word with
    | nil => rfl
    | cons x word =>
      rw [List.mem_cons, not_or] at hmark hdollar
      cases hc : isPlaceholder quote c with
      | true =>
        have hleft : (x == Char.toUpper '$') = false := beq_false_of_ne (Ne.symm hdollar.1)
        have hright : (x == Char.toUpper '?') = false := beq_false_of_ne (Ne.symm hmark.1)
        rw [numberFrom_placeholder hc, (isPlaceholder_iff.1 hc).2]
        simp only [List.cons_append, List.map_cons, List.isPrefixOf, hleft, hright, Bool.false_and]
      | false =>
        rw [numberFrom_plain hc]
        simp only [List.cons_append, List.map_cons, List.isPrefixOf, ih hmark.2 hdollar.2]

theorem startsOrderBy_numberFrom {quote : Option Char} {bound : Nat} {text : List Char} (c : Char)
    (rest : List Char) : startsOrderBy (c :: (numberFrom quote bound text ++ rest)) =
      startsOrderBy (c :: (text ++ rest)) := by
  have hrest : "RDER BY".toList.isPrefixOf ((numberFrom quote bound text ++ rest).map Char.toUpper) =
      "RDER BY".toList.isPrefixOf ((text ++ rest).map Char.toUpper) :=
    isPrefixOf_numberFrom rest (by decide) (by decide)
  exact congrArg (('O' == c.toUpper) && ·) hrest

/-- The words are where they were, whichever way the placeholders are written. -/
theorem orderBysFrom_numberFrom {text : List Char} (rest : List Char) :
    ∀ {quote : Option Char} {depth bound : Nat},
      orderBysFrom quote depth (numberFrom quote bound text ++ rest) =
        orderBysFrom quote depth (text ++ rest) := by
  induction text with
  | nil => exact rfl
  | cons c text ih =>
    intro quote depth bound
    cases hc : isPlaceholder quote c with
    | true =>
      obtain ⟨rfl, rfl⟩ := isPlaceholder_iff.1 hc
      have hmark : Adds ['?'] 0 := adds_zero (by decide)
      have hsingle := hmark.skip depth (text ++ rest)
      rw [List.singleton_append] at hsingle
      rw [numberFrom_placeholder rfl, List.append_assoc, (adds_mark (bound + 1)).skip,
        List.cons_append, hsingle]
      exact ih
    | false =>
      rw [numberFrom_plain hc, List.cons_append, List.cons_append, orderBysFrom, orderBysFrom, ih,
        startsOrderBy_numberFrom]

/-- Placeholders of another backend make no difference. -/
theorem orderBysFrom_bindPlaceholders (sql : String) (backend : Backend) (bound depth : Nat)
    (rest : List Char) :
    orderBysFrom none depth ((bindPlaceholders sql backend bound).toList ++ rest) =
      orderBysFrom none depth (sql.toList ++ rest) := by
  cases backend with
  | sqlite => rfl
  | mysql => rfl
  | postgres =>
    rw [bindPlaceholders, String.toList_ofList]
    exact orderBysFrom_numberFrom rest

theorem Adds.bindPlaceholders {sql : String} {n : Nat} (h : Adds sql.toList n) (backend : Backend)
    (bound : Nat) : Adds (bindPlaceholders sql backend bound).toList n where
  nested depth rest :=
    (orderBysFrom_bindPlaceholders sql backend bound _ rest).trans (h.nested depth rest)
  top rest := (orderBysFrom_bindPlaceholders sql backend bound 0 rest).trans (h.top rest)

end ServerGrid.Unquoted
