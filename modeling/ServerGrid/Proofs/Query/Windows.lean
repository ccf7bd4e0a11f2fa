import Mathlib.Algebra.Group.Nat.Defs
import ServerGrid.Paging
import ServerGrid.Proofs.Text.Cutting

/-!
# The rows a page stands for

A paging clause is read back, word by word, as a window of rows (`Window.ofClause?`). The numbers of
a page come from signed ones, so they lie in the lower half of their range and their sum is still in
range. Main statement: `window_limitClause`, whatever the style of the clause, its window is that of
the page.
-/

namespace ServerGrid

/-- The rows from the first to the last one, counted from one. -/
structure Window where
  first : Nat
  last : Nat
  deriving DecidableEq, Repr

/-- The number that a word of decimal digits stands for. -/
def decimal? (word : String) : Option Nat :=
  if !word.isEmpty && word.toList.all Char.isDigit then some (Nat.ofDigitChars 10 word.toList 0)
  else none

namespace Window

/-- The window of so many rows after those that are skipped. -/
def after (skipped count : Nat) : Window := ⟨skipped + 1, skipped + count⟩

/-- The window that the words of a paging clause ask for. -/
def ofWords? : List String → Option Window
  | ["LIMIT", limit, "OFFSET", offset] => do
    return after (← decimal? offset) (← decimal? limit)
  | ["OFFSET", offset, "ROWS", "FETCH", "NEXT", limit, "ROWS", "ONLY"] => do
    return after (← decimal? offset) (← decimal? limit)
  | ["ROWS", first, "TO", last] => do
    return ⟨← decimal? first, ← decimal? last⟩
  | _ => none

def ofClause? (clause : String) : Option Window := ofWords? (Text.segments ' ' clause)

end Window

/-! ## Words of a clause -/

theorem Text.segments_join {words : List String} (hne : words ≠ [])
    (hwords : ∀ word ∈ words, ' ' ∉ word.toList) :
    Text.segments ' ' (Text.join " " words) = words := by
  induction words with
  | nil => exact absurd rfl hne
  | cons word rest ih =>
    obtain ⟨hword, hrest⟩ := List.forall_mem_cons.1 hwords
    cases rest with
    | nil => simp [Text.join, Text.segments, Text.segmentsList_of_not_mem hword]
    | cons next rest =>
      have hlater := ih (List.cons_ne_nil _ _) hrest
      have hblank : " ".toList = [' '] := rfl
      rw [Text.segments] at hlater ⊢
      rw [Text.join, String.toList_append, String.toList_append, List.append_assoc, hblank,
        List.singleton_append, Text.segmentsList_append, Text.segmentsList_of_not_mem hword,
        List.map_append, hlater]
      simp

theorem decimal?_repr (n : Nat) : decimal? n.repr = some n := by
  have hne : n.repr.isEmpty = false := by simp
  have hdigits : n.repr.toList.all Char.isDigit = true :=
    List.all_eq_true.2 fun c hc => Text.isDigit_of_mem_repr hc
  rw [decimal?, hne, hdigits, Nat.toList_repr, Nat.ofDigitChars_ten_toDigits]
  rfl

theorem Window.ofClause?_eq {clause : String} {words : List String}
    (hclause : clause = Text.join " " words) (hne : words ≠ [])
    (hwords : ∀ word ∈ words, ' ' ∉ word.toList) : ofClause? clause = ofWords? words := by
  rw [ofClause?, hclause, Text.segments_join hne hwords]

/-! ## Numbers in range -/

theorem Dialect.toNat_addSaturating {a b : UInt64} (h : a.toNat + b.toNat < UInt64.size) :
    (addSaturating a b).toNat = a.toNat + b.toNat := by
  rw [addSaturating, if_pos h, UInt64.toNat_add]
  exact Nat.mod_eq_of_lt h

namespace Page

variable (start length : Option Int64)

theorem toNat_offset : ((ofRequest start length).offset.toNat : Int) =
    start.elim 0 fun n => max n.toInt 0 := by
  cases start with
  | none => rfl
  | some n =>
    have hn := n.toInt_lt
    change ((if 0 ≤ n.toInt then UInt64.ofNat n.toInt.toNat else 0).toNat : Int) = max n.toInt 0
    split
    · rw [UInt64.toNat_ofNat', Nat.mod_eq_of_lt (by omega)]
      omega
    · rw [UInt64.toNat_zero]
      omega

theorem toNat_limit : ((ofRequest start length).limit.toNat : Int) =
    length.elim 10 fun n => if 0 < n.toInt then n.toInt else 10 := by
  cases length with
  | none => rfl
  | some n =>
    have hn := n.toInt_lt
    change ((if 0 < n.toInt then UInt64.ofNat n.toInt.toNat else defaultPageLength).toNat : Int) =
      if 0 < n.toInt then n.toInt else 10
    split
    · rw [UInt64.toNat_ofNat', Nat.mod_eq_of_lt (by omega)]
      omega
    · rfl

theorem toNat_offset_lt : (ofRequest start length).offset.toNat < 2 ^ 63 := by
  have hoffset := toNat_offset start length
  cases start with
  | none =>
    simp only [Option.elim_none] at hoffset
    omega
  | some n =>
    have hn := n.toInt_lt
    simp only [Option.elim_some] at hoffset
    omega

theorem toNat_limit_bounds : 1 ≤ (ofRequest start length).limit.toNat ∧
    (ofRequest start length).limit.toNat < 2 ^ 63 := by
  have hlimit := toNat_limit start length
  cases length with
  | none =>
    simp only [Option.elim_none] at hlimit
    omega
  | some n =>
    have hn := n.toInt_lt
    simp only [Option.elim_some] at hlimit
    split at hlimit <;> omega

end Page

/-! ## Clauses -/

/-- A clause whose numbers do not saturate asks for the rows after the offset. -/
theorem Dialect.ofClause?_limitClause (d : Dialect) {offset limit : UInt64}
    (hfirst : (addSaturating offset 1).toNat = offset.toNat + 1)
    (hlast : (addSaturating offset limit).toNat = offset.toNat + limit.toNat) :
    Window.ofClause? (d.limitClause offset limit) = some (.after offset.toNat limit.toNat) := by
  unfold limitClause
  cases d.templates.paging with
  | limitOffset =>
    have hwords : "LIMIT " ++ limit.toNat.repr ++ " OFFSET " ++ offset.toNat.repr =
        Text.join " " ["LIMIT", limit.toNat.repr, "OFFSET", offset.toNat.repr] := by
      rw [← String.toList_inj]
      simp [Text.join]
    refine (Window.ofClause?_eq hwords (List.cons_ne_nil _ _) ?_).trans ?_
    · simp only [List.forall_mem_cons, Text.blank_not_mem_repr]
      decide
    · simp [Window.ofWords?, decimal?_repr]
  | offsetFetch =>
    have hwords : "OFFSET " ++ offset.toNat.repr ++ " ROWS FETCH NEXT " ++ limit.toNat.repr ++
        " ROWS ONLY" = Text.join " " ["OFFSET", offset.toNat.repr, "ROWS", "FETCH", "NEXT",
          limit.toNat.repr, "ROWS", "ONLY"] := by
      rw [← String.toList_inj]
      simp [Text.join]
    refine (Window.ofClause?_eq hwords (List.cons_ne_nil _ _) ?_).trans ?_
    · simp only [List.forall_mem_cons, Text.blank_not_mem_repr]
      decide
    · simp [Window.ofWords?, decimal?_repr]
  | rows =>
    have hwords : "ROWS " ++ (offset.toNat + 1).repr ++ " TO " ++
        (offset.toNat + limit.toNat).repr = Text.join " " ["ROWS", (offset.toNat + 1).repr, "TO",
          (offset.toNat + limit.toNat).repr] := by
      rw [← String.toList_inj]
      simp [Text.join]
    simp only [hfirst, hlast]
    refine (Window.ofClause?_eq hwords (List.cons_ne_nil _ _) ?_).trans ?_
    · simp only [List.forall_mem_cons, Text.blank_not_mem_repr]
      decide
    · simp [Window.ofWords?, decimal?_repr, Window.after]

/-- **All paging clauses ask for the same rows.** A request that does not ask for every row gets the
page at its start, or at the first row, with its length, or with ten rows. The numbers of the page
are below `2 ^ 63`, neither sum of the clause that tells the first and the last row saturates, and
the clause of every dialect asks for the rows that follow the offset, as many as the limit says. -/
theorem window_limitClause (r : Request) (hpaged : r.length ≠ some (-1)) :
    let page := Page.ofRequest r.start r.length
    let offset := page.offset.toNat
    let limit := page.limit.toNat
    (∀ q : BaseQuery, q.applyPaging r = (q.paginate page, some page)) ∧
      (offset : Int) = r.start.elim 0 (fun n => max n.toInt 0) ∧
      (limit : Int) = r.length.elim 10 (fun n => if 0 < n.toInt then n.toInt else 10) ∧
      offset < 2 ^ 63 ∧ limit < 2 ^ 63 ∧ 1 ≤ limit ∧
      (Dialect.addSaturating page.offset 1).toNat = offset + 1 ∧
      (Dialect.addSaturating page.offset page.limit).toNat = offset + limit ∧
      ∀ d : Dialect, Window.ofClause? (d.limitClause page.offset page.limit) =
        some ⟨offset + 1, offset + limit⟩ := by
  intro page offset limit
  have hsize : UInt64.size = 2 ^ 64 := rfl
  have hoffset : offset < 2 ^ 63 := Page.toNat_offset_lt r.start r.length
  obtain ⟨hpositive, hlimit⟩ : 1 ≤ limit ∧ limit < 2 ^ 63 :=
    Page.toNat_limit_bounds r.start r.length
  have hfirst : (Dialect.addSaturating page.offset 1).toNat = offset + 1 := by
    apply Dialect.toNat_addSaturating
    change offset + 1 < UInt64.size
    omega
  have hlast : (Dialect.addSaturating page.offset page.limit).toNat = offset + limit := by
    apply Dialect.toNat_addSaturating
    change offset + limit < UInt64.size
    omega
  refine ⟨fun q => ?_, Page.toNat_offset _ _, Page.toNat_limit _ _, hoffset, hlimit, hpositive,
    hfirst, hlast, fun d => d.ofClause?_limitClause hfirst hlast⟩
  have hpage : r.page? = some page := by
    rw [Request.page?, Request.isPaged, decide_eq_true hpaged, if_pos rfl]
  rw [BaseQuery.applyPaging, hpage]

/-- The greatest start and length of a request still fit the clause that tells the last row. -/
theorem window_limitClause_greatest :
    let r : Request :=
      { Request.empty with start := some Int64.maxValue, length := some Int64.maxValue }
    let page := Page.ofRequest r.start r.length
    r.length ≠ some (-1) ∧
      Dialect.firebird.limitClause page.offset page.limit =
        "ROWS 9223372036854775808 TO 18446744073709551614" ∧
      Window.ofClause? (Dialect.firebird.limitClause page.offset page.limit) =
        some ⟨9223372036854775808, 18446744073709551614⟩ := by
  intro r page
  have hpaged : r.length ≠ some (-1) := by decide
  have hoffset : page.offset.toNat = 9223372036854775807 := by decide
  have hlimit : page.limit.toNat = 9223372036854775807 := by decide
  obtain ⟨-, -, -, -, -, -, -, -, hwindow⟩ := window_limitClause r hpaged
  refine ⟨hpaged, by decide, (hwindow .firebird).trans ?_⟩
  rw [hoffset, hlimit]

end ServerGrid
