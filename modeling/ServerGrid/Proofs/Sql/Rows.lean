import Mathlib.Data.List.Dedup
import ServerGrid.Proofs.Sql.Truth

/-!
# The rows of a statement

`Tables` says how a database answers: the rows that a SELECT has before its WHERE clause, the
predicates that hold at a row, and how rows are sorted. `Select.rows` are then the rows of the first
SELECT that satisfy its WHERE clause, combined with the rows of each member by its set operator,
sorted and cut. SQLite reads the members of members as members and combines from left to right; on
the other backends a member is in parentheses and INTERSECT binds tighter. Main statement:
`forall_rows_iff`, a property of all rows of the first SELECT is one of all rows exactly when the
rows that the members bring in by themselves (`strayRows`) have it.
-/

namespace ServerGrid

/-- How a database answers. -/
structure Tables (ρ : Type) where
  /-- The rows of a SELECT before its WHERE clause. -/
  scan : Select → List ρ
  /-- The predicates that hold at a row. -/
  truth : ρ → Predicate → Bool
  sort : List SortKey → List ρ → List ρ
  sort_perm : ∀ keys rows, (sort keys rows).Perm rows

variable {ρ : Type}

/-! ## The first SELECT, sorting and cutting -/

/-- The rows that a limit and an offset leave. -/
def window (limit offset : Option UInt64) (rows : List ρ) : List ρ :=
  let rest := rows.drop ((offset.map UInt64.toNat).getD 0)
  match limit with
  | none => rest
  | some n => rest.take n.toNat

namespace Select

/-- The first SELECT of a statement without its WHERE clause. -/
def head (s : Select) : Select :=
  { s with filter := none, members := [], orderBy := [], limit := none, offset := none }

/-- The rows of the first SELECT that satisfy its WHERE clause. -/
def selected (t : Tables ρ) (s : Select) : List ρ :=
  (t.scan s.head).filter fun row => s.admits (t.truth row)

/-- Sort the combined rows of a statement and cut them. -/
def arranged (t : Tables ρ) (s : Select) (rows : List ρ) : List ρ :=
  window s.limit s.offset (t.sort s.orderBy rows)

theorem mem_arranged (t : Tables ρ) {s : Select} (h : s.limitsRows = false) {row : ρ}
    {rows : List ρ} : row ∈ s.arranged t rows ↔ row ∈ rows := by
  obtain ⟨hl, ho⟩ : s.limit = none ∧ s.offset = none := by
    simpa [limitsRows] using h
  rw [arranged, hl, ho]
  exact (t.sort_perm s.orderBy rows).mem_iff

end Select

variable [DecidableEq ρ]

/-! ## Set operators -/

namespace SetOperator

/-- The rows of two operands combined. -/
def combine : SetOperator → List ρ → List ρ → List ρ
  | .unionAll, a, b => a ++ b
  | .union, a, b => (a ++ b).dedup
  | .intersect, a, b => (a.filter (· ∈ b)).dedup
  | .except, a, b => (a.filter (· ∉ b)).dedup

/-- Whether a row of the right operand can be one of the result on its own. -/
def isUnion : SetOperator → Bool
  | .unionAll | .union => true
  | .intersect | .except => false

/-- Whether a row is in a combination depends on the operands only through whether it is in them. -/
theorem mem_combine_congr (op : SetOperator) {row : ρ} {a a' b b' : List ρ}
    (ha : row ∈ a ↔ row ∈ a') (hb : row ∈ b ↔ row ∈ b') :
    row ∈ op.combine a b ↔ row ∈ op.combine a' b' := by
  cases op <;> simp [combine, List.mem_dedup, ha, hb]

theorem combine_nil {op : SetOperator} (h : op.isUnion = false) (b : List ρ) :
    op.combine [] b = [] := by
  cases op
  · cases h
  · cases h
  · rfl
  · rfl

end SetOperator

/-- An operand of a set operation with the operator before it. -/
abbrev Operands (ρ : Type) := List (SetOperator × List ρ)

namespace Operands

/-- Combine rows with operands from left to right. -/
def inOrder (rows : List ρ) : Operands ρ → List ρ
  | [] => rows
  | (op, more) :: rest => inOrder (op.combine rows more) rest

/-- Combine rows with what waits for them on the left. -/
def settle (waiting : Option (SetOperator × List ρ)) (rows : List ρ) : List ρ :=
  match waiting with
  | none => rows
  | some (op, left) => op.combine left rows

/-- Combine rows with operands when INTERSECT binds tighter: `rows` is the operand that is being
gathered, and `waiting` what is combined with it once it is complete. -/
def intersectFirst (waiting : Option (SetOperator × List ρ)) (rows : List ρ) : Operands ρ → List ρ
  | [] => settle waiting rows
  | (op, more) :: rest =>
    if op = .intersect then intersectFirst waiting (op.combine rows more) rest
    else intersectFirst (some (op, settle waiting rows)) more rest

/-- Combine rows with operands as a backend does. -/
def combined (backend : Backend) (rows : List ρ) (operands : Operands ρ) : List ρ :=
  match backend with
  | .sqlite => inOrder rows operands
  | .mysql | .postgres => intersectFirst none rows operands

theorem mem_inOrder_congr {row : ρ} (operands : Operands ρ) :
    ∀ {a a' : List ρ}, (row ∈ a ↔ row ∈ a') →
      (row ∈ inOrder a operands ↔ row ∈ inOrder a' operands) := by
  induction operands with
  | nil => exact fun h => h
  | cons operand rest ih => exact fun h => ih (operand.1.mem_combine_congr h Iff.rfl)

/-- The row is in what waits on the left of one side as in that of the other. -/
def SameWaiting (row : ρ) : (a b : Option (SetOperator × List ρ)) → Prop
  | none, none => True
  | some (op, left), some (op', left') => op = op' ∧ (row ∈ left ↔ row ∈ left')
  | _, _ => False

theorem mem_settle_congr {row : ρ} {w w' : Option (SetOperator × List ρ)} {a a' : List ρ}
    (hw : SameWaiting row w w') (ha : row ∈ a ↔ row ∈ a') :
    row ∈ settle w a ↔ row ∈ settle w' a' := by
  match w, w', hw with
  | none, none, _ => exact ha
  | some (op, left), some (_, left'), ⟨rfl, hleft⟩ => exact op.mem_combine_congr hleft ha

theorem mem_intersectFirst_congr {row : ρ} (operands : Operands ρ) :
    ∀ {w w' : Option (SetOperator × List ρ)} {a a' : List ρ}, SameWaiting row w w' →
      (row ∈ a ↔ row ∈ a') →
        (row ∈ intersectFirst w a operands ↔ row ∈ intersectFirst w' a' operands) := by
  induction operands with
  | nil => exact mem_settle_congr
  | cons operand rest ih =>
    intro w w' a a' hw ha
    obtain ⟨op, more⟩ := operand
    by_cases hop : op = .intersect
    · simp only [intersectFirst, hop, ite_true]
      exact ih hw (SetOperator.intersect.mem_combine_congr ha Iff.rfl)
    · simp only [intersectFirst, hop, ite_false]
      exact ih ⟨rfl, mem_settle_congr hw ha⟩ Iff.rfl

theorem mem_combined_congr (backend : Backend) {row : ρ} (operands : Operands ρ) {a a' : List ρ}
    (h : row ∈ a ↔ row ∈ a') :
    row ∈ combined backend a operands ↔ row ∈ combined backend a' operands := by
  cases backend
  · exact mem_inOrder_congr operands h
  · exact mem_intersectFirst_congr operands trivial h
  · exact mem_intersectFirst_congr operands trivial h

/-! ## Operands without a union bring in nothing -/

theorem inOrder_nil {operands : Operands ρ} (h : ∀ o ∈ operands, o.1.isUnion = false) :
    inOrder ([] : List ρ) operands = [] := by
  induction operands with
  | nil => rfl
  | cons operand rest ih =>
    rw [inOrder, SetOperator.combine_nil (h operand List.mem_cons_self)]
    exact ih fun o ho => h o (List.mem_cons_of_mem _ ho)

/-- Neither what waits on the left nor the rows combined with it bring in a row. -/
def BringsNothing (waiting : Option (SetOperator × List ρ)) (rows : List ρ) : Prop :=
  match waiting with
  | none => rows = []
  | some (op, left) => op.isUnion = false ∧ left = []

theorem settle_eq_nil {w : Option (SetOperator × List ρ)} {rows : List ρ}
    (h : BringsNothing w rows) : settle w rows = [] := by
  match w, h with
  | none, hrows => exact hrows
  | some (_, _), ⟨hop, rfl⟩ => exact SetOperator.combine_nil hop rows

theorem intersectFirst_nil {operands : Operands ρ} (h : ∀ o ∈ operands, o.1.isUnion = false) :
    ∀ {w : Option (SetOperator × List ρ)} {rows : List ρ}, BringsNothing w rows →
      intersectFirst w rows operands = [] := by
  induction operands with
  | nil => exact settle_eq_nil
  | cons operand rest ih =>
    intro w rows hw
    obtain ⟨op, more⟩ := operand
    have hrest : ∀ o ∈ rest, o.1.isUnion = false := fun o ho => h o (List.mem_cons_of_mem _ ho)
    by_cases hop : op = .intersect
    · simp only [intersectFirst, hop, ite_true]
      refine ih hrest ?_
      match w, hw with
      | none, hrows =>
        rw [show rows = [] from hrows]
        exact SetOperator.combine_nil rfl more
      | some (_, _), hw => exact hw
    · simp only [intersectFirst, hop, ite_false]
      exact ih hrest ⟨h (op, more) List.mem_cons_self, settle_eq_nil hw⟩

theorem combined_nil (backend : Backend) {operands : Operands ρ}
    (h : ∀ o ∈ operands, o.1.isUnion = false) : combined backend ([] : List ρ) operands = [] := by
  cases backend
  · exact inOrder_nil h
  · exact intersectFirst_nil h rfl
  · exact intersectFirst_nil h rfl

end Operands

/-! ## Statements -/

namespace Select

mutual

/-- The rows of the first SELECT and the operands of a statement. -/
def parts (t : Tables ρ) (backend : Backend) : Select → List ρ × Operands ρ
  | s@⟨_, _, _, _, _, _, _, members, _, _, _⟩ => (s.selected t, operands t backend members)

/-- The operands that the members of a statement are read as. -/
def operands (t : Tables ρ) (backend : Backend) : List (SetOperator × Select) → Operands ρ
  | [] => []
  | (op, body) :: rest =>
    let (first, further) := parts t backend body
    (match backend with
      | .sqlite => (op, first) :: further
      | .mysql | .postgres => [(op, body.arranged t (Operands.combined backend first further))]) ++
      operands t backend rest

end

/-- The rows of a statement. -/
def rows (t : Tables ρ) (backend : Backend) (s : Select) : List ρ :=
  s.arranged t (Operands.combined backend (s.selected t) (operands t backend s.members))

/-- The rows that the members bring in when the first SELECT has none. -/
def strayRows (t : Tables ρ) (backend : Backend) (s : Select) : List ρ :=
  Operands.combined backend [] (operands t backend s.members)

/-- A property of the rows of the first SELECT is one of all rows exactly when the members bring in
no row without it. -/
theorem forall_rows_iff (t : Tables ρ) (backend : Backend) {s : Select} (p : ρ → Bool)
    (hselected : ∀ row ∈ s.selected t, p row = true) (hlimit : s.limitsRows = false) :
    (∀ row ∈ s.rows t backend, p row = true) ↔ ∀ row ∈ s.strayRows t backend, p row = true := by
  have hsame : ∀ row, p row = false →
      (row ∈ s.rows t backend ↔ row ∈ s.strayRows t backend) := by
    intro row hrow
    have hmem : row ∈ s.selected t ↔ row ∈ ([] : List ρ) := by
      refine iff_of_false (fun h => ?_) List.not_mem_nil
      rw [hselected row h] at hrow
      cases hrow
    rw [rows, mem_arranged t hlimit]
    exact Operands.mem_combined_congr backend _ hmem
  constructor
  · intro h row hrow
    cases hp : p row
    · rw [← hp]
      exact h row ((hsame row hp).2 hrow)
    · rfl
  · intro h row hrow
    cases hp : p row
    · rw [← hp]
      exact h row ((hsame row hp).1 hrow)
    · rfl

end Select

end ServerGrid
