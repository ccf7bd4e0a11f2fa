import Mathlib.Tactic.MkIffOfInductiveProp
import Mathlib.Tactic.Tauto
import ServerGrid.Column.Registry

/-!
# Declared registries

Hidden and allowed columns are declared call by call. Hidden columns add up (`hidden_declareAll`),
and what is allowed in the end depends on the latest restriction alone (`allowed_declareAll`). Main
statement: `isHidden_iff_keepsOut_iff`, the registry keeps a column out as the declarations say,
calls apart that the latest restriction lists beside `*`.
-/

namespace ServerGrid

/-- What the application says about hidden and allowed columns. -/
inductive Declaration where
  | hide (columns : List String)
  | allowOnly (columns : List String)
  deriving DecidableEq, Repr

/-- The columns of the latest restriction. -/
def Declaration.latest : List Declaration → Option (List String)
  | [] => none
  | .hide _ :: rest => latest rest
  | .allowOnly columns :: rest => some ((latest rest).getD columns)

namespace Declaration

/-- The columns of every declaration that hides some. -/
def hiddenColumns : List Declaration → List String
  | [] => []
  | .hide columns :: rest => columns ++ hiddenColumns rest
  | .allowOnly _ :: rest => hiddenColumns rest

variable (declarations : List Declaration) (column : String)

/-- The latest restriction has the column among its own. -/
def Lists : Prop := ∃ columns, latest declarations = some columns ∧ column ∈ columns

/-- What declarations say of a column: it is kept out when it is hidden, when it is a call that is
not listed, or when there is a restriction that lists neither the column nor `*`. -/
def KeepsOut : Prop :=
  column ∈ hiddenColumns declarations ∨
  (isFunctionCall column = true ∧ ¬Lists declarations column) ∨
  (isFunctionCall column = false ∧ (latest declarations).isSome = true ∧
    ¬Lists declarations column ∧ ¬Lists declarations "*")

/-- A call that is listed and not hidden, in a restriction that lists `*` as well. -/
@[mk_iff]
structure CallBesideStar : Prop where
  call : isFunctionCall column = true
  not_hidden : column ∉ hiddenColumns declarations
  listed : Lists declarations column
  star : Lists declarations "*"

variable {declarations column}

theorem lists_of_latest {columns : List String} (h : latest declarations = some columns) :
    Lists declarations column ↔ column ∈ columns := by
  constructor
  · rintro ⟨columns', h', hcolumn⟩
    rw [h] at h'
    cases h'
    exact hcolumn
  · exact fun hcolumn => ⟨columns, h, hcolumn⟩

theorem not_lists_of_latest (h : latest declarations = none) : ¬Lists declarations column := by
  rintro ⟨columns, h', -⟩
  rw [h] at h'
  cases h'

theorem CallBesideStar.not_keepsOut (h : CallBesideStar declarations column) :
    ¬KeepsOut declarations column := by
  rintro (hhidden | ⟨-, hlist⟩ | ⟨hcall, -⟩)
  · exact h.not_hidden hhidden
  · exact hlist h.listed
  · exact Bool.false_ne_true (hcall.symm.trans h.call)

end Declaration

namespace Registry

def declare (r : Registry) : Declaration → Registry
  | .hide columns => r.hide columns
  | .allowOnly columns => r.allowOnly columns

/-- The registry after declarations in order. -/
def declareAll (r : Registry) (declarations : List Declaration) : Registry :=
  declarations.foldl declare r

/-- A restriction to `*` among others allows every column. -/
theorem allowed_declareAll (declarations : List Declaration) : ∀ r : Registry,
    (r.declareAll declarations).allowed =
      match Declaration.latest declarations with
      | some columns => if columns.contains "*" then none else some columns
      | none => r.allowed := by
  induction declarations with
  | nil => exact fun _ => rfl
  | cons d rest ih =>
    intro r
    have hrest : (r.declareAll (d :: rest)).allowed = ((r.declare d).declareAll rest).allowed := rfl
    rw [hrest, ih]
    cases d with
    | hide columns => rfl
    | allowOnly columns =>
      rw [Declaration.latest]
      cases Declaration.latest rest <;> rfl

theorem hidden_declareAll (declarations : List Declaration) : ∀ r : Registry,
    (r.declareAll declarations).hidden = r.hidden ++ Declaration.hiddenColumns declarations := by
  induction declarations with
  | nil => exact fun r => (List.append_nil r.hidden).symm
  | cons d rest ih =>
    intro r
    have hrest : (r.declareAll (d :: rest)).hidden = ((r.declare d).declareAll rest).hidden := rfl
    rw [hrest, ih]
    cases d with
    | hide columns => exact List.append_assoc r.hidden columns _
    | allowOnly columns => rfl

section Unrestricted

variable {r : Registry} (hr : r.allowed = none) {declarations : List Declaration} {column : String}
include hr

/-- Without a restriction before, a column is allowed by name when the latest one lists it and does
not allow every column. -/
theorem isAllowedByName_declareAll_iff :
    (r.declareAll declarations).isAllowedByName column = true ↔
      Declaration.Lists declarations column ∧ ¬Declaration.Lists declarations "*" := by
  unfold isAllowedByName
  rw [allowed_declareAll, hr]
  cases hlatest : Declaration.latest declarations with
  | none => simp [Declaration.not_lists_of_latest hlatest]
  | some columns =>
    rw [Declaration.lists_of_latest hlatest, Declaration.lists_of_latest hlatest]
    by_cases hstar : "*" ∈ columns <;> simp [hstar]

theorem mem_latest_of_isAllowedByName
    (h : (r.declareAll declarations).isAllowedByName column = true) :
    ∃ columns, Declaration.latest declarations = some columns ∧ column ∈ columns :=
  ((isAllowedByName_declareAll_iff hr).1 h).1

theorem isSome_allowed_declareAll_iff :
    (r.declareAll declarations).allowed.isSome = true ↔
      (Declaration.latest declarations).isSome = true ∧ ¬Declaration.Lists declarations "*" := by
  rw [allowed_declareAll, hr]
  cases hlatest : Declaration.latest declarations with
  | none => simp
  | some columns =>
    rw [Declaration.lists_of_latest hlatest]
    by_cases hstar : "*" ∈ columns <;> simp [hstar]

theorem isHidden_declareAll_iff (hhidden : r.hidden = []) :
    (r.declareAll declarations).isHidden column = true ↔
      Declaration.KeepsOut declarations column ∨
        Declaration.CallBesideStar declarations column := by
  have hmem : (r.declareAll declarations).hidden.contains column = true ↔
      column ∈ Declaration.hiddenColumns declarations := by
    rw [hidden_declareAll, hhidden, List.nil_append, List.contains_iff_mem]
  unfold isHidden
  rw [Bool.or_eq_true, hmem, Declaration.KeepsOut, Declaration.callBesideStar_iff]
  cases hcall : isFunctionCall column with
  | true =>
    rw [if_pos rfl, Bool.not_eq_true', ← Bool.not_eq_true, isAllowedByName_declareAll_iff hr]
    simp only [true_and, Bool.true_eq_false, false_and, or_false]
    tauto
  | false =>
    rw [if_neg Bool.false_ne_true, Bool.and_eq_true, isSome_allowed_declareAll_iff hr,
      Bool.not_eq_true', ← Bool.not_eq_true, isAllowedByName_declareAll_iff hr]
    simp only [Bool.false_eq_true, false_and, or_false, false_or, true_and]
    tauto

end Unrestricted

/-- **A column is kept out as the declarations say, unless it is a call beside `*`.** Such a call is
kept out as well, and nothing else is besides what the declarations say. -/
theorem isHidden_iff_keepsOut_iff (filters : Keyed FilterCallback) (orders : Keyed CustomOrder)
    (declarations : List Declaration) (column : String) :
    let registry := { Registry.empty with filters, orders }.declareAll declarations
    (registry.isHidden column = true ↔ Declaration.KeepsOut declarations column ∨
      Declaration.CallBesideStar declarations column) ∧
    ((registry.isHidden column = true ↔ Declaration.KeepsOut declarations column) ↔
      ¬Declaration.CallBesideStar declarations column) := by
  intro registry
  have hhidden : registry.isHidden column = true ↔ _ :=
    isHidden_declareAll_iff (r := { Registry.empty with filters, orders }) rfl rfl
  refine ⟨hhidden, fun hrule hstar => ?_, fun hstar => ?_⟩
  · exact hstar.not_keepsOut (hrule.1 (hhidden.2 (.inr hstar)))
  · rw [hhidden, or_iff_left hstar]

/-- A call that is allowed by name is kept out when every column is allowed with it. -/
theorem isHidden_callBesideStar :
    let declarations : List Declaration := [.allowOnly ["LOWER(email)", "*"]]
    (Registry.empty.declareAll declarations).isHidden "LOWER(email)" = true ∧
      ¬Declaration.KeepsOut declarations "LOWER(email)" := by
  have hstar : Declaration.CallBesideStar [.allowOnly ["LOWER(email)", "*"]] "LOWER(email)" :=
    ⟨by decide, by decide, ⟨_, rfl, by decide⟩, ⟨_, rfl, by decide⟩⟩
  exact ⟨by decide, hstar.not_keepsOut⟩

end Registry

end ServerGrid
