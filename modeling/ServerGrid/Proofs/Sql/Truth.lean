import ServerGrid.Sql.Select

/-!
# The truth of conditions that are put together

Groups are unwrapped when they hold one member, appended, or nested once more, depending on the
junction and the negation of what is there already. None of this changes a truth value:
`holds_add` adds a member to a group, `holds_conjoin` narrows a condition, and `holds_formula`
passes from the groups to the connectives that are written as SQL. `Select.admits` is the truth of
a statement's WHERE clause as it is written, and `admits_conjoin` narrows it.
-/

namespace ServerGrid

variable (truth : Predicate → Bool)

/-! ## Junctions -/

namespace Junction

@[simp] theorem join_unit (j : Junction) (b : Bool) : j.join b j.unit = b := by
  cases j
  · exact Bool.and_true b
  · exact Bool.or_false b

@[simp] theorem unit_join (j : Junction) (b : Bool) : j.join j.unit b = b := by
  cases j
  · exact Bool.true_and b
  · exact Bool.false_or b

theorem join_assoc (j : Junction) (a b c : Bool) :
    j.join (j.join a b) c = j.join a (j.join b c) := by
  cases j
  · exact Bool.and_assoc a b c
  · exact Bool.or_assoc a b c

end Junction

/-! ## Groups -/

namespace Clause

theorem holdsAll_append (j : Junction) (xs ys : List Clause) :
    holdsAll truth j (xs ++ ys) = j.join (holdsAll truth j xs) (holdsAll truth j ys) := by
  induction xs with
  | nil => rw [List.nil_append, holdsAll, Junction.unit_join]
  | cons x xs ih => rw [List.cons_append, holdsAll, holdsAll, ih, Junction.join_assoc]

theorem holdsAll_singleton (j : Junction) (x : Clause) :
    holdsAll truth j [x] = x.holds truth := by
  rw [holdsAll, holdsAll, Junction.join_unit]

theorem holdsAll_all (xs : List Clause) : holdsAll truth .all xs = xs.all (·.holds truth) := by
  induction xs with
  | nil => rfl
  | cons x xs ih => rw [holdsAll, ih, List.all_cons]; rfl

theorem holdsAll_any (xs : List Clause) : holdsAll truth .any xs = xs.any (·.holds truth) := by
  induction xs with
  | nil => rfl
  | cons x xs ih => rw [holdsAll, ih, List.any_cons]; rfl

/-- A lone member is as true as its group. -/
@[simp] theorem holds_unwrap (c : Clause) : c.unwrap.holds truth = c.holds truth := by
  unfold unwrap
  split
  · rw [holds, holdsAll_singleton, Bool.false_xor]
  · rfl

end Clause

namespace Condition

@[simp] theorem holds_toClause (c : Condition) : c.toClause.holds truth = c.holds truth := rfl

/-- What a condition says, its negation aside. -/
theorem holds_eq (c : Condition) :
    c.holds truth = (c.negated ^^ Clause.holdsAll truth c.junction c.members) := by
  rw [Condition.holds, toClause, Clause.holds]

theorem holds_add {c : Condition} (h : c.negated = false) (member : Clause) :
    (c.add member).holds truth = c.junction.join (c.holds truth) (member.holds truth) := by
  rw [holds_eq, holds_eq]
  simp only [add, h, Bool.false_xor]
  rw [Clause.holdsAll_append, Clause.holdsAll_singleton, Clause.holds_unwrap]

/-- Members added one by one are members of the group. -/
theorem holds_foldl_add (members : List Clause) :
    ∀ {c : Condition}, c.negated = false → (members.foldl add c).holds truth =
      c.junction.join (c.holds truth) (Clause.holdsAll truth c.junction members) := by
  induction members with
  | nil =>
    intro c _
    rw [List.foldl_nil, Clause.holdsAll, Junction.join_unit]
  | cons member members ih =>
    intro c h
    have hadd : (c.add member).negated = false := h
    rw [List.foldl_cons, ih hadd, holds_add truth h, Clause.holdsAll, ← Junction.join_assoc]
    rfl

theorem members_foldl_add (members : List Clause) (c : Condition) :
    (members.foldl add c).members = c.members ++ members.map Clause.unwrap := by
  induction members generalizing c with
  | nil => simp
  | cons member members ih => simp [ih, add]

theorem isEmpty_foldl_add (members : List Clause) {c : Condition} (h : c.members = []) :
    (members.foldl add c).isEmpty = members.isEmpty := by
  rw [isEmpty, members_foldl_add, h, List.nil_append]
  cases members <;> rfl

/-- Narrowing a condition is a conjunction, whatever the shape of what is there. -/
theorem holds_conjoin (current : Option Condition) (addition : Condition) :
    (conjoin current addition).holds truth = (holds? truth current && addition.holds truth) := by
  cases current with
  | none => rfl
  | some current =>
    by_cases hc : current.isPlainAll = true
    · obtain ⟨hj, hn⟩ : current.junction = .all ∧ current.negated = false := by
        simpa [isPlainAll] using hc
      by_cases ha : addition.isPlainAll = true
      · obtain ⟨haj, han⟩ : addition.junction = .all ∧ addition.negated = false := by
          simpa [isPlainAll] using ha
        simp only [conjoin, hc, ha, ite_true, holds?]
        rw [holds_eq, holds_eq truth current, holds_eq truth addition]
        simp only [hj, hn, haj, han, Bool.false_xor]
        exact Clause.holdsAll_append truth .all current.members addition.members
      · simp only [conjoin, hc, ha, ite_true, Bool.false_eq_true, ite_false, holds?]
        rw [holds_add truth hn, hj, holds_toClause]
        rfl
    · simp only [conjoin, hc, Bool.false_eq_true, ite_false, holds?]
      rw [holds_add truth rfl, holds_add truth rfl, holds_toClause, holds_toClause]
      exact congrArg (· && addition.holds truth) (Bool.true_and (current.holds truth))

end Condition

/-! ## Formulas -/

namespace Clause

mutual

theorem holds_formula : ∀ c : Clause, c.formula.holds truth = c.holds truth
  | .leaf p => by rw [formula, Formula.holds, holds]
  | .group j negated members => by
    have h := holds_membersFormula j members
    cases negated
    · simp only [formula, Bool.false_eq_true, ite_false]
      rw [h, holds, Bool.false_xor]
    · simp only [formula, ite_true, Formula.holds]
      rw [h, holds, Bool.true_xor]

theorem holds_membersFormula (j : Junction) :
    ∀ members : List Clause, (membersFormula j members).holds truth = holdsAll truth j members
  | [] => by rw [membersFormula, Formula.holds, holdsAll]
  | first :: rest => by
    rw [membersFormula, holds_joinFormula j first.formula rest, holds_formula first, holdsAll]

theorem holds_joinFormula (j : Junction) (joined : Formula) : ∀ members : List Clause,
    (joinFormula j joined members).holds truth =
      j.join (joined.holds truth) (holdsAll truth j members)
  | [] => by rw [joinFormula, holdsAll, Junction.join_unit]
  | next :: rest => by
    rw [joinFormula, holds_joinFormula j _ rest, Formula.holds, holds_formula next, holdsAll,
      Junction.join_assoc]

end

end Clause

theorem Condition.holds_formula (c : Condition) : c.formula.holds truth = c.holds truth :=
  Clause.holds_formula truth c.toClause

/-! ## WHERE clauses -/

namespace Select

/-- Whether the WHERE clause holds, read as the formula that is written. -/
def admits (s : Select) (truth : Predicate → Bool) : Bool :=
  match s.filter with
  | none => true
  | some c => c.formula.holds truth

theorem admits_eq_holds (s : Select) : s.admits truth = Condition.holds? truth s.filter := by
  unfold admits
  cases s.filter with
  | none => rfl
  | some c => exact c.holds_formula truth

theorem admits_conjoin (s : Select) (c : Condition) :
    (s.conjoin c).admits truth = (s.admits truth && c.holds truth) := by
  rw [admits_eq_holds, admits_eq_holds]
  exact Condition.holds_conjoin truth s.filter c

end Select

end ServerGrid
