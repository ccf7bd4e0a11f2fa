import ServerGrid.Sql.Select

/-!
# Statements without their values

Conditions are mapped leaf by leaf, which commutes with everything that puts conditions together
and writes them. To redact a condition is to replace each value in it by one and the same value.
Main statement: `Select.outline_congr`, statements whose WHERE clauses are the same when redacted
have the same text and bind as many values.
-/

namespace ServerGrid

/-- What a statement shows of itself without its values: its text, and how many values it binds. -/
def Statement.outline (s : Statement) : String × Nat := (s.sql, s.values.length)

/-! ## Pieces -/

namespace Piece

def redacted : Piece → Piece
  | .param _ => .param (.bool none)
  | piece => piece

@[simp] theorem redacted_redacted (piece : Piece) : piece.redacted.redacted = piece.redacted := by
  cases piece <;> rfl

theorem sqlFrom_redacted (backend : Backend) (pieces : List Piece) (bound : Nat) :
    sqlFrom backend bound (pieces.map redacted) = sqlFrom backend bound pieces := by
  induction pieces generalizing bound with
  | nil => rfl
  | cons piece rest ih =>
    cases piece with
    | text s => exact congrArg (s ++ ·) (ih bound)
    | name s => exact congrArg (Identifier.quoted backend.quote s ++ ·) (ih bound)
    | raw s => exact congrArg (s ++ ·) (ih bound)
    | param v => exact congrArg (backend.placeholder (bound + 1) ++ ·) (ih (bound + 1))

theorem length_values_redacted (pieces : List Piece) :
    (values (pieces.map redacted)).length = (values pieces).length := by
  induction pieces with
  | nil => rfl
  | cons piece rest ih =>
    cases piece with
    | text s => exact ih
    | name s => exact ih
    | raw s => exact ih
    | param v => exact congrArg (· + 1) ih

theorem outline_congr (backend : Backend) {a b : List Piece}
    (h : a.map redacted = b.map redacted) :
    (statement backend a).outline = (statement backend b).outline := by
  have hsql : sqlFrom backend 0 a = sqlFrom backend 0 b := by
    rw [← sqlFrom_redacted, h, sqlFrom_redacted]
  have hlength : (values a).length = (values b).length := by
    rw [← length_values_redacted, h, length_values_redacted]
  exact Prod.ext hsql hlength

theorem map_redacted_separated (separator : String) : ∀ groups : List (List Piece),
    (separated separator groups).map redacted =
      separated separator (groups.map (·.map redacted))
  | [] => rfl
  | [_] => rfl
  | first :: second :: rest => by
    rw [separated, List.map_append, List.map_cons,
      map_redacted_separated separator (second :: rest)]
    rfl

theorem map_redacted_parenthesised (pieces : List Piece) :
    (parenthesised pieces).map redacted = parenthesised (pieces.map redacted) := by
  rw [parenthesised, List.map_append]
  rfl

end Piece

/-! ## Conditions leaf by leaf -/

mutual

/-- A clause with every predicate mapped. -/
def Clause.mapLeaves (f : Predicate → Predicate) : Clause → Clause
  | .leaf p => .leaf (f p)
  | .group j negated members => .group j negated (Clause.mapMembers f members)

/-- The members of a group with every predicate mapped. -/
def Clause.mapMembers (f : Predicate → Predicate) : List Clause → List Clause
  | [] => []
  | member :: rest => member.mapLeaves f :: Clause.mapMembers f rest

end

/-- A condition with every predicate mapped. -/
def Condition.mapLeaves (f : Predicate → Predicate) (c : Condition) : Condition :=
  { c with members := Clause.mapMembers f c.members }

/-- A formula with every predicate mapped. -/
def Formula.mapLeaves (f : Predicate → Predicate) : Formula → Formula
  | .leaf p => .leaf (f p)
  | .constant b => .constant b
  | .binary j l r => .binary j (l.mapLeaves f) (r.mapLeaves f)
  | .not g => .not (g.mapLeaves f)

section MapLeaves

variable (f : Predicate → Predicate)

theorem Clause.mapMembers_append (a b : List Clause) :
    mapMembers f (a ++ b) = mapMembers f a ++ mapMembers f b := by
  induction a with
  | nil => rfl
  | cons member rest ih => exact congrArg (member.mapLeaves f :: ·) ih

theorem Clause.unwrap_mapLeaves (c : Clause) : (c.mapLeaves f).unwrap = c.unwrap.mapLeaves f := by
  match c with
  | .leaf p => rfl
  | .group j true members => rfl
  | .group j false [] => rfl
  | .group j false [member] => rfl
  | .group j false (first :: second :: rest) => rfl

mutual

theorem Clause.formula_mapLeaves : ∀ c : Clause, (c.mapLeaves f).formula = c.formula.mapLeaves f
  | .leaf p => rfl
  | .group j negated members => by
    rw [mapLeaves, formula, formula, membersFormula_mapMembers j members]
    cases negated <;> rfl

theorem Clause.membersFormula_mapMembers (j : Junction) : ∀ members : List Clause,
    membersFormula j (mapMembers f members) = (membersFormula j members).mapLeaves f
  | [] => rfl
  | first :: rest => by
    rw [mapMembers, membersFormula, membersFormula, formula_mapLeaves first,
      joinFormula_mapMembers j first.formula rest]

theorem Clause.joinFormula_mapMembers (j : Junction) (joined : Formula) :
    ∀ members : List Clause, joinFormula j (joined.mapLeaves f) (mapMembers f members) =
      (joinFormula j joined members).mapLeaves f
  | [] => rfl
  | next :: rest => by
    rw [mapMembers, joinFormula, joinFormula, formula_mapLeaves next,
      ← joinFormula_mapMembers j (.binary j joined next.formula) rest]
    rfl

end

namespace Condition

theorem isEmpty_mapLeaves (c : Condition) : (c.mapLeaves f).isEmpty = c.isEmpty := by
  unfold isEmpty mapLeaves
  cases c.members <;> rfl

theorem add_mapLeaves (c : Condition) (member : Clause) :
    (c.mapLeaves f).add (member.mapLeaves f) = (c.add member).mapLeaves f := by
  have hmembers : Clause.mapMembers f c.members ++ [(member.mapLeaves f).unwrap] =
      Clause.mapMembers f (c.members ++ [member.unwrap]) := by
    rw [Clause.mapMembers_append, Clause.unwrap_mapLeaves]
    rfl
  exact congrArg (fun members => { c with members }) hmembers

theorem foldl_add_mapLeaves (members : List Clause) (c : Condition) :
    (members.map (·.mapLeaves f)).foldl add (c.mapLeaves f) =
      (members.foldl add c).mapLeaves f := by
  induction members generalizing c with
  | nil => rfl
  | cons member rest ih => rw [List.map_cons, List.foldl_cons, List.foldl_cons, add_mapLeaves, ih]

theorem conjoin_mapLeaves (current : Option Condition) (addition : Condition) :
    conjoin (current.map (·.mapLeaves f)) (addition.mapLeaves f) =
      (conjoin current addition).mapLeaves f := by
  cases current with
  | none => rfl
  | some current =>
    have hadd : ∀ c : Condition, (c.mapLeaves f).add (addition.mapLeaves f).toClause =
        (c.add addition.toClause).mapLeaves f := fun c => add_mapLeaves f c addition.toClause
    have hadd' : ∀ c : Condition, (c.mapLeaves f).add (current.mapLeaves f).toClause =
        (c.add current.toClause).mapLeaves f := fun c => add_mapLeaves f c current.toClause
    rw [Option.map_some, conjoin, conjoin]
    -- how the two are joined depends on junctions and negations, which stay
    change (if current.isPlainAll then if addition.isPlainAll then _ else _ else _) = _
    split
    · split
      · exact congrArg (fun members => { current with members })
          (Clause.mapMembers_append f current.members addition.members).symm
      · exact hadd current
    · exact (congrArg (·.add (addition.mapLeaves f).toClause) (hadd' all)).trans
        (hadd (all.add current.toClause))

end Condition

end MapLeaves

/-! ## Redacted predicates -/

def Operand.redacted : Operand → Operand
  | .value _ => .value (.bool none)
  | operand => operand

/-- A subquery with one and the same value in place of each of its values. -/
def Subquery.redacted (body : Subquery) : Subquery where
  mysql := body.mysql.map Piece.redacted
  postgres := body.postgres.map Piece.redacted
  sqlite := body.sqlite.map Piece.redacted

theorem Subquery.pieces_redacted (body : Subquery) (backend : Backend) :
    body.redacted.pieces backend = (body.pieces backend).map Piece.redacted := by
  cases backend <;> rfl

/-- A predicate with one and the same value in place of each of its values. -/
def Predicate.redacted : Predicate → Predicate
  | .compare op left right => .compare op left.redacted right.redacted
  | .isNull operand => .isNull operand.redacted
  | .isNotNull operand => .isNotNull operand.redacted
  | .oneOf operand values => .oneOf operand.redacted (values.map fun _ => .bool none)
  | .between operand _ _ => .between operand.redacted (.bool none) (.bool none)
  | .like operand _ escaped => .like operand.redacted "" escaped
  | .regex operator operand pattern => .regex operator operand.redacted pattern.redacted
  | .call function arguments => .call function (arguments.map Operand.redacted)
  | .truth operand => .truth operand.redacted
  | .nonempty body => .nonempty body.redacted
  | .subquery test operand body => .subquery test operand.redacted body.redacted
  | .raw sql => .raw sql

theorem Subquery.map_redacted_pieces (body : Subquery) (backend : Backend) :
    (body.redacted.pieces backend).map Piece.redacted =
      (body.pieces backend).map Piece.redacted := by
  simp [pieces_redacted]

theorem Operand.map_redacted_pieces (o : Operand) :
    o.redacted.pieces.map Piece.redacted = o.pieces.map Piece.redacted := by
  cases o <;> rfl

theorem Predicate.map_redacted_pieces (backend : Backend) (p : Predicate) :
    (p.redacted.pieces backend).map Piece.redacted = (p.pieces backend).map Piece.redacted := by
  match p with
  | .compare op left right =>
    simp only [redacted, pieces, List.map_append, List.map_cons, left.map_redacted_pieces,
      right.map_redacted_pieces]
  | .isNull operand =>
    simp only [redacted, pieces, List.map_append, operand.map_redacted_pieces]
  | .isNotNull operand =>
    simp only [redacted, pieces, List.map_append, operand.map_redacted_pieces]
  | .oneOf operand [] => rfl
  | .oneOf operand (first :: rest) =>
    simp only [redacted, pieces, List.map_append, List.map_cons, operand.map_redacted_pieces,
      Piece.map_redacted_parenthesised, Piece.map_redacted_separated, List.map_map]
    rfl
  | .between operand low high =>
    simp only [redacted, pieces, List.map_append, operand.map_redacted_pieces]
    rfl
  | .like operand pattern escaped =>
    simp only [redacted, pieces, List.map_append, operand.map_redacted_pieces]
    rfl
  | .regex operator operand pattern =>
    simp only [redacted, pieces, List.map_append, List.map_cons, operand.map_redacted_pieces,
      pattern.map_redacted_pieces]
  | .call function arguments =>
    have harguments : ((arguments.map Operand.redacted).map Operand.pieces).map
        (·.map Piece.redacted) = (arguments.map Operand.pieces).map (·.map Piece.redacted) := by
      rw [List.map_map, List.map_map, List.map_map]
      exact List.map_congr_left fun o _ => o.map_redacted_pieces
    simp only [redacted, pieces, List.map_cons, Piece.map_redacted_parenthesised,
      Piece.map_redacted_separated, harguments]
  | .truth operand => exact operand.map_redacted_pieces
  | .nonempty body =>
    simp only [redacted, pieces, List.map_cons, Piece.map_redacted_parenthesised,
      body.map_redacted_pieces]
  | .subquery test operand body =>
    simp only [redacted, pieces, List.map_append, List.map_cons, operand.map_redacted_pieces,
      Piece.map_redacted_parenthesised, body.map_redacted_pieces]
  | .raw sql => rfl

theorem Predicate.binds_redacted (p : Predicate) : p.redacted.binds = p.binds := by
  cases p <;> rfl

namespace Formula

theorem binds_redacted (f : Formula) : (f.mapLeaves Predicate.redacted).binds = f.binds := by
  cases f with
  | leaf p => exact p.binds_redacted
  | constant b => rfl
  | binary j l r => rfl
  | not f => rfl

theorem bindsLeftOf_redacted (j : Junction) (f : Formula) :
    (f.mapLeaves Predicate.redacted).bindsLeftOf j = f.bindsLeftOf j := by
  cases f with
  | leaf p => exact p.binds_redacted
  | constant b => rfl
  | binary j l r => rfl
  | not f => rfl

theorem map_redacted_guarded (binds : Bool) (pieces : List Piece) :
    (guarded binds pieces).map Piece.redacted = guarded binds (pieces.map Piece.redacted) := by
  cases binds with
  | true => rfl
  | false => exact Piece.map_redacted_parenthesised pieces

theorem map_redacted_pieces (backend : Backend) (f : Formula) :
    ((f.mapLeaves Predicate.redacted).pieces backend).map Piece.redacted =
      (f.pieces backend).map Piece.redacted := by
  induction f with
  | leaf p => exact p.map_redacted_pieces backend
  | constant b => rfl
  | binary j l r hl hr =>
    simp only [mapLeaves, pieces, List.map_append, List.map_cons, map_redacted_guarded, hl, hr,
      binds_redacted, bindsLeftOf_redacted]
  | not f ih =>
    simp only [mapLeaves, pieces, List.map_cons, map_redacted_guarded, ih, binds_redacted]

end Formula

/-! ## Redacted conditions -/

/-- A condition with one and the same value in place of each of its values. -/
def Condition.redacted (c : Condition) : Condition := c.mapLeaves Predicate.redacted

theorem Condition.map_redacted_pieces (backend : Backend) (c : Condition) :
    (c.redacted.pieces backend).map Piece.redacted = (c.pieces backend).map Piece.redacted := by
  have hformula : c.redacted.formula = c.formula.mapLeaves Predicate.redacted :=
    c.toClause.formula_mapLeaves Predicate.redacted
  rw [pieces, hformula, Formula.map_redacted_pieces]
  rfl

namespace Select

theorem map_redacted_pieces_congr (backend : Backend) (s : Select) {filter filter' : Condition}
    (h : filter.redacted = filter'.redacted) :
    ({ s with filter := some filter }.pieces backend).map Piece.redacted =
      ({ s with filter := some filter' }.pieces backend).map Piece.redacted := by
  have hcondition : (filter.pieces backend).map Piece.redacted =
      (filter'.pieces backend).map Piece.redacted := by
    rw [← filter.map_redacted_pieces, h, filter'.map_redacted_pieces]
  simp only [pieces, conditionPieces, List.map_append, List.map_cons, hcondition]

/-- **The text does not depend on the values of the WHERE clause.** -/
theorem outline_congr (backend : Backend) (s : Select) {filter filter' : Condition}
    (h : filter.redacted = filter'.redacted) :
    ({ s with filter := some filter }.statement backend).outline =
      ({ s with filter := some filter' }.statement backend).outline :=
  Piece.outline_congr backend (s.map_redacted_pieces_congr backend h)

end Select

end ServerGrid
