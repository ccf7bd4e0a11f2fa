import ServerGrid.Sql.Condition
import ServerGrid.Sql.Piece

/-!
# Conditions as SQL

A condition becomes a formula, a tree of binary connectives: the members of a group are joined from
left to right, an empty group is a constant. A formula is written with as few parentheses as the
operators need: an operand keeps its own parentheses off when it is a constant, a comparison, a
membership, a pattern match, a null test or a call, or when it is the left operand of its own
connective.
-/

namespace ServerGrid

/-- A condition as a tree of connectives. -/
inductive Formula where
  | leaf (p : Predicate)
  | constant (b : Bool)
  | binary (junction : Junction) (left right : Formula)
  | not (f : Formula)
  deriving DecidableEq, Repr

mutual

def Clause.formula : Clause → Formula
  | .leaf p => .leaf p
  | .group j negated members =>
    if negated then .not (Clause.membersFormula j members) else Clause.membersFormula j members

def Clause.membersFormula (j : Junction) : List Clause → Formula
  | [] => .constant j.unit
  | first :: rest => Clause.joinFormula j first.formula rest

/-- Join further members to a formula from left to right. -/
def Clause.joinFormula (j : Junction) (joined : Formula) : List Clause → Formula
  | [] => joined
  | next :: rest => Clause.joinFormula j (.binary j joined next.formula) rest

end

def Condition.formula (c : Condition) : Formula := c.toClause.formula

/-- The truth of a formula when the truth of its predicates is known. -/
def Formula.holds (truth : Predicate → Bool) : Formula → Bool
  | .leaf p => truth p
  | .constant b => b
  | .binary j l r => j.join (l.holds truth) (r.holds truth)
  | .not f => !f.holds truth

/-! ## Writing predicates -/

namespace ColumnRef

def pieces : ColumnRef → List Piece
  | .all => [.text "*"]
  | .allOf table => [.name table, .text ".*"]
  | .bare column => [.name column]
  | .qualified table column => [.name table, .text ".", .name column]

end ColumnRef

namespace Operand

def pieces : Operand → List Piece
  | .column c => c.pieces
  | .verbatim sql => [.raw sql]
  | .value v => [.param v]

end Operand

def Comparison.sign : Comparison → String
  | .eq => "="
  | .ne => "<>"
  | .lt => "<"
  | .le => "<="
  | .gt => ">"
  | .ge => ">="

def SubqueryTest.sign : SubqueryTest → String
  | .isIn => "IN"
  | .notIn => "NOT IN"
  | .compare op => op.sign

namespace Predicate

/-- A predicate as SQL. Membership in no values is a comparison that always fails. -/
def pieces (backend : Backend) : Predicate → List Piece
  | .compare op left right => left.pieces ++ .text (" " ++ op.sign ++ " ") :: right.pieces
  | .isNull operand => operand.pieces ++ [.text " IS NULL"]
  | .isNotNull operand => operand.pieces ++ [.text " IS NOT NULL"]
  | .oneOf _ [] => [.param (.int (some 1)), .text " = ", .param (.int (some 2))]
  | .oneOf operand (first :: rest) =>
    operand.pieces ++ .text " IN " ::
      Piece.parenthesised (Piece.separated ", " ((first :: rest).map fun v => [.param v]))
  | .between operand low high =>
    operand.pieces ++ [.text " BETWEEN ", .param low, .text " AND ", .param high]
  | .like operand pattern escaped =>
    operand.pieces ++ [.text " LIKE ", .param (.ofString pattern)] ++
      (if escaped then [.text (" ESCAPE " ++ backend.backslashLiteral)] else [])
  | .regex operator operand pattern =>
    operand.pieces ++ .text (" " ++ operator ++ " ") :: pattern.pieces
  | .call function arguments =>
    .text function :: Piece.parenthesised (Piece.separated ", " (arguments.map Operand.pieces))
  | .truth operand => operand.pieces
  | .nonempty body => .text "EXISTS" :: Piece.parenthesised (body.pieces backend)
  | .subquery test operand body =>
    operand.pieces ++ .text (" " ++ test.sign ++ " ") ::
      Piece.parenthesised (body.pieces backend)
  | .raw sql => [.raw sql]

/-- Whether a predicate stands under a connective without parentheses. -/
def binds : Predicate → Bool
  | .compare .. | .isNull _ | .isNotNull _ | .oneOf .. | .like .. | .call .. | .truth _
  | .nonempty _ | .subquery .. => true
  | .between .. | .regex .. | .raw _ => false

end Predicate

/-! ## Writing formulas -/

namespace Formula

/-- Whether a formula stands under any connective without parentheses. -/
def binds : Formula → Bool
  | .leaf p => p.binds
  | .constant _ => true
  | .binary .. | .not _ => false

/-- Whether a formula stands on the left of a connective without parentheses. -/
def bindsLeftOf (junction : Junction) : Formula → Bool
  | .binary j _ _ => j == junction
  | f => f.binds

/-- Put parentheses around pieces unless they bind by themselves. -/
def guarded (binds : Bool) (pieces : List Piece) : List Piece :=
  if binds then pieces else Piece.parenthesised pieces

def word : Junction → String
  | .all => " AND "
  | .any => " OR "

def pieces (backend : Backend) : Formula → List Piece
  | .leaf p => p.pieces backend
  | .constant true => [.text "TRUE"]
  | .constant false => [.text "FALSE"]
  | .binary j l r =>
    guarded (l.bindsLeftOf j) (l.pieces backend) ++ .text (word j) ::
      guarded r.binds (r.pieces backend)
  | .not f => .text "NOT " :: guarded f.binds (f.pieces backend)

end Formula

def Condition.pieces (backend : Backend) (c : Condition) : List Piece := c.formula.pieces backend

end ServerGrid
