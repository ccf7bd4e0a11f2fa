import ServerGrid.Sql.Piece

/-!
# Conditions

A predicate compares operands, or asks for the rows of a further statement, which it keeps as that
is written. A condition is an `all` or `any` group of predicates and further groups, possibly
negated. Conditions are put together by `Condition.add`, which takes a lone member out of its group,
and `Condition.conjoin`, which narrows an existing condition. `Condition.holds` evaluates a
condition when the truth of each predicate is known.
-/

namespace ServerGrid

/-- A column as a statement names it. -/
inductive ColumnRef where
  /-- `*` -/
  | all
  /-- `table.*` -/
  | allOf (table : String)
  | bare (column : String)
  | qualified (table column : String)
  deriving DecidableEq, Repr

/-- One side of a predicate. -/
inductive Operand where
  | column (c : ColumnRef)
  /-- SQL that is already quoted, such as a resolved column. -/
  | verbatim (sql : String)
  | value (v : Value)
  deriving DecidableEq, Repr

inductive Comparison where
  | eq | ne | lt | le | gt | ge
  deriving DecidableEq, Repr

/-- A statement inside a predicate, as each backend writes it. -/
structure Subquery where
  mysql : List Piece
  postgres : List Piece
  sqlite : List Piece
  deriving DecidableEq, Repr

def Subquery.pieces (body : Subquery) : Backend → List Piece
  | .mysql => body.mysql
  | .postgres => body.postgres
  | .sqlite => body.sqlite

/-- How an operand is held against the rows of a statement. -/
inductive SubqueryTest where
  | isIn
  | notIn
  | compare (op : Comparison)
  deriving DecidableEq, Repr

/-- A predicate, a leaf of a condition. -/
inductive Predicate where
  | compare (op : Comparison) (left right : Operand)
  | isNull (operand : Operand)
  | isNotNull (operand : Operand)
  | oneOf (operand : Operand) (values : List Value)
  | between (operand : Operand) (low high : Value)
  /-- `escaped` adds the clause that makes a backslash the escape character. -/
  | like (operand : Operand) (pattern : String) (escaped : Bool)
  /-- A match by an operator of the database, such as `REGEXP`. -/
  | regex (operator : String) (operand pattern : Operand)
  | call (function : String) (arguments : List Operand)
  /-- An operand that is a truth value itself. -/
  | truth (operand : Operand)
  /-- Whether a further statement has rows. -/
  | nonempty (body : Subquery)
  | subquery (test : SubqueryTest) (operand : Operand) (body : Subquery)
  /-- A predicate in raw SQL. -/
  | raw (sql : String)
  deriving DecidableEq, Repr

/-- How the members of a group are joined. -/
inductive Junction where
  | all
  | any
  deriving DecidableEq, Repr

/-- A member of a group: a predicate or a group. -/
inductive Clause where
  | leaf (p : Predicate)
  | group (junction : Junction) (negated : Bool) (members : List Clause)
  deriving Repr

structure Condition where
  junction : Junction
  negated : Bool
  members : List Clause
  deriving Repr

namespace Clause

mutual

def decEq : (a b : Clause) → Decidable (a = b)
  | .leaf p, .leaf q => if h : p = q then isTrue (h ▸ rfl) else isFalse (by simpa using h)
  | .group j n xs, .group k m ys =>
    if hj : j = k then
      if hn : n = m then
        match decEqList xs ys with
        | isTrue h => isTrue (hj ▸ hn ▸ h ▸ rfl)
        | isFalse h => isFalse fun e => h (Clause.group.inj e).2.2
      else isFalse fun e => hn (Clause.group.inj e).2.1
    else isFalse fun e => hj (Clause.group.inj e).1
  | .leaf _, .group .. | .group .., .leaf _ => isFalse nofun

def decEqList : (a b : List Clause) → Decidable (a = b)
  | [], [] => isTrue rfl
  | [], _ :: _ | _ :: _, [] => isFalse nofun
  | x :: xs, y :: ys =>
    match decEq x y, decEqList xs ys with
    | isTrue h, isTrue t => isTrue (h ▸ t ▸ rfl)
    | isFalse h, _ => isFalse fun e => h (List.cons.inj e).1
    | _, isFalse t => isFalse fun e => t (List.cons.inj e).2

end

instance : DecidableEq Clause := decEq

/-- A group of exactly one member that is not negated is that member. -/
def unwrap : Clause → Clause
  | .group _ false [member] => member
  | clause => clause

end Clause

deriving instance DecidableEq for Condition

instance : Inhabited Clause := ⟨.group .all false []⟩

instance : Inhabited Condition := ⟨⟨.all, false, []⟩⟩

namespace Condition

def all : Condition := ⟨.all, false, []⟩

def any : Condition := ⟨.any, false, []⟩

def empty : Junction → Condition
  | .all => all
  | .any => any

def toClause (c : Condition) : Clause := .group c.junction c.negated c.members

/-- Append a member, taken out of its group when it is alone there. -/
def add (c : Condition) (member : Clause) : Condition :=
  { c with members := c.members ++ [member.unwrap] }

def ofPredicate (p : Predicate) : Condition := all.add (.leaf p)

def not (c : Condition) : Condition := { c with negated := !c.negated }

def isEmpty (c : Condition) : Bool := c.members.isEmpty

/-- Whether the condition is a conjunction that is not negated. -/
def isPlainAll (c : Condition) : Bool := c.junction == .all && !c.negated

/-- Narrow what is there by a further condition. -/
def conjoin (current : Option Condition) (addition : Condition) : Condition :=
  match current with
  | none => addition
  | some current =>
    if current.isPlainAll then
      if addition.isPlainAll then { current with members := current.members ++ addition.members }
      else current.add addition.toClause
    else (all.add current.toClause).add addition.toClause

end Condition

/-! ## Truth -/

def Junction.join : Junction → Bool → Bool → Bool
  | .all, a, b => a && b
  | .any, a, b => a || b

/-- The truth of an empty group. -/
def Junction.unit : Junction → Bool
  | .all => true
  | .any => false

mutual

/-- The truth of a clause when the truth of its predicates is known. -/
def Clause.holds (truth : Predicate → Bool) : Clause → Bool
  | .leaf p => truth p
  | .group j negated members => negated ^^ Clause.holdsAll truth j members

/-- The joint truth of the members of a group. -/
def Clause.holdsAll (truth : Predicate → Bool) (j : Junction) : List Clause → Bool
  | [] => j.unit
  | member :: rest => j.join (member.holds truth) (Clause.holdsAll truth j rest)

end

/-- The truth of a condition when the truth of its predicates is known. -/
def Condition.holds (truth : Predicate → Bool) (c : Condition) : Bool :=
  c.toClause.holds truth

/-- An absent condition always holds. -/
def Condition.holds? (truth : Predicate → Bool) : Option Condition → Bool
  | none => true
  | some c => c.holds truth

end ServerGrid
