import ServerGrid.Column.Resolver
import ServerGrid.Sql.Condition

/-!
# Scopes of custom filters

A custom column filter receives a scope and adds conditions to it. They are joined by AND and go
into the query as one group, so that a filter can never widen what else is asked for.
-/

namespace ServerGrid

/-- What a custom filter reads from and adds to. -/
structure FilterScope where
  resolver : Resolver
  /-- The conditions added so far, in order. -/
  added : List Condition

/-- A custom filter: it receives a scope and the keyword as the client wrote it. -/
abbrev FilterCallback := FilterScope → String → FilterScope

namespace FilterScope

def fresh (r : Resolver) : FilterScope := ⟨r, []⟩

/-- The table of bare column names. -/
def table (s : FilterScope) : Option String := s.resolver.scope.table

def dialect (s : FilterScope) : Dialect := s.resolver.dialect

/-- A column, resolved as the default search does. -/
def col (s : FilterScope) (name : String) : Operand := s.resolver.operand name

def addCondition (s : FilterScope) (c : Condition) : FilterScope :=
  { s with added := s.added ++ [c] }

def andWhere (s : FilterScope) (p : Predicate) : FilterScope := s.addCondition (.ofPredicate p)

def columnEquals (s : FilterScope) (name : String) (v : Value) : FilterScope :=
  s.andWhere (.compare .eq (s.col name) (.value v))

def isEmpty (s : FilterScope) : Bool := s.added.isEmpty

/-- The conjunction of what was added. -/
def condition (s : FilterScope) : Condition :=
  s.added.foldl (fun c added => c.add added.toClause) .all

end FilterScope

/-- What a custom filter adds for a keyword, `none` when it adds nothing. -/
def FilterCallback.condition? (f : FilterCallback) (r : Resolver) (keyword : String) :
    Option Condition :=
  let scope := f (.fresh r) keyword
  if scope.isEmpty then none else some scope.condition

end ServerGrid
