import ServerGrid.Keyed
import ServerGrid.Text.Substring

/-!
# Scopes

What is known about the tables of a query: the table that qualifies bare column names, and the
tables joined for relations. Only plain identifiers qualify columns.
-/

namespace ServerGrid

/-- The tables that column names refer to. -/
structure Scope where
  /-- The table of bare column names. -/
  table : Option String
  /-- Whether names before a dot are looked up among the relations. -/
  relationAware : Bool
  /-- The table joined for each relation. -/
  relations : Keyed String
  deriving DecidableEq, Repr

namespace Scope

def empty : Scope := ⟨none, false, []⟩

/-- A letter, a digit or an underscore, all ASCII. -/
def isWordChar (c : Char) : Bool := c.isAlphanum || c == '_'

/-- A word that does not start with a digit. -/
def isWord (segment : List Char) : Bool :=
  match segment with
  | [] => false
  | c :: rest => !c.isDigit && (c :: rest).all isWordChar

/-- A plain identifier, with a schema at most: one or two words with a dot between. -/
def isSimpleIdentifier (name : String) : Bool :=
  let segments := Text.segmentsList '.' name.toList
  segments.length ≤ 2 && segments.all isWord

/-- Let a table qualify bare column names, if it is a plain identifier. -/
def withTable (s : Scope) (table : String) : Scope :=
  { s with table := if isSimpleIdentifier table then some table else none }

def eagerTable? (s : Scope) (relation : String) : Option String := s.relations.get? relation

def register (s : Scope) (relation table : String) : Scope :=
  { s with relationAware := true, relations := s.relations.set relation table }

end Scope

end ServerGrid
