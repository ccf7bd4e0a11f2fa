import ServerGrid.Failure
import ServerGrid.Sql.Piece

/-!
# Databases

A database answers statements one after the other. A session holds the answers still to come and
the statements sent so far, failed ones included.
-/

namespace ServerGrid

/-- A fetched row, sorted by column name. -/
abbrev Row := Keyed Value

namespace Row

/-- Put a column at its place among sorted ones. -/
def insertSorted (name : String) (v : Value) : Row → Row
  | [] => [(name, v)]
  | (k, w) :: rest =>
    if name < k then (name, v) :: (k, w) :: rest else (k, w) :: insertSorted name v rest

def ofColumns (columns : List (String × Value)) : Row :=
  columns.foldl (fun row (name, v) => insertSorted name v row) []

def toJson (row : Row) : Json := .object (row.map fun (name, v) => (name, v.toJson))

end Row

/-- What a database answers to a statement. -/
inductive Reply where
  | rows (rows : List Row)
  | failed (error : DriverError)
  deriving DecidableEq, Repr

/-- A database in the course of a run. -/
structure Session where
  /-- The answers still to come. -/
  replies : List Reply
  /-- The statements sent so far. -/
  sent : List Statement
  deriving DecidableEq, Repr

namespace Session

def start (replies : List Reply) : Session := ⟨replies, []⟩

/-- What is reported when no answer is left. -/
def exhausted : DriverError := .query "`query_results` buffer is empty."

def send (s : Session) (statement : Statement) : Session × Except DriverError (List Row) :=
  let sent := s.sent ++ [statement]
  match s.replies with
  | [] => (⟨[], sent⟩, .error exhausted)
  | .rows rows :: rest => (⟨rest, sent⟩, .ok rows)
  | .failed error :: rest => (⟨rest, sent⟩, .error error)

end Session

end ServerGrid
