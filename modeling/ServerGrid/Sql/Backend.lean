/-!
# Backends

The three databases that statements are rendered for. They differ in the quote around identifiers,
in the placeholder, and in how an escape character is written.
-/

namespace ServerGrid

/-- The database a statement is rendered for. -/
inductive Backend where
  | sqlite
  | mysql
  | postgres
  deriving DecidableEq, Repr

namespace Backend

/-- The quote around identifiers. -/
def quote : Backend → Char
  | .mysql => '\x60'
  | .sqlite | .postgres => '"'

/-- The placeholder of the `n`-th value, counted from one. -/
def placeholder : Backend → Nat → String
  | .postgres, n => "$" ++ n.repr
  | .sqlite, _ | .mysql, _ => "?"

/-- The literal for a backslash as the escape character of LIKE. -/
def backslashLiteral : Backend → String
  | .sqlite => "'\\'"
  | .mysql => "'\\\\'"
  | .postgres => "E'\\\\'"

end Backend

end ServerGrid
