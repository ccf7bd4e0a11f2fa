import ServerGrid.Sql.Backend
import ServerGrid.Sql.Identifier
import ServerGrid.Sql.Value

/-!
# Statements and the pieces they are written from

A statement is rendered to pieces first: fixed words, quoted names, raw text and parameters. Its
text numbers the parameters in order, and its values are the parameters in the same order, so that
the two line up by construction.
-/

namespace ServerGrid

/-- A part of a statement. -/
inductive Piece where
  /-- Fixed words and punctuation. -/
  | text (s : String)
  /-- A name that is written as a quoted identifier. -/
  | name (s : String)
  /-- SQL from outside, written as it is. -/
  | raw (s : String)
  /-- A bound value, written as a placeholder. -/
  | param (v : Value)
  deriving DecidableEq, Repr

/-- SQL text with the values of its placeholders in order. -/
structure Statement where
  sql : String
  values : List Value
  deriving DecidableEq, Repr

namespace Piece

/-- The text of pieces when `bound` parameters came before. -/
def sqlFrom (backend : Backend) (bound : Nat) : List Piece → String
  | [] => ""
  | .text s :: rest => s ++ sqlFrom backend bound rest
  | .name s :: rest => Identifier.quoted backend.quote s ++ sqlFrom backend bound rest
  | .raw s :: rest => s ++ sqlFrom backend bound rest
  | .param _ :: rest => backend.placeholder (bound + 1) ++ sqlFrom backend (bound + 1) rest

def values : List Piece → List Value
  | [] => []
  | .param v :: rest => v :: values rest
  | .text _ :: rest | .name _ :: rest | .raw _ :: rest => values rest

/-- The statement that pieces make up. -/
def statement (backend : Backend) (pieces : List Piece) : Statement :=
  ⟨sqlFrom backend 0 pieces, values pieces⟩

@[simp] theorem values_append (a b : List Piece) : values (a ++ b) = values a ++ values b := by
  induction a with
  | nil => rfl
  | cons p a ih => cases p <;> simp [values, ih]

theorem sqlFrom_append (backend : Backend) (bound : Nat) (a b : List Piece) :
    sqlFrom backend bound (a ++ b) =
      sqlFrom backend bound a ++ sqlFrom backend (bound + (values a).length) b := by
  induction a generalizing bound with
  | nil => simp [sqlFrom, values]
  | cons p a ih =>
    cases p <;> simp [sqlFrom, values, ih, String.append_assoc, Nat.add_assoc, Nat.add_comm 1]

/-- Put a separator between groups of pieces. -/
def separated (separator : String) : List (List Piece) → List Piece
  | [] => []
  | [one] => one
  | first :: second :: rest => first ++ .text separator :: separated separator (second :: rest)

def parenthesised (pieces : List Piece) : List Piece :=
  .text "(" :: pieces ++ [.text ")"]

end Piece

end ServerGrid
