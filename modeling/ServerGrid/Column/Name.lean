import ServerGrid.Text.Blank

/-!
# Column names that are expressions

A name such as `COUNT(id)` is a function call: a word, possibly blanks, and parentheses to the end.
-/

namespace ServerGrid

/-- Whether parentheses are balanced when `depth` of them are open. -/
def balancedFrom (depth : Nat) : List Char → Bool
  | [] => depth == 0
  | c :: rest =>
    if c = '(' then balancedFrom (depth + 1) rest
    else if c = ')' then
      match depth with
      | 0 => false
      | depth + 1 => balancedFrom depth rest
    else balancedFrom depth rest

/-- A character of a function's name. -/
def isFunctionChar (c : Char) : Bool := c.isAlphanum || c == '_' || c == '.'

/-- Whether a name is a function call: blanks around it aside, a function's name, then balanced
parentheses from the first one to a closing one at the end. -/
def isFunctionCall (name : String) : Bool :=
  let trimmed := Text.trimList name.toList
  let function := Text.trimEndList (trimmed.takeWhile (· ≠ '('))
  let arguments := trimmed.dropWhile (· ≠ '(')
  !arguments.isEmpty && !function.isEmpty && function.all isFunctionChar &&
    trimmed.getLast? == some ')' && balancedFrom 0 arguments

end ServerGrid
