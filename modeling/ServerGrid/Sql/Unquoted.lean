import ServerGrid.Sql.Backend
import ServerGrid.Text.Case

/-!
# SQL text outside quotes

A text is read with one open quote at most: a quote character opens it and the same character
closes it, so that a doubled quote closes and opens again. Placeholders and the words ORDER BY
count only outside quotes, the latter only outside parentheses too.
-/

namespace ServerGrid.Unquoted

/-- The quote that is open after a character. -/
def openAfter : Option Char → Char → Option Char
  | some quote, c => if c = quote then none else some quote
  | none, c => if c = '\x27' ∨ c = '"' ∨ c = '\x60' then some c else none

/-- The depth of parentheses after a character outside quotes. -/
def depthAfter (depth : Nat) (c : Char) : Nat :=
  if c = '(' then depth + 1 else if c = ')' then depth - 1 else depth

/-- Whether a character is a placeholder where the given quote is open. -/
def isPlaceholder (quote : Option Char) (c : Char) : Bool :=
  quote.isNone && c == '?'

/-- Count the placeholders of a text that starts with the given quote open. -/
def countFrom (quote : Option Char) : List Char → Nat
  | [] => 0
  | c :: rest =>
    (if isPlaceholder quote c then 1 else 0) + countFrom (openAfter quote c) rest

/-- How many placeholders a text has. -/
def countPlaceholders (sql : String) : Nat := countFrom none sql.toList

/-- Number the placeholders of a text that starts with the given quote open. -/
def numberFrom (quote : Option Char) (bound : Nat) : List Char → List Char
  | [] => []
  | c :: rest =>
    if isPlaceholder quote c then
      '$' :: (bound + 1).repr.toList ++ numberFrom (openAfter quote c) (bound + 1) rest
    else c :: numberFrom (openAfter quote c) bound rest

/-- Write the placeholders of a text as the backend does, when `bound` values came before. -/
def bindPlaceholders (sql : String) (backend : Backend) (bound : Nat) : String :=
  match backend with
  | .postgres => .ofList (numberFrom none bound sql.toList)
  | .sqlite | .mysql => sql

/-- Whether a text that starts with the given quote open and at the given depth has the words at
depth zero. -/
def hasWordsFrom (words : List Char) (quote : Option Char) (depth : Nat) : List Char → Bool
  | [] => false
  | c :: rest =>
    (quote.isNone && (openAfter quote c).isNone && depth == 0 && words.isPrefixOf (c :: rest)) ||
      hasWordsFrom words (openAfter quote c) (if quote.isNone then depthAfter depth c else depth)
        rest

/-- Whether the outermost query has an ORDER BY clause. -/
def hasOrderBy (sql : String) : Bool :=
  hasWordsFrom "ORDER BY".toList none 0 (Text.asciiUppercase sql).toList

end ServerGrid.Unquoted
