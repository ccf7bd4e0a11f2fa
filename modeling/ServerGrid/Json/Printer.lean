import ServerGrid.Decimal.Layout
import ServerGrid.Json.Basic

/-!
# JSON text

The compact form: no blanks, entries in order, characters outside ASCII as they are, and an escape
for the quote, the backslash and the control characters below U+0020.
-/

namespace ServerGrid

/-- A number of `Number` as JSON writes it. -/
def Number.text : Number → String
  | .integer (.ofNat n) => n.repr
  | .integer (.negSucc n) => "-" ++ (n + 1).repr
  | .real x => x.text .json

namespace Json

def hexDigit (n : Nat) : Char :=
  if n < 10 then .ofNat (0x30 + n) else .ofNat (0x57 + n)

/-- One character inside a JSON string. -/
def escapeChar (c : Char) : List Char :=
  if c = '"' then ['\\', '"']
  else if c = '\\' then ['\\', '\\']
  else if c = '\n' then ['\\', 'n']
  else if c = '\r' then ['\\', 'r']
  else if c = '\t' then ['\\', 't']
  else if c = '\x08' then ['\\', 'b']
  else if c = '\x0c' then ['\\', 'f']
  else if c.toNat < 0x20 then
    ['\\', 'u', '0', '0', hexDigit (c.toNat / 16), hexDigit (c.toNat % 16)]
  else [c]

/-- A JSON string with its quotes. -/
def quoted (s : String) : String :=
  .ofList ('"' :: s.toList.flatMap escapeChar ++ ['"'])

mutual

/-- The compact text of a value. -/
def text : Json → String
  | .null => "null"
  | .bool true => "true"
  | .bool false => "false"
  | .number n => n.text
  | .string s => quoted s
  | .array items => "[" ++ itemsText items ++ "]"
  | .object fields => "\x7b" ++ fieldsText fields ++ "\x7d"

def itemsText : List Json → String
  | [] => ""
  | [item] => text item
  | item :: next :: rest => text item ++ "," ++ itemsText (next :: rest)

def fieldsText : List (String × Json) → String
  | [] => ""
  | [(key, value)] => quoted key ++ ":" ++ text value
  | (key, value) :: next :: rest =>
    quoted key ++ ":" ++ text value ++ "," ++ fieldsText (next :: rest)

end

end Json

end ServerGrid
