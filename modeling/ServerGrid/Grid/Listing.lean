import ServerGrid.Grid
import ServerGrid.Json.Printer
import ServerGrid.Text.Visible

/-!
# Listings

Texts for developers: values by kind, registries without their callbacks, contents of columns, and
what a grid has switched on. Texts stand in quotes with the usual escapes.
-/

namespace ServerGrid.Listing

/-! ## Building blocks -/

/-- The hexadecimal digits of a number, in lower case. -/
def hex (n : Nat) : String := .ofList (Nat.toDigits 16 n)

/-- One character of a listed text; characters that are not visible are shown by number. -/
def escapeChar (c : Char) : String :=
  if c = '"' then "\\\""
  else if c = '\\' then "\\\\"
  else if c = '\n' then "\\n"
  else if c = '\r' then "\\r"
  else if c = '\t' then "\\t"
  else if c = '\x00' then "\\0"
  else if Text.isVisible c then .ofList [c]
  else "\\u\x7b" ++ hex c.toNat ++ "\x7d"

def text (s : String) : String :=
  "\"" ++ (s.toList.map escapeChar).foldl (· ++ ·) "" ++ "\""

def list (items : List String) : String := "[" ++ Text.join ", " items ++ "]"

def set (items : List String) : String := "\x7b" ++ Text.join ", " items ++ "\x7d"

def option : Option String → String
  | none => "None"
  | some item => "Some(" ++ item ++ ")"

/-- Fields of a named record. -/
def record (name : String) (fields : List (String × String)) : String :=
  name ++ " \x7b " ++ Text.join ", " (fields.map fun (field, item) => field ++ ": " ++ item) ++
    " \x7d"

def flag (b : Bool) : String := if b then "true" else "false"

/-! ## Values -/

mutual

/-- A JSON value by kind. -/
def json : Json → String
  | .null => "Null"
  | .bool b => "Bool(" ++ flag b ++ ")"
  | .number n => "Number(" ++ n.text ++ ")"
  | .string s => "String(" ++ text s ++ ")"
  | .array items => "Array " ++ list (jsonItems items)
  | .object fields => "Object " ++ set (jsonFields fields)

def jsonItems : List Json → List String
  | [] => []
  | item :: rest => json item :: jsonItems rest

def jsonFields : List (String × Json) → List String
  | [] => []
  | (key, value) :: rest => (text key ++ ": " ++ json value) :: jsonFields rest

end

/-- A bound value by kind. -/
def value : Value → String
  | .bool v => "Bool(" ++ option (v.map flag) ++ ")"
  | .int v => "Int(" ++ option (v.map fun n => (Number.integer n.toInt).text) ++ ")"
  | .bigInt v => "BigInt(" ++ option (v.map fun n => (Number.integer n.toInt).text) ++ ")"
  | .bigUnsigned v => "BigUnsigned(" ++ option (v.map fun n => n.toNat.repr) ++ ")"
  | .double v => "Double(" ++ option (v.map (Double.text .listing)) ++ ")"
  | .string v => "String(" ++ option (v.map text) ++ ")"
  | .bytes v => "Bytes(" ++ option (v.map fun b => list (b.map fun n => n.toNat.repr)) ++ ")"
  | .json v => "Json(" ++ option (v.map json) ++ ")"

/-! ## Declarations -/

def customOrder (o : CustomOrder) : String :=
  record "CustomOrder" [("sql", text o.sql), ("bindings", list (o.bindings.map value))]

/-- The texts of a set, each once. -/
def texts (items : List String) : String := set (items.eraseDups.map text)

/-- A registry, without the callbacks of its filters. -/
def registry (r : Registry) : String :=
  record "ColumnRegistry" [
    ("filters", list (r.filters.keys.map text)),
    ("orders", set (r.orders.map fun (column, o) => text column ++ ": " ++ customOrder o)),
    ("blacklist", texts r.hidden),
    ("whitelist", option (r.allowed.map texts))]

def content : Content → String
  | .fixed value => "Value(" ++ json value ++ ")"
  | .computed _ => "Computed(..)"

def rowId : RowId → String
  | .column name => "Column(" ++ text name ++ ")"
  | .computed _ => "Computed(..)"

/-- What a grid has switched on. -/
def switches (g : Grid) : String :=
  "filter_callback: " ++ flag g.filterCallback.isSome ++
    ", auto_filter: " ++ flag g.searchesGlobally ++
    ", order_callback: " ++ flag g.orderCallback.isSome ++
    ", skip_paging: " ++ flag g.skipsPaging ++
    ", total_records: " ++ option (g.totalRecords.map fun n => n.toNat.repr) ++
    ", filtered_records: " ++ option (g.filteredRecords.map fun n => n.toNat.repr) ++ ", .. \x7d"

end ServerGrid.Listing
