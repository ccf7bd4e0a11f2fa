import ServerGrid.Sql.Condition
import ServerGrid.Sql.Backend
import ServerGrid.Sql.Identifier
import ServerGrid.Text.Blank
import ServerGrid.Text.Case
import ServerGrid.Text.Substring

/-!
# SQL dialects

A dialect is a table of templates for the fragments that are not rendered by the backend: quoted
paths, casts to text, regular expressions, null ordering and paging. A driver that is not known
gets the generic dialect.
-/

namespace ServerGrid

/-- The SQL flavour that fragments are written in. -/
inductive Dialect where
  | postgres
  | mysql
  | sqlite
  | oracle
  | firebird
  /-- For drivers that are not known. -/
  | generic
  deriving DecidableEq, Repr

/-- How a regular expression is matched. -/
inductive RegexForm where
  | operator (symbol : String)
  | function (name : String) (flags : Option String)
  deriving DecidableEq, Repr

inductive PagingStyle where
  | limitOffset
  | offsetFetch
  | rows
  deriving DecidableEq, Repr

/-- The templates of a dialect. -/
structure Templates where
  quote : Char
  /-- What stands before and after an expression that is cast to text. -/
  castToText : Option (String × String)
  regex : RegexForm
  regexIgnoringCase : RegexForm
  /-- Whether a match that ignores case lowers the column. -/
  regexLowersColumn : Bool
  /-- Whether a match that ignores case lowers the keyword. -/
  regexLowersKeyword : Bool
  paging : PagingStyle

/-- The template used when a null ordering template has not two slots. -/
def defaultNullsLast : String := "%s %s NULLS LAST"

namespace Dialect

/-- The family of MySQL, with the quote left open. -/
def family (quote : Char) : Templates where
  quote := quote
  castToText := none
  regex := .operator "REGEXP"
  regexIgnoringCase := .operator "REGEXP"
  regexLowersColumn := true
  regexLowersKeyword := true
  paging := .limitOffset

def templates : Dialect → Templates
  | .postgres => {
      quote := '"'
      castToText := some ("CAST(", " AS TEXT)")
      regex := .operator "~"
      regexIgnoringCase := .operator "~*"
      regexLowersColumn := false
      regexLowersKeyword := false
      paging := .limitOffset }
  | .mysql => family '\x60'
  | .sqlite | .generic => family '"'
  | .oracle => { family '"' with
      regex := .function "REGEXP_LIKE" none
      regexIgnoringCase := .function "REGEXP_LIKE" (some "i")
      regexLowersKeyword := false
      paging := .offsetFetch }
  | .firebird => { family '"' with
      castToText := some ("CAST(", " AS VARCHAR(255))")
      paging := .rows }

def ofBackend : Backend → Dialect
  | .postgres => .postgres
  | .mysql => .mysql
  | .sqlite => .sqlite

/-- The dialect of a driver name, read without blanks around it and without regard to case. -/
def ofDriver (name : String) : Dialect :=
  let driver := Text.asciiLowercase (Text.trim name)
  if driver = "pgsql" ∨ driver = "postgres" ∨ driver = "postgresql" then .postgres
  else if driver = "mysql" ∨ driver = "mariadb" then .mysql
  else if driver = "sqlite" ∨ driver = "sqlite3" then .sqlite
  else if driver = "oracle" ∨ driver = "oci8" then .oracle
  else if driver = "firebird" then .firebird
  else .generic

/-! ## Quoting -/

/-- A quoted identifier; `*` stays as it is. -/
def quoteIdentifier (d : Dialect) (name : String) : String :=
  if name = "*" then name else Identifier.quoted d.templates.quote name

/-- A dotted path with every segment trimmed and quoted. -/
def quotePath (d : Dialect) (path : String) : String :=
  Text.join "." ((Text.segments '.' path).map fun segment => d.quoteIdentifier (Text.trim segment))

/-! ## Expressions -/

def lowered (sql : String) : String := "LOWER(" ++ sql ++ ")"

/-- An expression as text, cast where the dialect needs it. -/
def castToText (d : Dialect) (sql : String) : String :=
  match d.templates.castToText with
  | some (before, after) => before ++ sql ++ after
  | none => sql

/-- A column with the way to match it against a regular expression. -/
structure RegexMatch where
  column : String
  form : RegexForm
  lowersKeyword : Bool
  deriving DecidableEq, Repr

/-- How a dialect matches a column against a regular expression. -/
def regexMatch (d : Dialect) (column : String) (ignoreCase : Bool) : RegexMatch :=
  let t := d.templates
  if ignoreCase then
    { column := if t.regexLowersColumn then lowered column else column
      form := t.regexIgnoringCase
      lowersKeyword := t.regexLowersKeyword }
  else { column := column, form := t.regex, lowersKeyword := false }

/-- The predicate for a keyword, which is bound as a value. -/
def RegexMatch.predicate (m : RegexMatch) (keyword : String) : Predicate :=
  let pattern : Operand :=
    .value (.ofString (if m.lowersKeyword then Text.lowercase keyword else keyword))
  match m.form with
  | .operator symbol => .regex symbol (.verbatim m.column) pattern
  | .function name flags =>
    .call name ([.verbatim m.column, pattern] ++
      (flags.map fun f => Operand.verbatim ("'" ++ f ++ "'")).toList)

/-! ## Ordering and paging -/

/-- Fill a null ordering template: the first slot takes the column and the then first slot the
direction. A template without exactly two slots gives way to the default one. -/
def nullsLast (column direction template : String) : String :=
  let template := if Text.count "%s" template = 2 then template else defaultNullsLast
  Text.replaceFirst "%s" direction (Text.replaceFirst "%s" column template)

/-- The sum of two counts, at most the greatest one. -/
def addSaturating (a b : UInt64) : UInt64 :=
  if a.toNat + b.toNat < UInt64.size then a + b else .ofNat (UInt64.size - 1)

/-- The clause for `limit` rows after the first `offset` ones. -/
def limitClause (d : Dialect) (offset limit : UInt64) : String :=
  match d.templates.paging with
  | .limitOffset => "LIMIT " ++ limit.toNat.repr ++ " OFFSET " ++ offset.toNat.repr
  | .offsetFetch =>
    "OFFSET " ++ offset.toNat.repr ++ " ROWS FETCH NEXT " ++ limit.toNat.repr ++ " ROWS ONLY"
  | .rows =>
    "ROWS " ++ (addSaturating offset 1).toNat.repr ++ " TO " ++
      (addSaturating offset limit).toNat.repr

end Dialect

end ServerGrid
