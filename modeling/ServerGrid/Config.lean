import ServerGrid.Dialect
import ServerGrid.Json.Record

/-!
# Configuration

Flags for the normalisation of keywords, the ordering of NULLs and the reporting of errors. Every
field has a default, also when a configuration is read from JSON.
-/

namespace ServerGrid

/-- How requests are searched, ordered and reported. -/
structure Config where
  /-- Match keywords anywhere in the column. -/
  smart : Bool
  /-- Split the global keyword into words that must all match. -/
  multiTerm : Bool
  /-- Compare in lower case. -/
  caseInsensitive : Bool
  /-- Allow anything between the characters of a keyword, which match literally. -/
  useWildcards : Bool
  /-- Match keywords at the start of the column, whatever `smart` says. -/
  startsWithSearch : Bool
  /-- Order NULLs last. -/
  nullsLast : Bool
  /-- The template for that, with slots for the column and the direction. -/
  nullsLastSql : String
  /-- Report statements, the request and the details of errors. -/
  debug : Bool
  /-- What clients are told of an error when `debug` is off. -/
  errorMessage : Option String
  deriving DecidableEq, Repr

namespace Config

def default : Config where
  smart := true
  multiTerm := true
  caseInsensitive := true
  useWildcards := false
  startsWithSearch := false
  nullsLast := false
  nullsLastSql := defaultNullsLast
  debug := false
  errorMessage := none

def clientMessage (c : Config) : String := c.errorMessage.getD "Server Error"

/-! ## JSON -/

def toJson (c : Config) : Json :=
  .object [
    ("smart", .bool c.smart),
    ("multi_term", .bool c.multiTerm),
    ("case_insensitive", .bool c.caseInsensitive),
    ("use_wildcards", .bool c.useWildcards),
    ("starts_with_search", .bool c.startsWithSearch),
    ("nulls_last", .bool c.nullsLast),
    ("nulls_last_sql", .string c.nullsLastSql),
    ("debug", .bool c.debug),
    ("error_message", Json.ofOption .string c.errorMessage)]

def fieldNames : List String :=
  ["smart", "multi_term", "case_insensitive", "use_wildcards", "starts_with_search", "nulls_last",
    "nulls_last_sql", "debug", "error_message"]

/-- Read a configuration; missing fields take their defaults. -/
def ofJson? (j : Json) : Option Config := do
  let fields ← j.record? fieldNames
  let smart ← Json.field? fields "smart" Json.toBool? default.smart
  let multiTerm ← Json.field? fields "multi_term" Json.toBool? default.multiTerm
  let caseInsensitive ←
    Json.field? fields "case_insensitive" Json.toBool? default.caseInsensitive
  let useWildcards ← Json.field? fields "use_wildcards" Json.toBool? default.useWildcards
  let startsWithSearch ←
    Json.field? fields "starts_with_search" Json.toBool? default.startsWithSearch
  let nullsLast ← Json.field? fields "nulls_last" Json.toBool? default.nullsLast
  let nullsLastSql ← Json.field? fields "nulls_last_sql" Json.toString? default.nullsLastSql
  let debug ← Json.field? fields "debug" Json.toBool? default.debug
  let errorMessage ←
    Json.field? fields "error_message" (Json.toOption? Json.toString?) default.errorMessage
  return { smart, multiTerm, caseInsensitive, useWildcards, startsWithSearch, nullsLast,
           nullsLastSql, debug, errorMessage }

end Config

end ServerGrid
