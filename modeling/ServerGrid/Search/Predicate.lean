import ServerGrid.Search.Pattern

/-!
# Default predicates

How a column is compared with a keyword when it has no custom filter. The keyword is always bound
as a value.
-/

namespace ServerGrid

/-- `column LIKE pattern`, on the column as text, and in lower case when case is ignored. -/
def likePredicate (column pattern : String) (dialect : Dialect) (config : Config) : Predicate :=
  let text := dialect.castToText column
  .like (.verbatim (if config.caseInsensitive then Dialect.lowered text else text)) pattern
    config.useWildcards

/-- A match against a regular expression, as the dialect writes it. -/
def regexPredicate (column keyword : String) (dialect : Dialect) (ignoreCase : Bool) : Predicate :=
  (dialect.regexMatch column ignoreCase).predicate keyword

end ServerGrid
