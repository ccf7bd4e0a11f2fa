import ServerGrid.Config
import ServerGrid.Request

/-!
# LIKE patterns

A keyword becomes a pattern in a fixed order: it is lowered when case is ignored; a search from the
start appends a wildcard and stops there; wildcard mode escapes every character that LIKE would
read and puts a wildcard around each; smart mode puts one at both ends. `Like.Accepts` says which
texts a pattern accepts.
-/

namespace ServerGrid

namespace Like

/-- The characters that LIKE would read, with the escape character `\` before them. It is doubled
first, so that those that are added stay single. -/
def escaped (keyword : String) : String :=
  Text.replaceAll "_" "\\_" (Text.replaceAll "%" "\\%" (Text.replaceAll "\\" "\\\\" keyword))

/-- A wildcard after every character; an escape character stays with the one that it escapes. -/
def spaced : List Char → List Char
  | [] => []
  | [c] => [c, '%']
  | c :: d :: rest =>
    if c = '\\' then c :: d :: '%' :: spaced rest else c :: '%' :: spaced (d :: rest)

/-- A wildcard before, between and after the characters. -/
def interleaved (pattern : String) : String :=
  .ofList ('%' :: spaced pattern.toList)

/-- Part of a pattern: a given character, any character, or any run of characters. -/
inductive Item where
  | char (c : Char)
  | one
  | many
  deriving DecidableEq, Repr

/-- What a character that is not escaped stands for. -/
def Item.ofChar (c : Char) : Item :=
  if c = '%' then .many else if c = '_' then .one else .char c

/-- Read a pattern, with or without the escape character `\`; an escape at the end is ill-formed. -/
def items? (escape : Bool) : List Char → Option (List Item)
  | [] => some []
  | [c] => if escape ∧ c = '\\' then none else some [.ofChar c]
  | c :: d :: rest =>
    if escape ∧ c = '\\' then (items? escape rest).map (.char d :: ·)
    else (items? escape (d :: rest)).map (.ofChar c :: ·)

/-- The texts that a pattern accepts. -/
inductive Accepts : List Item → List Char → Prop where
  | nil : Accepts [] []
  | char {c : Char} {items : List Item} {text : List Char} :
      Accepts items text → Accepts (.char c :: items) (c :: text)
  | one {c : Char} {items : List Item} {text : List Char} :
      Accepts items text → Accepts (.one :: items) (c :: text)
  | none {items : List Item} {text : List Char} :
      Accepts items text → Accepts (.many :: items) text
  | more {c : Char} {items : List Item} {text : List Char} :
      Accepts (.many :: items) text → Accepts (.many :: items) (c :: text)

end Like

namespace Config

/-- A keyword in the case that it is compared in. -/
def folded (c : Config) (keyword : String) : String :=
  if c.caseInsensitive then Text.lowercase keyword else keyword

/-- The LIKE pattern for a keyword. -/
def pattern (c : Config) (keyword : String) : String :=
  let keyword := c.folded keyword
  if c.startsWithSearch then keyword ++ "%"
  else if c.useWildcards then Like.interleaved (Like.escaped keyword)
  else if c.smart then "%" ++ keyword ++ "%"
  else keyword

end Config

/-- What a column's own search binds: a regular expression as it is, else the pattern. -/
def SearchTerm.pattern (s : SearchTerm) (config : Config) : String :=
  if s.regex then s.keyword else config.pattern s.keyword

end ServerGrid
