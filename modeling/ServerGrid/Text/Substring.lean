/-!
# Cutting and replacing text

Occurrences of a pattern are found from left to right and never overlap. `replaceAll`,
`replaceFirst` and `count` all read the same occurrences; `segments`, `cutFirst` and `cutLast` cut
at one character. Everything works on lists of characters, with `String` versions where the engine
uses them.
-/

namespace ServerGrid.Text

/-! ## Cutting at a character -/

/-- The segments between the occurrences of `sep`; there is always at least one. -/
def segmentsList (sep : Char) : List Char → List (List Char)
  | [] => [[]]
  | c :: rest =>
    if c = sep then [] :: segmentsList sep rest
    else match segmentsList sep rest with
      | [] => [[c]]
      | first :: others => (c :: first) :: others

def segments (sep : Char) (text : String) : List String :=
  (segmentsList sep text.toList).map String.ofList

/-- What stands before and after the first `sep`. -/
def cutFirstList (sep : Char) : List Char → Option (List Char × List Char)
  | [] => none
  | c :: rest =>
    if c = sep then some ([], rest)
    else (cutFirstList sep rest).map fun (before, after) => (c :: before, after)

def cutFirst (sep : Char) (text : String) : Option (String × String) :=
  (cutFirstList sep text.toList).map fun (before, after) => (.ofList before, .ofList after)

/-- What stands before and after the last `sep`. -/
def cutLastList (sep : Char) : List Char → Option (List Char × List Char)
  | [] => none
  | c :: rest =>
    match cutLastList sep rest with
    | some (before, after) => some (c :: before, after)
    | none => if c = sep then some ([], rest) else none

def cutLast (sep : Char) (text : String) : Option (String × String) :=
  (cutLastList sep text.toList).map fun (before, after) => (.ofList before, .ofList after)

/-! ## Occurrences of a pattern -/

/-- Replace every occurrence of `pattern`; the first argument counts the characters of the current
occurrence that are still to be dropped. -/
def replaceFrom (pattern new : List Char) : Nat → List Char → List Char
  | _, [] => []
  | skip + 1, _ :: rest => replaceFrom pattern new skip rest
  | 0, c :: rest =>
    if pattern.isPrefixOf (c :: rest) then
      new ++ replaceFrom pattern new (pattern.length - 1) rest
    else c :: replaceFrom pattern new 0 rest

/-- Replace every occurrence of a non-empty pattern. -/
def replaceAll (pattern new text : String) : String :=
  .ofList (replaceFrom pattern.toList new.toList 0 text.toList)

/-- Replace the first occurrence of a non-empty pattern, if there is one. -/
def replaceFirstList (pattern new : List Char) : List Char → List Char
  | [] => []
  | c :: rest =>
    if pattern.isPrefixOf (c :: rest) then new ++ (c :: rest).drop pattern.length
    else c :: replaceFirstList pattern new rest

def replaceFirst (pattern new text : String) : String :=
  .ofList (replaceFirstList pattern.toList new.toList text.toList)

/-- Count the occurrences of `pattern`, dropping the rest of one before looking for the next. -/
def countFrom (pattern : List Char) : Nat → List Char → Nat
  | _, [] => 0
  | skip + 1, _ :: rest => countFrom pattern skip rest
  | 0, c :: rest =>
    if pattern.isPrefixOf (c :: rest) then countFrom pattern (pattern.length - 1) rest + 1
    else countFrom pattern 0 rest

/-- How often a non-empty pattern occurs in a text. -/
def count (pattern text : String) : Nat :=
  countFrom pattern.toList 0 text.toList

/-- Whether `pattern` stands somewhere in the list. -/
def occursIn (pattern : List Char) : List Char → Bool
  | [] => pattern.isEmpty
  | c :: rest => pattern.isPrefixOf (c :: rest) || occursIn pattern rest

def contains (pattern text : String) : Bool :=
  occursIn pattern.toList text.toList

def join (sep : String) : List String → String
  | [] => ""
  | [one] => one
  | first :: second :: rest => first ++ sep ++ join sep (second :: rest)

end ServerGrid.Text
