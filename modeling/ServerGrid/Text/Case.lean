import ServerGrid.Text.CaseData
import ServerGrid.Text.Ranges

/-!
# Letter case

`lowercase` is the full Unicode mapping: every character by itself, except that the capital I with
dot above becomes two characters, and a capital sigma becomes the final sigma when a cased letter
stands before it and none after it (case-ignorable characters are looked through). `asciiLowercase`
and `asciiUppercase` change the 26 ASCII letters only.
-/

namespace ServerGrid.Text

/-! ## ASCII -/

def asciiLowercase (text : String) : String :=
  .ofList (text.toList.map Char.toLower)

def asciiUppercase (text : String) : String :=
  .ofList (text.toList.map Char.toUpper)

/-! ## The full mapping -/

/-- The simple lower-case mapping of one character. -/
def lowercaseChar (c : Char) : Char :=
  if c.toNat < 0x80 then c.toLower
  else
    match lowercaseRuns.find? fun run =>
      run.first ≤ c.toNat && c.toNat ≤ run.last && (c.toNat - run.first) % run.step == 0 with
    | some run => .ofNat (c.toNat + run.distance).toNat
    | none => c

/-- The Unicode property Cased. -/
def isCased (c : Char) : Bool :=
  if c.toNat < 0x80 then c.isAlpha else inRanges casedRanges c.toNat

/-- The Unicode property Case_Ignorable. -/
def isCaseIgnorable (c : Char) : Bool :=
  if c.toNat < 0x80 then
    c == '\x27' || c == '.' || c == ':' || c == '^' || c == '\x60'
  else inRanges caseIgnorableRanges c.toNat

/-- Whether the first character that is not case-ignorable is cased. -/
def casedNext : List Char → Bool
  | [] => false
  | c :: rest => if isCaseIgnorable c then casedNext rest else isCased c

/-- The lower-case form of one character between its neighbours; `before` is read backwards. -/
def lowercaseIn (before : List Char) (c : Char) (after : List Char) : List Char :=
  if c = 'İ' then ['i', '\u0307']
  else if c = 'Σ' then [if casedNext before && !casedNext after then 'ς' else 'σ']
  else [lowercaseChar c]

/-- Lower-case a list of characters, given those before it, last first. -/
def lowercaseFrom (before : List Char) : List Char → List Char
  | [] => []
  | c :: rest => lowercaseIn before c rest ++ lowercaseFrom (c :: before) rest

/-- The full lower-case mapping of a text. -/
def lowercase (text : String) : String :=
  .ofList (lowercaseFrom [] text.toList)

end ServerGrid.Text
