/-!
# White space

The characters of the Unicode property White_Space, trimming, and the split of a text into words.
The zero-width space, the byte order mark and the information separators are no white space.
-/

namespace ServerGrid.Text

/-- The Unicode property White_Space. -/
def isBlank (c : Char) : Bool :=
  let n := c.toNat
  (0x09 ≤ n && n ≤ 0x0D) || n == 0x20 || n == 0x85 || n == 0xA0 || n == 0x1680 ||
    (0x2000 ≤ n && n ≤ 0x200A) || n == 0x2028 || n == 0x2029 || n == 0x202F || n == 0x205F ||
    n == 0x3000

def trimEndList : List Char → List Char
  | [] => []
  | c :: rest =>
    match trimEndList rest with
    | [] => if isBlank c then [] else [c]
    | kept => c :: kept

def trimList (text : List Char) : List Char :=
  trimEndList (text.dropWhile isBlank)

def trim (text : String) : String :=
  .ofList (trimList text.toList)

/-- Gather the non-blank runs; `word` holds the current one, last character first. -/
def wordsFrom (word : List Char) : List Char → List (List Char)
  | [] => if word.isEmpty then [] else [word.reverse]
  | c :: rest =>
    if isBlank c then
      if word.isEmpty then wordsFrom [] rest else word.reverse :: wordsFrom [] rest
    else wordsFrom (c :: word) rest

/-- The non-blank runs of a text, in order. -/
def words (text : String) : List String :=
  (wordsFrom [] text.toList).map String.ofList

/-- Every white space character of the core library is a blank here. -/
theorem isBlank_of_isWhitespace {c : Char} (h : c.isWhitespace = true) : isBlank c = true := by
  simp only [Char.isWhitespace, Bool.or_eq_true, decide_eq_true_eq] at h
  rcases h with ((rfl | rfl) | rfl) | rfl <;> rfl

end ServerGrid.Text
