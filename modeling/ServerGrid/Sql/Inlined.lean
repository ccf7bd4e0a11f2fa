import ServerGrid.Json.Printer
import ServerGrid.Sql.Piece
import ServerGrid.Text.Alphabetic

/-!
# Statements with their values written in

For listings, a statement is shown with literals in place of its placeholders. The text is cut into
tokens (blanks, words, quoted tokens, single marks), and only marks can be placeholders: `?` takes
the next value, and on PostgreSQL `$` with a number takes that value. Inside a quoted token a
backslash keeps the next character from closing it. So a text can have more marks than placeholders,
and a mark that finds no value leaves no text at all (`Statement.inlined?`).
-/

namespace ServerGrid

/-! ## Literals -/

namespace Value

/-- Escape a text with backslashes. -/
def backslashed (c : Char) : List Char :=
  if c = '\\' then ['\\', '\\']
  else if c = '"' then ['\\', '"']
  else if c = '\x27' then ['\\', '\x27']
  else if c = '\x00' then ['\\', '0']
  else if c = '\x08' then ['\\', 'b']
  else if c = '\t' then ['\\', 't']
  else if c = '\x1a' then ['\\', 'z']
  else if c = '\n' then ['\\', 'n']
  else if c = '\r' then ['\\', 'r']
  else [c]

/-- A text literal. SQLite doubles the quote; the others use backslashes, which PostgreSQL
announces by an `E`. -/
def textLiteral (backend : Backend) (s : String) : String :=
  match backend with
  | .sqlite => .ofList (Identifier.encode '\x27' s.toList)
  | .mysql => .ofList ('\x27' :: s.toList.flatMap backslashed ++ ['\x27'])
  | .postgres =>
    let escaped := s.toList.flatMap backslashed
    let start := if escaped.contains '\\' then ['E', '\x27'] else ['\x27']
    .ofList (start ++ escaped ++ ['\x27'])

def upperHexDigit (n : Nat) : Char :=
  if n < 10 then .ofNat (0x30 + n) else .ofNat (0x37 + n)

def upperHex (bytes : List UInt8) : String :=
  .ofList (bytes.flatMap fun b => [upperHexDigit (b.toNat / 16), upperHexDigit (b.toNat % 16)])

def bytesLiteral (backend : Backend) (bytes : List UInt8) : String :=
  match backend with
  | .postgres => "'\\x" ++ upperHex bytes ++ "'"
  | .sqlite | .mysql => "x'" ++ upperHex bytes ++ "'"

def literal (backend : Backend) : Value → String
  | .bool (some true) => "TRUE"
  | .bool (some false) => "FALSE"
  | .int (some n) => (Number.integer n.toInt).text
  | .bigInt (some n) => (Number.integer n.toInt).text
  | .bigUnsigned (some n) => n.toNat.repr
  | .double (some x) => x.text .sql
  | .string (some s) => textLiteral backend s
  | .bytes (some b) => bytesLiteral backend b
  | .json (some j) => textLiteral backend j.text
  | .bool none | .int none | .bigInt none | .bigUnsigned none | .double none | .string none
  | .bytes none | .json none => "NULL"

end Value

/-! ## Tokens -/

/-- A token of SQL text. -/
inductive Token where
  | blanks (s : List Char)
  | word (s : List Char)
  | quoted (s : List Char)
  | mark (c : Char)
  deriving DecidableEq, Repr

namespace Token

def chars : Token → List Char
  | .blanks s | .word s | .quoted s => s
  | .mark c => [c]

/-- The blanks that separate tokens. -/
def isSpace (c : Char) : Bool := c == ' ' || c == '\t' || c == '\r' || c == '\n'

/-- Characters that start a word. -/
def startsWord (c : Char) : Bool := Text.isAlphabetic c || c.isDigit

/-- Characters that continue a word. -/
def continuesWord (c : Char) : Bool := startsWord c || c == '_' || c == '$'

/-- The character that closes a quoted token, by the one that opens it. -/
def closing? (c : Char) : Option Char :=
  if c = '\x60' ∨ c = '\x27' ∨ c = '"' then some c else if c = '[' then some ']' else none

/-- How long the rest of a quoted token is, after its opening character. A doubled closing
character continues the token, except for a bracket; `escaped` tells that a backslash came just
before. -/
def quotedLength (close : Char) (escaped : Bool) : List Char → Nat
  | [] => 0
  | [_] => 1
  | c :: d :: rest =>
    if !escaped && c == close then
      if d == close && close != ']' then quotedLength close false rest + 2 else 1
    else quotedLength close (!escaped && c == '\\') (d :: rest) + 1

/-- The first token of a text and its length, which is positive. -/
def first (c : Char) (rest : List Char) : Token × Nat :=
  if isSpace c then
    let more := rest.takeWhile isSpace
    (.blanks (c :: more), more.length)
  else if startsWord c then
    let more := rest.takeWhile continuesWord
    (.word (c :: more), more.length)
  else
    match closing? c with
    | some close =>
      let length := quotedLength close false rest
      (.quoted (c :: rest.take length), length)
    | none => (.mark c, 0)

/-- Cut a text into tokens; `skip` characters still belong to the token before. -/
def scanFrom : Nat → List Char → List Token
  | _, [] => []
  | skip + 1, _ :: rest => scanFrom skip rest
  | 0, c :: rest =>
    let (token, more) := first c rest
    token :: scanFrom more rest

def scan (sql : String) : List Token := scanFrom 0 sql.toList

/-- The value of a word that is a whole number of 64 bits. -/
def number? (word : List Char) : Option Nat :=
  if word.all Char.isDigit && !word.isEmpty then
    let n := word.foldl (fun n c => n * 10 + (c.toNat - 0x30)) 0
    if n < UInt64.size then some n else none
  else none

/-- Write values for the `?` marks in order. -/
def inlineInOrder? (backend : Backend) : List Value → List Token → Option (List Char)
  | _, [] => some []
  | [], .mark '?' :: _ => none
  | v :: values, .mark '?' :: rest =>
    ((v.literal backend).toList ++ ·) <$> inlineInOrder? backend values rest
  | values, token :: rest => (token.chars ++ ·) <$> inlineInOrder? backend values rest

/-- Write values for the `$` marks with a number, which starts from one; other marks stay. -/
def inlineByNumber? (backend : Backend) (values : List Value) : List Token → Option (List Char)
  | [] => some []
  | [token] => some token.chars
  | token :: next :: rest =>
    match token, next with
    | .mark '$', .word w =>
      match number? w with
      | some 0 => none
      | some (n + 1) => do
        let v ← values[n]?
        ((v.literal backend).toList ++ ·) <$> inlineByNumber? backend values rest
      | none => (token.chars ++ ·) <$> inlineByNumber? backend values (next :: rest)
    | _, _ => (token.chars ++ ·) <$> inlineByNumber? backend values (next :: rest)

end Token

/-- The text of a statement with literals in place of its placeholders, `none` when a mark has no
value. -/
def Statement.inlined? (backend : Backend) (s : Statement) : Option String :=
  .ofList <$>
    match backend with
    | .postgres => Token.inlineByNumber? backend s.values (Token.scan s.sql)
    | .sqlite | .mysql => Token.inlineInOrder? backend s.values (Token.scan s.sql)

end ServerGrid
