/-!
# Quoted identifiers

An identifier stands between two quote characters, and a quote character inside is written twice.
`Identifier.decode` reads one identifier from the front of a text. Main statement:
`decode_encode`, reading takes back what writing produced, whatever follows, unless another quote
character follows at once.
-/

namespace ServerGrid.Identifier

/-- The inside of a quoted identifier: the quote character is doubled. -/
def body (quote : Char) (name : List Char) : List Char :=
  name.flatMap fun c => if c = quote then [quote, quote] else [c]

/-- A quoted identifier. -/
def encode (quote : Char) (name : List Char) : List Char :=
  quote :: body quote name ++ [quote]

/-- A quoted identifier as text. -/
def quoted (quote : Char) (name : String) : String :=
  .ofList (encode quote name.toList)

/-- Read an identifier after its opening quote: the name and what follows the closing quote. -/
def decodeBody (quote : Char) : List Char → Option (List Char × List Char)
  | [] => none
  | [c] => if c = quote then some ([], []) else none
  | c :: d :: rest =>
    if c = quote then
      if d = quote then (decodeBody quote rest).map fun (name, after) => (quote :: name, after)
      else some ([], d :: rest)
    else (decodeBody quote (d :: rest)).map fun (name, after) => (c :: name, after)

/-- Read a quoted identifier from the front of a text. -/
def decode (quote : Char) : List Char → Option (List Char × List Char)
  | c :: rest => if c = quote then decodeBody quote rest else none
  | [] => none

/-! ## Reading takes back what writing produced -/

theorem decodeBody_body (quote : Char) (name after : List Char) (h : after.head? ≠ some quote) :
    decodeBody quote (body quote name ++ quote :: after) = some (name, after) := by
  induction name with
  | nil =>
    cases after with
    | nil => simp [body, decodeBody]
    | cons a rest =>
      have ha : a ≠ quote := by simpa using h
      simp [body, decodeBody, ha]
  | cons c name ih =>
    have hb : body quote (c :: name) =
        (if c = quote then [quote, quote] else [c]) ++ body quote name := rfl
    by_cases hc : c = quote
    · subst hc
      simp [hb, decodeBody, ih]
    · rw [hb, if_neg hc, List.append_assoc, List.singleton_append]
      cases hn : body quote name ++ quote :: after with
      | nil => simp at hn
      | cons d rest => simp [decodeBody, hc, ← hn, ih]

theorem decode_encode (quote : Char) (name after : List Char) (h : after.head? ≠ some quote) :
    decode quote (encode quote name ++ after) = some (name, after) := by
  simp [decode, encode, decodeBody_body quote name after h]

end ServerGrid.Identifier
