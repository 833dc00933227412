/-!
# Tags of fields

A tag is a row of pairs `name:"value"` with spaces between them. Inside a value a backslash hides the next
character, and nothing else is decoded.
-/

namespace Declgen.FieldTag

/-- What a pair's name ends at. -/
def endsName (c : Char) : Bool := c = ':' || c = ' ' || c = '"'

/-- The value up to its closing quote, and what follows the quote. -/
def value? : List Char → Option (List Char × List Char)
  | [] => none
  | '"' :: rest => some ([], rest)
  | ['\\'] => none
  | '\\' :: c :: rest => (value? rest).map fun (v, rest) => ('\\' :: c :: v, rest)
  | c :: rest => (value? rest).map fun (v, rest) => (c :: v, rest)

/-- The pair that a text starts with: name, value and what follows. -/
def pair? (cs : List Char) : Option (List Char × List Char × List Char) :=
  let name := cs.takeWhile (!endsName ·)
  if name.isEmpty then none
  else
    match cs.dropWhile (!endsName ·) with
    | ':' :: '"' :: rest => (value? rest).map fun (v, rest) => (name, v, rest)
    | _ => none

/-- The value of the first pair of a name, in at most as many pairs as the budget has items. -/
def find? (key : List Char) : List Char → List Char → Option (List Char)
  | budget, cs =>
    match pair? (cs.dropWhile (· = ' ')) with
    | none => none
    | some (name, v, rest) =>
      if name = key then some v
      else
        match budget with
        | [] => none
        | _ :: budget => find? key budget rest

/-- The value under a key. A tag that is malformed before the key has none. -/
def lookup? (tag key : String) : Option String :=
  (find? key.toList tag.toList tag.toList).map String.ofList

/-! ## The entry for JSON -/

/-- What the `json` entry of a tag says about a field. -/
structure Json where
  /-- The name in documents, if it is given. -/
  name : Option String
  /-- The field is left out of documents. -/
  skip : Bool
  /-- An empty value is left out. -/
  omitEmpty : Bool
deriving DecidableEq

/-- The parts between commas, the first one apart. -/
def splitCommas : List Char → List Char × List (List Char)
  | [] => ([], [])
  | c :: rest =>
    let (part, parts) := splitCommas rest
    if c = ',' then ([], part :: parts) else (c :: part, parts)

def json (tag : String) : Json :=
  match lookup? tag "json" with
  | none => ⟨none, false, false⟩
  | some value =>
    if value = "-" then ⟨none, true, false⟩
    else
      let (name, options) := splitCommas value.toList
      ⟨if name.isEmpty then none else some (String.ofList name), false,
        options.contains "omitempty".toList⟩

end Declgen.FieldTag
