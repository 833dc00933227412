import Declgen.Text.Quoted

/-!
# Reading quoted text

What a string in source text says: the characters between its quotes, with escapes resolved, or as they are if
the string is raw.
-/

namespace Declgen.Text

/-! ## Hexadecimal digits -/

def isHex (c : Char) : Bool := c.isDigit || 'a' ≤ c && c ≤ 'f' || 'A' ≤ c && c ≤ 'F'

def hexValue (ds : List Char) : Nat :=
  ds.foldl (fun n c => n * 16 + if c.isDigit then c.toNat - 48 else c.toLower.toNat - 87) 0

/-! ## Escapes -/

/-- The blanks after a backslash at the end of a line. -/
def isLineBlank (c : Char) : Bool := c = ' ' || c = '\t' || c = '\n' || c = '\r'

/-- The character that an escape of one letter stands for. -/
def simpleEscape? (c : Char) : Option Char :=
  match c with
  | 'n' => some '\n'
  | 'r' => some '\r'
  | 't' => some '\t'
  | '\\' => some '\\'
  | '0' => some '\x00'
  | '\'' => some '\''
  | '"' => some '"'
  | _ => none

/-- The number between braces, and what follows. -/
def bracedNumber? : List Char → Option (Nat × List Char)
  | '{' :: rest =>
    match rest.dropWhile (· != '}') with
    | '}' :: after => some (hexValue ((rest.takeWhile (· != '}')).filter isHex), after)
    | _ => none
  | _ => none

/-- What an escape stands for, after its backslash, and what follows. A line that ends goes on after blanks and
stands for nothing. -/
def escaped? : List Char → Option (List Char × List Char)
  | 'x' :: a :: b :: rest => some ([Char.ofNat (hexValue [a, b])], rest)
  | 'u' :: rest => (bracedNumber? rest).map fun (n, after) => ([Char.ofNat n], after)
  | c :: rest =>
    if c = '\n' || c = '\r' then some ([], rest.dropWhile isLineBlank)
    else (simpleEscape? c).map fun d => ([d], rest)
  | [] => none

/-! ## Strings -/

/-- The text up to the closing quote. A line end of two characters is one. -/
def unquotedBody : List Char → List Char → Option (List Char)
  | [], _ => none
  | _ :: budget, cs =>
    match cs with
    | [] => none
    | '"' :: _ => some []
    | '\r' :: '\n' :: rest => (unquotedBody budget rest).map ('\n' :: ·)
    | '\\' :: rest =>
      match escaped? rest with
      | some (ds, rest) => (unquotedBody budget rest).map (ds ++ ·)
      | none => none
    | c :: rest => (unquotedBody budget rest).map (c :: ·)

/-- The text up to a quote with as many marks behind it as stood in front. -/
def rawBody (marks : List Char) : List Char → Option (List Char)
  | [] => none
  | c :: rest =>
    if c = '"' && marks.isPrefixOf rest then some [] else (rawBody marks rest).map (c :: ·)

/-- The text of a string literal; other literals have none. -/
def unquoted? (literal : String) : Option String :=
  match literal.toList with
  | '"' :: rest => (unquotedBody ('"' :: rest) rest).map String.ofList
  | 'r' :: rest =>
    let marks := rest.takeWhile (· == '#')
    match rest.dropWhile (· == '#') with
    | '"' :: body => (rawBody marks body).map String.ofList
    | _ => none
  | _ => none

end Declgen.Text
