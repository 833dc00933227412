import Declgen.Text.Hidden

/-!
# Quoted text

Text between double quotes, with quotes, backslashes and characters that do not show written as escapes.
`quote` is the form of messages. `literal` is the form of a string in source text, which differs only
where a NUL stands before an octal digit.
-/

namespace Declgen.Text

/-- Lowercase hexadecimal digits, without leading zeros. -/
def hexDigits (n : Nat) : List Char := Nat.toDigits 16 n

def escapeChar (c : Char) : List Char :=
  if c = '"' then ['\\', '"']
  else if c = '\\' then ['\\', '\\']
  else if c = '\n' then ['\\', 'n']
  else if c = '\r' then ['\\', 'r']
  else if c = '\t' then ['\\', 't']
  else if c = '\x00' then ['\\', '0']
  else if isHidden c then ['\\', 'u', '\x7b'] ++ hexDigits c.toNat ++ ['\x7d']
  else [c]

def quote (s : String) : String :=
  String.ofList ('"' :: s.toList.flatMap escapeChar ++ ['"'])

def isOctalDigit (c : Char) : Bool := '0' ≤ c && c ≤ '7'

/-- The escapes of a literal. `\0` before an octal digit would read as a longer escape elsewhere, so NUL is
written in two digits there. -/
def literalBody : List Char → List Char
  | [] => []
  | c :: rest =>
    (if c = '\x00' && rest.head?.any isOctalDigit then ['\\', 'x', '0', '0'] else escapeChar c)
      ++ literalBody rest

def literal (s : String) : String :=
  String.ofList ('"' :: literalBody s.toList ++ ['"'])

end Declgen.Text
