import Declgen.Source.Keyword

/-!
# Tokens of source text
-/

namespace Declgen.Source

inductive Bracket where
  | round | square | curly
deriving DecidableEq

def Bracket.open_ : Bracket → Char
  | .round => '('
  | .square => '['
  | .curly => '\x7b'

def Bracket.close : Bracket → Char
  | .round => ')'
  | .square => ']'
  | .curly => '\x7d'

inductive Token where
  /-- A name or a keyword; `raw` tells that it carries the mark of an escaped name. -/
  | word (name : String) (raw : Bool)
  /-- One character of punctuation; `joint` tells that more follows without a blank. -/
  | mark (c : Char) (joint : Bool)
  /-- A number, a character or a string, as written. -/
  | literal (text : String)
  | opening (b : Bracket)
  | closing (b : Bracket)
deriving DecidableEq

namespace Token

/-- How a name is written. -/
def spelled (name : String) (raw : Bool) : String := if raw then "r#" ++ name else name

/-- The token of an identifier, escaped if it is a keyword. -/
def identifier (name : String) : Token := .word name (isKeyword name)

/-- A word written without a mark. -/
def plain (name : String) : Token := .word name false

/-- The word with a spelling; what is behind the mark of an escaped name has no mark of its own. -/
def ofSpelling (s : String) : Token :=
  match s.toList with
  | 'r' :: '#' :: name => .word (String.ofList name) true
  | _ => .word s false

/-- Punctuation that stands alone. -/
def sign (c : Char) : Token := .mark c false

/-- Punctuation of several characters. -/
def signs : List Char → List Token
  | [] => []
  | [c] => [sign c]
  | c :: rest => .mark c true :: signs rest

/-- The two colons between the parts of a path. -/
def colons : List Token := [.mark ':' true, .mark ':' false]

/-- Lists with a comma between each two. -/
def commas : List (List Token) → List Token
  | [] => []
  | [ts] => ts
  | ts :: rest => ts ++ sign ',' :: commas rest

def inBrackets (b : Bracket) (ts : List Token) : List Token := .opening b :: ts ++ [.closing b]

/-! ## Brackets that match -/

/-- How many brackets are open behind tokens that `depth` are open before. None is closed that is not open. -/
def openAfter : Nat → List Token → Option Nat
  | depth, [] => some depth
  | depth, .opening _ :: rest => openAfter (depth + 1) rest
  | 0, .closing _ :: _ => none
  | depth + 1, .closing _ :: rest => openAfter depth rest
  | depth, .word _ _ :: rest | depth, .mark _ _ :: rest | depth, .literal _ :: rest => openAfter depth rest

/-- The tokens close what they open, and nothing else. -/
def Balanced (ts : List Token) : Prop := openAfter 0 ts = some 0

end Token

/-- Tokens that may stand in a bracket. -/
structure Enclosed where
  tokens : List Token
  balanced : Token.Balanced tokens

instance : Coe Enclosed (List Token) := ⟨Enclosed.tokens⟩

end Declgen.Source
