/-!
# Keywords and identifiers of generated code
-/

namespace Declgen.Source

/-- Words with a meaning of their own, those kept for later included. -/
def keywords : List String :=
  ["as", "break", "const", "continue", "crate", "else", "enum", "extern", "false", "fn", "for", "if",
    "impl", "in", "let", "loop", "match", "mod", "move", "mut", "pub", "ref", "return", "static",
    "struct", "super", "trait", "true", "type", "unsafe", "use", "where", "while", "async", "await",
    "dyn", "abstract", "become", "box", "do", "final", "macro", "override", "priv", "typeof",
    "unsized", "virtual", "yield", "try", "gen"]

/-- Words that no mark turns into an identifier. -/
def unescapable : List String := ["self", "Self", "super", "crate", "_"]

def isKeyword (word : String) : Bool := keywords.contains word

/-- The word may be an identifier, escaped if it is a keyword. -/
def canBeRaw (word : String) : Bool := !unescapable.contains word

/-- What a reader of source does not take for an identifier: every keyword but the latest one, and the
words that cannot be escaped. -/
def isReserved (word : String) : Bool := word != "gen" && isKeyword word || unescapable.contains word

def isAsciiWordStart (c : Char) : Bool := c.isAlpha || c == '_'

def isAsciiWordChar (c : Char) : Bool := c.isAlphanum || c == '_'

/-- A letter or an underscore, then letters, digits and underscores of ASCII. -/
def isAsciiWord (s : String) : Bool :=
  match s.toList with
  | [] => false
  | c :: rest => isAsciiWordStart c && rest.all isAsciiWordChar

/-- The word can name a declaration. -/
def isIdentifier (s : String) : Bool := isAsciiWord s && canBeRaw s

end Declgen.Source
