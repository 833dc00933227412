import Declgen.Source.Token
import Declgen.Source.WordChar
import Declgen.Text.Unquoted

/-!
# Cutting source text into tokens

Blanks and comments vanish. A text has no tokens if a bracket has no partner, a literal does not end or a
character starts no token. Each function below takes one kind of token off the front and gives what follows.
-/

namespace Declgen.Source.Lexer

open Declgen.Text

abbrev Chars := List Char

/-- What is in front of `rest`, where `rest` ends `cs`. -/
def before (cs rest : Chars) : Chars := cs.take (cs.length - rest.length)

def starts (lead : String) (cs : Chars) : Bool := lead.toList.isPrefixOf cs

/-! ## Comments -/

/-- The end of a block comment that is open `depth` times. -/
def blockEnd? : Nat → Chars → Option Chars
  | 0, cs => some cs
  | _ + 1, [] => none
  | depth + 1, '/' :: '*' :: rest => blockEnd? (depth + 2) rest
  | depth + 1, '*' :: '/' :: rest => blockEnd? depth rest
  | depth + 1, _ :: rest => blockEnd? (depth + 1) rest

/-- The text of a line and what follows it. -/
def line : Chars → Chars × Chars
  | [] => ([], [])
  | '\n' :: rest => ([], '\n' :: rest)
  | '\r' :: '\n' :: rest => ([], '\n' :: rest)
  | c :: rest => (c :: (line rest).1, (line rest).2)

def startsLineComment (cs : Chars) : Bool :=
  starts "//" cs && (!starts "///" cs || starts "////" cs) && !starts "//!" cs

def startsBlockComment (cs : Chars) : Bool :=
  starts "/*" cs && (!starts "/**" cs || starts "/***" cs || starts "/**/" cs) && !starts "/*!" cs

/-- Drops blanks and comments. A block comment that does not end stays. -/
def skipTrivia : Chars → Chars → Chars
  | [], cs => cs
  | _ :: budget, cs =>
    match cs with
    | [] => []
    | c :: rest =>
      if startsLineComment cs then skipTrivia budget (line cs).2
      else if startsBlockComment cs then
        match blockEnd? 1 (cs.drop 2) with
        | some rest => skipTrivia budget rest
        | none => cs
      else if isBlank c then skipTrivia budget rest
      else cs

/-- A documentation comment: whether it is about what encloses it, its text, and what follows. -/
def docComment? (cs : Chars) : Option (Bool × Chars × Chars) :=
  if starts "//!" cs then some (true, line (cs.drop 3))
  else if starts "///" cs && !starts "////" cs then some (false, line (cs.drop 3))
  else if starts "/*!" cs || starts "/**" cs && !starts "/***" cs then do
    let rest ← blockEnd? 1 (cs.drop 2)
    let text := before cs rest
    some (starts "/*!" cs, (text.drop 3).take (text.length - 5), rest)
  else none

/-- No carriage return stands without a line feed after it. -/
def plainReturns : Chars → Bool
  | [] => true
  | '\r' :: '\n' :: rest => plainReturns rest
  | '\r' :: _ => false
  | _ :: rest => plainReturns rest

/-- A documentation comment is short for an attribute. -/
def docTokens (inner : Bool) (text : Chars) : List Token :=
  Token.sign '#' :: (if inner then [Token.sign '!'] else []) ++
    Token.inBrackets .square
      [Token.plain "doc", Token.sign '=', .literal (literal (String.ofList text))]

/-! ## Words -/

/-- A word without mark. -/
def plainWord? : Chars → Option (Chars × Chars)
  | [] => none
  | c :: rest =>
    if isWordStart c then some (c :: rest.takeWhile isWordChar, rest.dropWhile isWordChar) else none

/-- A word; a mark in front makes a name of a keyword, except of the few that cannot be escaped. -/
def word? (cs : Chars) : Option (Token × Chars) :=
  match cs with
  | 'r' :: '#' :: rest => do
    let (w, rest) ← plainWord? rest
    let name := String.ofList w
    if canBeRaw name then some (.word name true, rest) else none
  | _ => (plainWord? cs).map fun (w, rest) => (.word (String.ofList w) false, rest)

/-- A literal whose quotes do not match would start like this. -/
def startsBrokenLiteral (cs : Chars) : Bool :=
  ["r\"", "r#\"", "r##", "b\"", "b'", "br\"", "br#", "c\"", "cr\"", "cr#"].any (starts · cs)

/-! ## Strings and characters -/

/-- The literals with quotes differ in the escapes they know. -/
inductive Quoting where
  | text | bytes | terminated
deriving DecidableEq

/-- The rest of `\u`: at most six digits in braces, with underscores among them, that number a character. -/
def unicodeEscape? (zero : Bool) : Chars → Option Chars
  | '{' :: rest =>
    let body := rest.takeWhile fun c => isHex c || c == '_'
    let ds := body.filter isHex
    let n := hexValue ds
    match rest.dropWhile fun c => isHex c || c == '_' with
    | '}' :: after =>
      if body.head?.any isHex && ds.length ≤ 6 && n.isValidChar && (zero || n != 0) then some after else none
    | _ => none
  | _ => none

/-- A backslash at the end of a line goes on after the blanks that follow. -/
def lineEscape? : Chars → Option Chars
  | [] => none
  | '\r' :: '\n' :: rest => lineEscape? rest
  | c :: rest =>
    if c = '\r' then none
    else if c = ' ' || c = '\t' || c = '\n' then lineEscape? rest
    else some (c :: rest)

/-- What follows an escape, after its backslash. -/
def escape? (q : Quoting) (multiline : Bool) : Chars → Option Chars
  | 'x' :: a :: b :: rest =>
    let fits := match q with
      | .text => '0' ≤ a && a ≤ '7'
      | .bytes => isHex a
      | .terminated => isHex a && !(a = '0' && b = '0')
    if fits && isHex b then some rest else none
  | 'u' :: rest => if q = .bytes then none else unicodeEscape? (q = .text) rest
  | c :: rest =>
    if c = 'n' || c = 'r' || c = 't' || c = '\\' || c = '\'' || c = '"' then some rest
    else if c = '0' && q ≠ .terminated then some rest
    else if multiline && (c = '\n' || c = '\r') then lineEscape? (c :: rest)
    else none
  | [] => none

/-- What follows the closing quote of a string. -/
def stringEnd? (q : Quoting) : Chars → Chars → Option Chars
  | budget, cs =>
    match cs with
    | [] => none
    | '"' :: rest => some rest
    | c :: rest =>
      let next :=
        if c = '\\' then escape? q true rest
        else if c = '\r' then if rest.head? = some '\n' then some rest.tail else none
        else if q = .bytes && 0x80 ≤ c.toNat || q = .terminated && c = '\x00' then none
        else some rest
      match next, budget with
      | some rest, _ :: budget => stringEnd? q budget rest
      | _, _ => none

/-- What follows the closing quote and marks of a string without escapes. -/
def rawEnd? (q : Quoting) (marks : Chars) : Chars → Option Chars
  | [] => none
  | '\r' :: '\n' :: rest => rawEnd? q marks rest
  | c :: rest =>
    if c = '"' && marks.isPrefixOf rest then some (rest.drop marks.length)
    else if c = '\r' || q = .bytes && 0x80 ≤ c.toNat || q = .terminated && c = '\x00' then none
    else rawEnd? q marks rest

def rawString? (q : Quoting) (cs : Chars) : Option Chars :=
  let marks := cs.takeWhile (· == '#')
  match cs.dropWhile (· == '#') with
  | '"' :: rest => if marks.length ≤ 255 then rawEnd? q marks rest else none
  | _ => none

/-- What follows one character and its closing quote. -/
def charEnd? (q : Quoting) : Chars → Option Chars
  | '\\' :: rest => do
    let rest ← escape? q false rest
    closed rest
  | c :: rest => if q = .bytes && 0x80 ≤ c.toNat then none else closed rest
  | [] => none
where
  closed : Chars → Option Chars
    | '\'' :: rest => some rest
    | _ => none

/-! ## Numbers -/

def isDigitOrUnderscore (c : Char) : Bool := c.isDigit || c == '_'

/-- The digits of an exponent: what follows, or none if there is no digit. A sign stands only in front. -/
def exponentEnd? (signed valued : Bool) : Chars → Option Chars
  | [] => if valued then some [] else none
  | c :: rest =>
    if c = '+' || c = '-' then
      if valued then some (c :: rest) else if signed then none else exponentEnd? true valued rest
    else if c.isDigit then exponentEnd? signed true rest
    else if c = '_' then exponentEnd? signed valued rest
    else if valued then some (c :: rest) else none

/-- What follows a number with a point or an exponent. -/
def floatEnd? (cs : Chars) : Option Chars :=
  if !cs.head?.any Char.isDigit then none
  else
    match cs.dropWhile isDigitOrUnderscore with
    | '.' :: rest =>
      if rest.head?.any fun c => c == '.' || isWordStart c then none
      else
        let rest := rest.dropWhile isDigitOrUnderscore
        match rest with
        | c :: more => if c = 'e' || c = 'E' then some ((exponentEnd? false false more).getD rest) else some rest
        | [] => some []
    | c :: rest => if c = 'e' || c = 'E' then exponentEnd? false false rest else none
    | [] => none

/-- The digits of an integer in a base: what follows, or none if there is no digit or one too large. -/
def integerDigitsEnd? (base : Nat) (empty : Bool) : Chars → Option Chars
  | [] => if empty then none else some []
  | c :: rest =>
    if c.isDigit then if c.toNat - 48 < base then integerDigitsEnd? base false rest else none
    else if isHex c && base = 16 then integerDigitsEnd? base false rest
    else if c = '_' then if empty && base = 10 then none else integerDigitsEnd? base empty rest
    else if empty then none else some (c :: rest)

def integerEnd? : Chars → Option Chars
  | '0' :: 'x' :: rest => integerDigitsEnd? 16 true rest
  | '0' :: 'o' :: rest => integerDigitsEnd? 8 true rest
  | '0' :: 'b' :: rest => integerDigitsEnd? 2 true rest
  | cs => integerDigitsEnd? 10 true cs

/-! ## Literals -/

/-- A literal may end in a word. -/
def dropSuffix (cs : Chars) : Chars := ((plainWord? cs).map (·.2)).getD cs

/-- The suffix of a number goes on to the end of the word. -/
def suffixEnd? (cs : Chars) : Option Chars :=
  let rest := dropSuffix cs
  if rest.head?.any isWordChar then none else some rest

/-- What cannot end as a number with a point or an exponent may do so as an integer: `e5·` is a suffix. -/
def numberEnd? (cs : Chars) : Option Chars :=
  ((floatEnd? cs).bind suffixEnd?).or ((integerEnd? cs).bind suffixEnd?)

def quotedEnd? : Chars → Option Chars
  | '"' :: rest => stringEnd? .text rest rest
  | 'r' :: rest => rawString? .text rest
  | 'b' :: '"' :: rest => stringEnd? .bytes rest rest
  | 'b' :: 'r' :: rest => rawString? .bytes rest
  | 'c' :: '"' :: rest => stringEnd? .terminated rest rest
  | 'c' :: 'r' :: rest => rawString? .terminated rest
  | 'b' :: '\'' :: rest => charEnd? .bytes rest
  | '\'' :: rest => charEnd? .text rest
  | _ => none

def literal? (cs : Chars) : Option (Token × Chars) :=
  match (quotedEnd? cs).map dropSuffix |>.or (numberEnd? cs) with
  | some rest => some (.literal (String.ofList (before cs rest)), rest)
  | none => none

/-! ## Marks -/

def isMark (c : Char) : Bool := "~!@#$%^&*-=+|;:,<.>/?'".toList.contains c

/-- A mark is next; the slash of a comment is none. -/
def markAhead (cs : Chars) : Bool :=
  cs.head?.any isMark && !starts "//" cs && !starts "/*" cs

/-- A mark. An apostrophe must start a lifetime. -/
def mark? (cs : Chars) : Option (Token × Chars) :=
  match cs with
  | [] => none
  | c :: rest =>
    if !markAhead cs then none
    else if c = '\'' then do
      let (_, after) ← word? rest
      if after.head? = some '\'' || after.head? = some '#' && !starts "r#" rest then none
      else some (.mark '\'' true, rest)
    else some (.mark c (markAhead rest), rest)

/-! ## Texts -/

def bracketOf? (c : Char) : Option (Bracket × Bool) :=
  match c with
  | '(' => some (.round, true)
  | ')' => some (.round, false)
  | '[' => some (.square, true)
  | ']' => some (.square, false)
  | '{' => some (.curly, true)
  | '}' => some (.curly, false)
  | _ => none

/-- Stands for a literal that could not be read. It is one token, though it looks like brackets. -/
def placeholder : String := "(/*ERROR*/)"

/-- The bracket that is next, and whether it opens. -/
def bracketAhead? (cs : Chars) : Option (Bracket × Bool) :=
  if starts placeholder cs then none else cs.head?.bind bracketOf?

/-- A token that is not a bracket. -/
def leaf? (cs : Chars) : Option (Token × Chars) :=
  if starts placeholder cs then some (.literal placeholder, cs.drop placeholder.length)
  else (literal? cs).or ((mark? cs).or (if startsBrokenLiteral cs then none else word? cs))

/-- The tokens of a text within brackets that are open, the innermost first. -/
def tokensFrom : Chars → List Bracket → Chars → Option (List Token)
  | budget, open_, cs =>
    let cs := skipTrivia cs cs
    match docComment? cs, budget with
    | some (inner, text, rest), _ :: budget =>
      if plainReturns text then (tokensFrom budget open_ rest).map (docTokens inner text ++ ·) else none
    | some _, [] => none
    | none, budget =>
      match cs with
      | [] => if open_.isEmpty then some [] else none
      | _ :: rest =>
        match budget with
        | [] => none
        | _ :: budget =>
          match bracketAhead? cs, open_ with
          | some (b, true), _ => (tokensFrom budget (b :: open_) rest).map (.opening b :: ·)
          | some (b, false), k :: outer =>
            if b = k then (tokensFrom budget outer rest).map (.closing b :: ·) else none
          | some (_, false), [] => none
          | none, _ => do
            let (t, rest) ← leaf? cs
            (tokensFrom budget open_ rest).map (t :: ·)

/-- A byte order mark at the very start does not count. -/
def withoutOrderMark : Chars → Chars
  | '\ufeff' :: rest => rest
  | cs => cs

end Lexer

/-- The tokens of a text, if it can be cut into tokens. -/
def tokens? (text : String) : Option (List Token) :=
  let cs := Lexer.withoutOrderMark text.toList
  Lexer.tokensFrom cs [] cs

end Declgen.Source
