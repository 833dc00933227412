import Declgen.Source.Grammar
import Declgen.Source.Layout.Invocation
import Declgen.Text.Unquoted

/-!
# Laying out attributes

Each attribute ends its line where it stands before an item. One that holds documentation or a comment is
written as such a comment, if the text can stand in it.
-/

namespace Declgen.Source.Layout

/-! ## Comments -/

def dropTrailingSpaces (cs : List Char) : List Char := (cs.reverse.dropWhile (· == ' ')).reverse

/-- Spaces at the ends of all lines but the last vanish; `line` holds the line so far, reversed. -/
def withoutLineSpaces (line : List Char) : List Char → List Char
  | [] => line.reverse
  | c :: rest =>
    if c = '\n' then (line.dropWhile (· == ' ')).reverse ++ '\n' :: withoutLineSpaces [] rest
    else withoutLineSpaces (c :: line) rest

/-- The marks of block comments in a text are balanced, where `depth` are open already. -/
def balanced : Nat → List Char → Bool
  | depth, '/' :: '*' :: rest => balanced (depth + 1) rest
  | 0, '*' :: '/' :: _ => false
  | depth + 1, '*' :: '/' :: rest => balanced depth rest
  | depth, _ :: rest => balanced depth rest
  | depth, [] => depth = 0

/-- The text can stand in a block comment. -/
def fitsBlock (cs : List Char) : Bool := balanced 0 cs && cs.getLast? != some '/'

/-- A comment that takes its line, if the text can stand in it: `line` marks one line, `open_` several. A text
that starts with one of `lineBarred` or `blockBarred` would read as another kind of comment. -/
def commentOf? (line open_ : String) (lineBarred blockBarred : List Char) (text : String) : Option (List Piece) :=
  let cs := text.toList
  let bars (barred : List Char) : Bool := cs.head?.any barred.contains
  if !cs.contains '\n' && !bars lineBarred then
    some [.text (line ++ String.ofList (dropTrailingSpaces cs)), hard]
  else if cs.contains '\n' && fitsBlock cs && !bars blockBarred then
    some [.text open_, .text (String.ofList (withoutLineSpaces [] cs)), .text "*/", hard]
  else none

/-! ## Tokens -/

/-- What stands before the next token of an attribute. -/
inductive Lead where
  | word | mark | lastComma
deriving DecidableEq

/-- The tokens of an attribute: words are kept apart, and what stands in round brackets is a group. -/
def tokens : Lead → List Token → List Piece
  | _, [] => []
  | b, .word name raw :: rest =>
    (if b = .word then [space] else []) ++ .text (Token.spelled name raw) :: tokens .word rest
  | b, .literal s :: rest => (if b = .word then [space] else []) ++ .text s :: tokens .word rest
  | b, .mark c _ :: rest =>
    if c = ',' then
      match rest with
      | .closing k :: _ => (if k = .round then lastComma else .gap { before := "," }) :: tokens .lastComma rest
      | _ => .text "," :: space :: tokens .mark rest
    else if c = '=' then
      (if b = .word then [.text " "] else []) ++ .text "=" :: .text " " :: tokens .mark rest
    else .text c.toString :: tokens .mark rest
  | _, .opening .round :: rest =>
    .text "(" :: .enter indentation true false :: soft :: tokens .mark rest
  | _, .opening k :: rest => .text k.open_.toString :: tokens .mark rest
  | b, .closing .round :: rest =>
    (if b = .lastComma then [] else [last soft]) ++ .leave :: .text ")" :: tokens .mark rest
  | _, .closing k :: rest => .text k.close.toString :: tokens .mark rest

/-! ## Attributes -/

/-- What an attribute says as a comment: it gives a text to a name that stands for documentation or for comments. -/
def comment? (inner absolute : Bool) (path : List String) : Expr → Option (List Piece)
  | .literal s =>
    match Text.unquoted? s, absolute, path with
    | some text, false, ["doc"] =>
      if inner then commentOf? "//!" "/*!" [] [] text else commentOf? "///" "/**" ['/'] ['*', '/'] text
    | some text, false, ["comment"] => commentOf? "//" "/*" [] ['*', '!'] text
    | _, _, _ => none
  | _ => none

/-- An attribute in brackets, with the gap behind it. -/
def bracketed (inner absolute : Bool) (path : List String) (tail : List Piece) : List Piece :=
  .text (if inner then "#![" else "#[") :: .text (pathText absolute path) :: tail ++ [.text "]", space]

end Declgen.Source.Layout
