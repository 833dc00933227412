import Declgen.Source.Grammar
import Declgen.Source.Layout.Basic

/-!
# Laying out the parts of expressions
-/

namespace Declgen.Source.Layout

/-! ## Chains -/

/-- An expression on its own, and as the start of a chain of calls and fields. Each depends on whether a line
starts with it. -/
structure Chained where
  alone : Bool → List Piece
  inChain : Bool → List Piece

/-- An expression that starts no chain. -/
def unchained (ps : List Piece) : Chained := ⟨fun _ => ps, fun _ => even (-indentation) ps⟩

/-- An expression whose parts line up. -/
def lined (ps : Bool → List Piece) : Chained := ⟨fun starts => block (ps starts), ps⟩

/-- What follows an expression directly. -/
def Chained.followedBy (c : Chained) (ps : List Piece) : Chained :=
  ⟨fun starts => c.alone starts ++ ps, fun starts => c.inChain starts ++ ps⟩

/-- The gap before a dot. Where a line starts with a short name the dot stays with it. -/
def dotGap (starts : Bool) (e : Expr) : List Piece := if starts && e.isShortName then [] else [soft]

/-! ## Lists -/

/-- The arguments of a call. One alone that has brackets of its own needs no group. -/
def arguments (es : List Expr) (rs : List (List Piece)) : List Piece :=
  match es, rs with
  | [e], [ps] => if e.isBracketed then .text "(" :: ps ++ [.text ")"] else listed "(" ")" rs
  | _, _ => listed "(" ")" rs

/-- A whole number, a character, a byte or a truth value. -/
def isShortLiteral : Expr → Bool
  | .literal text =>
    match text.toList with
    | 'b' :: '\'' :: _ | '\'' :: _ => true
    | '0' :: 'x' :: _ => true
    | c :: rest => text = "true" || text = "false" || c.isDigit && !rest.any fun c => c = '.' || c = 'e' || c = 'E'
    | [] => false
  | _ => false

/-- The items of a list. Short ones share lines. -/
def listItems (es : List Expr) (rs : List (List Piece)) : List Piece :=
  if !rs.isEmpty && es.all isShortLiteral then
    block (.text "[" :: soft :: fill 0 (separated rs) ++ [lastComma, .text "]"])
  else listed "[" "]" rs

/-! ## Keywords and braces -/

/-- Words with a space behind each. -/
def words (ws : List String) : List Piece := ws.map fun w => .text (w ++ " ")

def label : Option String → List Piece
  | none => []
  | some l => [.text ("'" ++ l ++ ": ")]

/-- A condition up to the braces behind it. -/
def condition (e : Expr) (ps : List Piece) : List Piece :=
  even 0 (ps ++ [if e.mayWrap then space else .text " "])

/-- Braces with lines in them. -/
def tall (ps : List Piece) : List Piece := block (lines ps) ++ [.text "\x7d"]

/-- The end of a choice: braces whose content has lines of its own, if there is any. -/
def tallEnd (isEmpty : Bool) (ps : List Piece) : List Piece :=
  if isEmpty then [.text "\x7b\x7d"] else .text "\x7b" :: outdented (hard :: ps) ++ [.text "\x7d"]

/-- Rows in braces after a path; `limited` groups a value, `block` a pattern. -/
def fieldRows (path ps : List Piece) : List Piece :=
  path ++ .text " \x7b" :: (if ps.isEmpty then [] else space :: outdented ps)

/-! ## Patterns -/

/-- Cases with bars between them. -/
def barred : List (List Piece) → List Piece
  | [] => []
  | ps :: rest => ps ++ rest.flatMap fun ps => space :: .text "| " :: ps

/-- Rows with commas between them that break with what is around them. -/
def separatedOut (rs : List (List Piece)) : List Piece :=
  if rs.isEmpty then [] else separated rs ++ [.gap { before := "," }]

/-! ## Closures -/

/-- A closure after its keywords. What is not in brackets gets braces where it takes several lines. -/
def closure (inputs : List (List Piece)) (output : Option (List Piece)) (body : Expr) (ps : List Piece) :
    List Piece :=
  let opened := .text "|" :: if inputs.isEmpty then [] else soft :: separated inputs
  match output with
  | none =>
    let bare :=
      match body with
      | .select _ _ | .call _ _ _ => true
      | e => e.isBracketed
    let braces := body.fitsStatement
    block (opened ++ [.text "|", last space]) ++ stop ::
      (if bare then ps
      else
        block (.gap { before := if braces then "\x7b" else "(" } :: ps ++
          [.gap {
            shift := -indentation
            before := if braces && body.isAction then ";" else ""
            after := if braces then "\x7d" else ")" }]))
  | some t =>
    block (opened ++ (if inputs.isEmpty then [] else [lastComma]) ++ [.text "|"]) ++
      .text " -> " :: t ++ .text " " :: stop :: ps

end Declgen.Source.Layout
