import Declgen.Source.Item
import Declgen.Source.Parse.Type

/-!
# Attributes and visibility from tokens
-/

namespace Declgen.Source.Parser

/-- What stands in the square brackets of an attribute. -/
def attributeInside (n : Nested) (inner : Bool) : Parser Attribute := do
  let (absolute, path) ← (do return (false, [← keywordOf ["unsafe"]])) <|> simplePath
  match ← optionally group with
  | some (b, ts) => return .list inner absolute path b ts
  | none =>
    if ← accepts (mark '=') then
      match ← optionally (literal <* sees (closing .square)) with
      | some text => return .value inner absolute path (.literal text)
      | none => return .value inner absolute path (← n.anyExpr)
    else return .plain inner absolute path

/-- Attributes of what follows them. -/
def attributes (n : Nested) : List Token → Parser (List Attribute)
  | [] => pure []
  | _ :: budget => do
    if ← accepts (mark '#') then
      let a ← inBrackets .square (attributeInside n false)
      return a :: (← attributes n budget)
    else return []

/-- Attributes of what they stand in. -/
def innerAttributes (n : Nested) : List Token → Parser (List Attribute)
  | [] => pure []
  | _ :: budget => do
    if ← ahead (mark '#' *> mark '!') then
      mark '#'
      mark '!'
      let a ← inBrackets .square (attributeInside n true)
      return a :: (← innerAttributes n budget)
    else return []

/-- What a restricted visibility names: a keyword alone, or a path. -/
def restriction : Parser Visibility :=
  inBrackets .round
    ((do return .within false [← keywordOf ["crate", "self", "super"]]) <|>
      (do
        keyword "in"
        let (absolute, path) ← simplePath
        return .within absolute path))

def visibility : Parser Visibility := do
  if ← accepts (keyword "pub") then return (← optionally restriction).getD .everywhere
  else return .inherited

end Declgen.Source.Parser
