import Declgen.Source.Parse.Attribute

/-!
# What items are generic in, from tokens
-/

namespace Declgen.Source.Parser

/-! ## Parameters -/

/-- Lifetimes after a colon, up to an end. -/
def lifetimeBounds (last : Parser Unit) : Parser (List String) := do
  if ← accepts (mark ':') then
    let (ls, _) ← loop (separated lifetime (mark '+') (sees last))
    return ls
  else return []

/-- Bounds after a colon, up to an end. -/
def typeBounds (n : Nested) (last : Parser Unit) : Parser (List Bound) := do
  if ← accepts (mark ':') then
    let (bs, _) ← loop (separated n.bound (mark '+') (sees last))
    return bs
  else return []

/-- An expression that a parameter may stand for if nothing else is given: a name, too. -/
def constantOrName (n : Nested) : Parser Expr :=
  constant n <|> (do return .path false [.plain (← name)])

def parameter (n : Nested) : Parser Parameter := do
  let as ← loop (attributes n)
  match ← optionally lifetime with
  | some l => return .lifetime as l (← lifetimeBounds (mark ',' <|> mark '>'))
  | none =>
    if ← accepts (keyword "const") then
      let w ← name
      mark ':'
      let t ← n.type true
      if ← accepts (mark '=') then return .value as w t (some (← constantOrName n))
      else return .value as w t none
    else if ← accepts (keyword "_") then return .type as "_" [] none
    else
      let w ← name
      let bs ← typeBounds n (mark ',' <|> mark '>' <|> mark '=')
      if ← accepts (mark '=') then return .type as w bs (some (← n.type true))
      else return .type as w bs none

/-- Parameters in angle brackets, or none. -/
def parameters? (n : Nested) : Parser (List Parameter) := do
  if ← accepts (mark '<') then
    let (ps, _) ← listed (parameter n) (mark '>')
    return ps
  else return []

/-! ## Conditions -/

/-- Conditions end here. -/
def whereEnds : Parser Unit :=
  finish <|> opening .curly <|> mark ',' <|> mark ';' <|> (lacks colons *> mark ':') <|> mark '='

def predicate (n : Nested) : Parser Predicate := do
  if ← ahead (lifetime *> mark ':') then
    let l ← lifetime
    return .lifetime l (← lifetimeBounds whereEnds)
  else
    let b ← optionally binder
    let t ← n.type true
    sees (mark ':')
    return .type b t (← typeBounds n whereEnds)

/-- Conditions one after the other, each but perhaps the last with a comma. -/
def predicates (n : Nested) : List Token → Parser (List Predicate)
  | [] => pure []
  | _ :: budget => do
    if ← ahead whereEnds then return []
    let p ← predicate n
    if ← accepts (mark ',') then return p :: (← predicates n budget)
    else return [p]

/-- Conditions after their keyword, or none. -/
def whereClause (n : Nested) : Parser (List Predicate) := do
  if ← accepts (keyword "where") then loop (predicates n) else return []

end Declgen.Source.Parser
