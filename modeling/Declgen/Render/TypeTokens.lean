import Declgen.Render.Name

/-!
# Tokens of types
-/

namespace Declgen.Render

open Source (Token)

/-- Names with two colons between them. -/
def pathTokens : List String → List Token
  | [] => []
  | [name] => [.plain name]
  | name :: rest => .plain name :: Token.colons ++ pathTokens rest

/-- A path with arguments. -/
def generic (path : List String) (args : List (List Token)) : List Token :=
  pathTokens path ++ .sign '<' :: Token.commas args ++ [.sign '>']

def mapPath : List String := ["std", "collections", "HashMap"]

/-- A type from elsewhere. The alias of its import comes before its name. -/
def externalTokens (importAlias : Option String) (name : String) : Except RenderFault (List Token) := do
  let ts ← outside name
  match importAlias with
  | none => .ok ts
  | some a => do
    let a ← identifier a .importAlias
    .ok (a :: Token.colons ++ ts)

def typeTokens : TypeExpr → Except RenderFault (List Token)
  | .primitive p => .ok [.plain p.sourceName]
  | .struct name | .typeAlias name => do
    let t ← identifier name .reference
    .ok [t]
  | .external importAlias name => externalTokens importAlias name
  | .vec inner => do
    let ts ← typeTokens inner
    .ok (generic ["Vec"] [ts])
  | .map key value => do
    let ks ← typeTokens key
    let vs ← typeTokens value
    .ok (generic mapPath [ks, vs])
  | .option inner => do
    let ts ← typeTokens inner
    .ok (generic ["Option"] [ts])
  | .boxed inner => do
    let ts ← typeTokens inner
    .ok (generic ["Box"] [ts])
  | .dateTime => .ok (generic ["DateTime"] [[.plain "Utc"]])
  | .any => .ok (pathTokens ["serde_json", "Value"])

end Declgen.Render
