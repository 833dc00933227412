import Declgen.Model.Representation

/-!
# Type expressions

The types of generated fields, as references to what is generated, to what is imported and to the standard
containers.
-/

namespace Declgen

inductive Primitive where
  | string
  | bool
  | number (repr : Representation)
deriving DecidableEq

def Primitive.sourceName : Primitive → String
  | .string => "String"
  | .bool => "bool"
  | .number r => r.sourceName

inductive TypeExpr where
  | primitive (p : Primitive)
  /-- A generated struct. -/
  | struct (name : String)
  /-- A generated type alias. -/
  | typeAlias (name : String)
  /-- A type from elsewhere, behind an import alias or in scope. -/
  | external (importAlias : Option String) (name : String)
  | vec (inner : TypeExpr)
  | map (key value : TypeExpr)
  | option (inner : TypeExpr)
  | boxed (inner : TypeExpr)
  | dateTime
  | any
deriving DecidableEq

namespace TypeExpr

/-- A type that may be absent. A generated struct is boxed, so that it may refer to itself. -/
def optional : TypeExpr → TypeExpr
  | .struct name => .option (.boxed (.struct name))
  | t => .option t

/-- The type as it reads in a message. -/
def text : TypeExpr → String
  | .primitive p => p.sourceName
  | .struct name | .typeAlias name => name
  | .external none name => name
  | .external (some a) name => a ++ "::" ++ name
  | .vec inner => "Vec<" ++ inner.text ++ ">"
  | .map key value => "std::collections::HashMap<" ++ key.text ++ ", " ++ value.text ++ ">"
  | .option inner => "Option<" ++ inner.text ++ ">"
  | .boxed inner => "Box<" ++ inner.text ++ ">"
  | .dateTime => "DateTime<Utc>"
  | .any => "serde_json::Value"

end TypeExpr

end Declgen
