import Declgen.Source.Item

/-!
# What stands in braces

Statements, the arms of a choice, and the fields of a value or a pattern.
-/

namespace Declgen.Source

inductive Statement where
  /-- Written as `let pattern = value else { otherwise }`. -/
  | declare (attributes : List Attribute) (pattern : Pattern) (value : Option Expr) (otherwise : Option Enclosed)
  | item (i : Item)
  | expr (e : Expr) (semicolon : Bool)
  | invocation (attributes : List Attribute) (absolute : Bool) (path : List String) (bracket : Bracket)
      (tokens : Enclosed) (semicolon : Bool)
  /-- A semicolon alone. -/
  | empty

/-- Written as `pattern if guard => body`. -/
structure Arm where
  attributes : List Attribute
  pattern : Pattern
  guard : Option Expr
  body : Expr

/-- A field of a value. Without a value of its own it takes that of the name. -/
structure FieldValue where
  attributes : List Attribute
  member : String
  value : Option Expr

/-- The fields of a value, and another value that the rest is taken from. -/
structure FieldValues where
  fields : List FieldValue
  rest : Option Expr

/-- A field of a pattern. Without a member the pattern is a name, that of the field. -/
structure FieldPattern where
  attributes : List Attribute
  member : Option String
  pattern : Pattern

/-- The fields of a pattern, and whether there may be more. -/
structure FieldPatterns where
  fields : List FieldPattern
  more : Bool

end Declgen.Source
