import Declgen.Config
import Declgen.FieldTag
import Declgen.Render.TypeTokens
import Declgen.Source.Lexer
import Declgen.Source.Parse.Body

/-!
# Attributes of generated items

What a struct derives, and what a field says to serializers about its name and its empty value.
-/

namespace Declgen.Render

open Source (Token)

/-- Written as `#[name(args)]`. -/
def attribute_ (name : String) (args : List (List Token)) : List Token :=
  .sign '#' :: Token.inBrackets .square (.plain name :: Token.inBrackets .round (Token.commas args))

/-! ## Derives -/

/-- A derive is a path; it is read and written again. -/
def deriveTokens (derive : String) : Except RenderFault (List Token) :=
  match (Source.tokens? derive).bind Source.path? with
  | some (absolute, segments) => .ok (Source.Written.path absolute segments)
  | none => .error (.invalidDerive derive)

/-- The attribute with what a struct derives. Without derives there is none. -/
def derives (config : Config) : Except RenderFault (List Token) := do
  let paths ← config.derives.mapM deriveTokens
  .ok (if paths.isEmpty then [] else attribute_ "derive" paths)

/-! ## Serialization -/

/-- Written as `name = "value"`. -/
def setting (name value : String) : List Token :=
  [.plain name, .sign '=', .literal (Text.literal value)]

/-- What tells whether a value of a type is empty. -/
def emptyTest? : TypeExpr → Option String
  | .option _ => some "Option::is_none"
  | .vec _ => some "Vec::is_empty"
  | .map _ _ => some "std::collections::HashMap::is_empty"
  | _ => none

/-- What is said about a field that goes by `name` in the struct. -/
def serdeArguments (field : FieldArtifact) (name : String) : List (List Token) :=
  let tag := FieldTag.json field.tag
  if tag.skip then [[.plain "skip"]]
  else
    let wire := tag.name.getD field.name
    let rename := if wire = name then [] else [setting "rename" wire]
    let omission :=
      if tag.omitEmpty then
        [.plain "default"] :: (emptyTest? field.type).toList.map (setting "skip_serializing_if")
      else []
    rename ++ omission

def serde (field : FieldArtifact) (name : String) : List Token :=
  match serdeArguments field name with
  | [] => []
  | args => attribute_ "serde" args

end Declgen.Render
