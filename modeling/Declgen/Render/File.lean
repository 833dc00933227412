import Declgen.Render.Attribute
import Declgen.Render.Literal
import Declgen.Source.Layout.Body
import Declgen.Source.Parse.Body

/-!
# Files

A file holds the date import, the imports, the constant blocks and the structs, in this order. Its tokens are
written first, then read as items, and the items are laid out: text from outside that does not fit where it
stands is found out by the reading.
-/

namespace Declgen.Render

open Source (Token)

/-! ## Imports -/

/-- The import that dates need. -/
def dateImport : List Token :=
  .plain "use" :: .plain "chrono" :: Token.colons ++
    Token.inBrackets .curly (Token.commas [[.plain "DateTime"], [.plain "Utc"]]) ++ [.sign ';']

def importTokens (i : ImportRecord) : Except RenderFault (List Token) := do
  let path ← outside i.path
  let a ← identifier i.importAlias .importAlias
  .ok (.plain "use" :: path ++ [.plain "as", a, .sign ';'])

/-! ## Constant blocks -/

/-- The type of the constants of a block. Text is borrowed, as an owned one cannot be a constant. -/
def memberType (base : Primitive) (name : Token) : List Token :=
  match base with
  | .string => [.sign '&', .plain "str"]
  | _ => [name]

def memberTokens (base : Primitive) (type : List Token) (e : ConstantEntry) :
    Except RenderFault (List Token) := do
  let name ← identifier e.name .constant
  match value? base e.value with
  | none => .error (.invalidLiteral e.name e.value base)
  | some value =>
    .ok (attribute_ "allow" [[.plain "non_upper_case_globals"]] ++
      .plain "pub" :: .plain "const" :: name :: .sign ':' :: type ++ .sign '=' :: value ++ [.sign ';'])

def constantTokens (c : ConstantArtifact) : Except RenderFault (List Token) := do
  let name ← identifier c.name .constantBlock
  let members ← c.entries.mapM (memberTokens c.base (memberType c.base name))
  .ok ([.plain "pub", .plain "type", name, .sign '=', .plain c.base.sourceName, .sign ';'] ++
    members.flatten)

/-! ## Structs -/

/-- A field that goes by `name`. -/
def fieldTokens (config : Config) (object : String) (f : FieldArtifact × String) :
    Except RenderFault (List Token) := do
  let name ← identifier f.2 (.field f.1.name object)
  let type ← typeTokens f.1.type
  .ok ((if config.serializes then serde f.1 f.2 else []) ++ .plain "pub" :: name :: .sign ':' :: type)

def objectTokens (config : Config) (derives : List Token) (o : ObjectArtifact) :
    Except RenderFault (List Token) := do
  let name ← identifier o.name .struct
  let fields ← (o.fields.zip (fieldNames (o.fields.map (·.name)))).mapM (fieldTokens config o.name)
  .ok (derives ++ [.plain "pub", .plain "struct", name] ++
    Token.inBrackets .curly (Token.commas fields))

/-! ## Files -/

/-- The tokens of a file. The first fault in the order of the file counts; derives come before structs. -/
def fileTokens (config : Config) (a : Artifacts) : Except RenderFault (List Token) := do
  let imports ← a.imports.mapM importTokens
  let constants ← a.constants.mapM constantTokens
  let derives ← derives config
  let objects ← a.objects.mapM (objectTokens config derives)
  .ok ((if a.usesDateTime then dateImport else []) ++
    imports.flatten ++ constants.flatten ++ objects.flatten)

def version : String := "0.1.0"

/-- The comment that a file starts with. -/
def header : String := "// Code generated by typegen v" ++ version ++ ". DO NOT EDIT.\n\n"

/-- The text of the file of artifacts. -/
def file (config : Config) (a : Artifacts) : Except GenerationFault String :=
  match fileTokens config a with
  | .error fault => .error (.unrendered fault)
  | .ok ts =>
    match Source.items? ts with
    | none => .error .malformed
    | some items => .ok ((if config.header then header else "") ++ Source.layout items)

end Declgen.Render
