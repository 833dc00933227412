import Declgen.Number.Basic
import Declgen.Ordered
import Declgen.Text.Quoted
import Declgen.TypeExpr

/-!
# Artifacts

What a pass over a model produces: structs, constant blocks and imports, collected in the order in which they
are met, and the sorted view of them from which a file is written.
-/

namespace Declgen

/-- A field of a struct, with its name and its tag as the model gives them. -/
structure FieldArtifact where
  name : String
  type : TypeExpr
  tag : String
deriving DecidableEq

/-- A struct. -/
structure ObjectArtifact where
  name : String
  fields : List FieldArtifact
deriving DecidableEq

inductive ConstantValue where
  | str (value : String)
  | num (value : Number)
deriving DecidableEq

def ConstantValue.text : ConstantValue → String
  | .str s => Text.quote s
  | .num n => n.text

structure ConstantEntry where
  name : String
  value : ConstantValue
deriving DecidableEq

/-- A type alias with one constant for each member, in declared order. -/
structure ConstantArtifact where
  name : String
  base : Primitive
  entries : List ConstantEntry
deriving DecidableEq

structure ImportRecord where
  importAlias : String
  path : String
deriving DecidableEq

/-- The artifacts of a pass. -/
structure Artifacts where
  objects : List ObjectArtifact
  constants : List ConstantArtifact
  imports : List ImportRecord
  usesDateTime : Bool
deriving DecidableEq

namespace Artifacts

def empty : Artifacts := ⟨[], [], [], false⟩

/-! ## Collecting -/

def addObject (a : Artifacts) (o : ObjectArtifact) : Artifacts := { a with objects := a.objects ++ [o] }

def addConstant (a : Artifacts) (c : ConstantArtifact) : Artifacts :=
  { a with constants := a.constants ++ [c] }

/-- Records an import. An alias keeps the path it was first recorded with. -/
def addImport (a : Artifacts) (importAlias path : String) : Artifacts :=
  if a.imports.any (·.importAlias == importAlias) then a
  else { a with imports := a.imports ++ [⟨importAlias, path⟩] }

def requireDateTime (a : Artifacts) : Artifacts := { a with usesDateTime := true }

/-! ## The sorted view -/

/-- Structs and constant blocks by name, imports by path. -/
def sorted (a : Artifacts) : Artifacts where
  objects := sortBy (·.name) a.objects
  constants := sortBy (·.name) a.constants
  imports := sortBy (·.path) a.imports
  usesDateTime := a.usesDateTime

/-- The first struct of a name. -/
def object? (a : Artifacts) (name : String) : Option ObjectArtifact := a.objects.find? (·.name == name)

/-- The first constant block of a name. -/
def constant? (a : Artifacts) (name : String) : Option ConstantArtifact :=
  a.constants.find? (·.name == name)

end Artifacts

end Declgen
