import Declgen.Artifact

/-!
# What can be wrong with artifacts

The causes for which no source text is written, and the sentence for each.
-/

namespace Declgen

/-- What an identifier is for. -/
inductive Role where
  | importAlias
  | constantBlock
  | constant
  | struct
  /-- A mention of something generated. -/
  | reference
  /-- The field that the model calls `raw`. -/
  | field (raw object : String)
deriving DecidableEq

def Role.describe : Role → String
  | .importAlias => "import alias"
  | .constantBlock => "constant block"
  | .constant => "constant"
  | .struct => "struct"
  | .reference => "type reference"
  | .field raw object => "field " ++ Text.quote raw ++ " of " ++ object

inductive RenderFault where
  | invalidIdentifier (name : String) (role : Role)
  | invalidDerive (derive : String)
  /-- Text from outside that cannot be cut into tokens. -/
  | untokenizable (text : String)
  /-- A constant whose base cannot hold its value. -/
  | invalidLiteral (constant : String) (value : ConstantValue) (base : Primitive)
deriving DecidableEq

def RenderFault.message : RenderFault → String
  | .invalidIdentifier name role => "invalid identifier " ++ Text.quote name ++ " for " ++ role.describe
  | .invalidDerive derive => "invalid derive " ++ Text.quote derive ++ ":"
  | .untokenizable text =>
    "cannot tokenize " ++ Text.quote text ++ ": cannot parse string into token stream"
  | .invalidLiteral constant value base =>
    "value " ++ value.text ++ " of constant " ++ constant ++ " is not a valid " ++ base.sourceName ++
      " literal"

/-- Why a file is not generated. -/
inductive GenerationFault where
  /-- An allocator gave up. -/
  | noFreeName
  | unrendered (fault : RenderFault)
  /-- The tokens are not those of a file. -/
  | malformed
deriving DecidableEq

def GenerationFault.message : GenerationFault → String
  | .noFreeName => "no free name is left"
  | .unrendered fault => "failed to render generated code: " ++ fault.message
  | .malformed => "failed to format generated code:"

end Declgen
