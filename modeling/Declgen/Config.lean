/-!
# Options of a generated file
-/

namespace Declgen

structure Config where
  /-- The file starts with the comment that says it is generated. -/
  header : Bool
  /-- What every struct derives, in order. -/
  derives : List String
deriving DecidableEq

namespace Config

def default : Config where
  header := true
  derives := ["Debug", "Clone", "Default", "PartialEq", "serde::Serialize", "serde::Deserialize"]

def withHeader (c : Config) (header : Bool) : Config := { c with header }

def withDerives (c : Config) (derives : List String) : Config := { c with derives }

/-- Adds a derive that is not listed yet. -/
def withExtraDerive (c : Config) (derive : String) : Config :=
  if c.derives.contains derive then c else { c with derives := c.derives ++ [derive] }

/-- Some derive writes or reads the structs as data. -/
def serializes (c : Config) : Bool :=
  c.derives.any fun d =>
    "Serialize".toList.isSuffixOf d.toList || "Deserialize".toList.isSuffixOf d.toList

end Config

end Declgen
