import Declgen.Digest
import Declgen.QualifiedName

/-!
# Names of generated types

Each qualified name gets one display name, its bare identifier if that is free. What has no name of its own is
named after the place where it stands. A name that is taken gets a suffix of four digits of a digest; the seed
of the digest is salted until a free name comes out. There are finitely many suffixes, so an allocator gives
up after a number of tries, and then has no answer.
-/

namespace Declgen

/-- A place below a type: the type itself, an element or a map value, or a map key. -/
inductive Slot where
  | value
  | mapKey
deriving DecidableEq

def Slot.text : Slot → String
  | .value => "value"
  | .mapKey => "key"

/-- What a map key adds to a name. -/
def Slot.nameSuffix : Slot → String
  | .value => ""
  | .mapKey => "Key"

/-- Where a node stands. -/
inductive Context where
  /-- Below the root `key`. -/
  | root (key : String) (slot : Slot)
  /-- Below the field at position `index` of the type `parent`, in the order of field names. -/
  | field (parent : String) (index : Nat) (slot : Slot)
deriving DecidableEq

/-- The same place, seen from a map key. -/
def Context.mapKey : Context → Context
  | .root key _ => .root key .mapKey
  | .field parent index _ => .field parent index .mapKey

structure Allocator where
  /-- Qualified names whose identifiers are bound elsewhere. -/
  prereserved : List String
  /-- The display name of each qualified name met so far, the latest first. -/
  allocated : List (String × String)
  /-- Every display name handed out, the latest first. -/
  reserved : List String
  /-- How many suffixes are tried for one name. -/
  tries : Nat
deriving DecidableEq

namespace Allocator

/-- As many as a counter of 32 bits with a sign counts from one on: more than there are suffixes of four digits. -/
def defaultTries : Nat := Nat.pow 2 31 - 1

def new (prereserved : List String) (tries : Nat) : Allocator := ⟨prereserved, [], [], tries⟩

/-! ## Questions -/

def lookup? (a : Allocator) (qualified : String) : Option String := a.allocated.lookup qualified

def isReserved (a : Allocator) (name : String) : Bool := a.reserved.contains name

/-- The qualified name that an identifier is bound to elsewhere. The last one listed counts. -/
def owner? (a : Allocator) (identifier : String) : Option String :=
  a.prereserved.reverse.find? fun q => QualifiedName.bare q == identifier

/-- Handed out already, or bound elsewhere. -/
def isTaken (a : Allocator) (name : String) : Bool := a.isReserved name || (a.owner? name).isSome

/-! ## Suffixes -/

def suffixLength : Nat := 4

/-- The seed of the `attempt`-th try, counted from one. -/
def salted (seed : String) (attempt : Nat) : String :=
  if attempt = 1 then seed else seed ++ "#" ++ toString attempt

def suffixedName (base seed : String) (attempt : Nat) : String :=
  base ++ "_" ++ Digest.short (salted seed attempt) suffixLength

/-- The first free name from the `attempt`-th try on, within `tries`. -/
def findSuffixed (a : Allocator) (base seed : String) : Nat → Nat → Option String
  | 0, _ => none
  | tries + 1, attempt =>
    let name := suffixedName base seed attempt
    if a.isTaken name then findSuffixed a base seed tries (attempt + 1) else some name

def suffixed (a : Allocator) (base seed : String) : Option String := a.findSuffixed base seed a.tries 1

/-! ## Allocation -/

def reserve (a : Allocator) (name : String) : Allocator := { a with reserved := name :: a.reserved }

/-- The identifier of a qualified name is handed out, or is bound to another name. -/
def isClaimed (a : Allocator) (qualified : String) : Bool :=
  let identifier := QualifiedName.bare qualified
  (a.owner? identifier).any (· != qualified) || a.isReserved identifier

/-- The display name of a qualified name, the same at every call. -/
def named (a : Allocator) (qualified : String) : Option (String × Allocator) :=
  match a.lookup? qualified with
  | some name => some (name, a)
  | none => do
    let identifier := QualifiedName.bare qualified
    let name ← if a.isClaimed qualified then a.suffixed identifier qualified else some identifier
    some (name, { a.reserve name with allocated := (qualified, name) :: a.allocated })

/-- A name of its own for what has no qualified name. -/
def synthetic (a : Allocator) (candidate seed : String) : Option (String × Allocator) := do
  let name ← if a.isTaken candidate then a.suffixed candidate seed else some candidate
  some (name, a.reserve name)

/-- At least three digits. -/
def threeDigits (n : Nat) : String :=
  let ds := toString n
  String.ofList (List.replicate (3 - ds.length) '0') ++ ds

/-- The name of what stands below the field at `index` of `parent`. -/
def inline (a : Allocator) (parent : String) (index : Nat) (slot : Slot) : Option (String × Allocator) :=
  a.synthetic (parent ++ "Inline" ++ threeDigits index ++ slot.nameSuffix)
    (parent ++ "/" ++ toString index ++ "/" ++ slot.text)

/-- The name of a node. Without a qualified name, the first value below a root is named as the root. -/
def allocate (a : Allocator) (qualified : String) (ctx : Context) : Option (String × Allocator) :=
  if !qualified.isEmpty then a.named qualified
  else
    match ctx with
    | .root key slot =>
      if slot = .value && (a.lookup? key).isNone then a.named key
      else a.synthetic (QualifiedName.bare key ++ slot.nameSuffix) (key ++ "/" ++ slot.text)
    | .field parent index slot => a.inline parent index slot

end Allocator

end Declgen
