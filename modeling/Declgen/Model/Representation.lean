/-!
# Representations of numbers

How a number of the model is held in generated code.
-/

namespace Declgen

inductive Representation where
  | int | int8 | int16 | int32 | int64
  | uint | uint8 | uint16 | uint32 | uint64 | uintptr
  | float32 | float64
deriving DecidableEq

namespace Representation

/-- Every representation, in the order of the documentation. -/
def all : List Representation :=
  [.int, .int8, .int16, .int32, .int64, .uint, .uint8, .uint16, .uint32, .uint64, .uintptr,
    .float32, .float64]

/-- The name in a model. -/
def name : Representation → String
  | .int => "int"
  | .int8 => "int8"
  | .int16 => "int16"
  | .int32 => "int32"
  | .int64 => "int64"
  | .uint => "uint"
  | .uint8 => "uint8"
  | .uint16 => "uint16"
  | .uint32 => "uint32"
  | .uint64 => "uint64"
  | .uintptr => "uintptr"
  | .float32 => "float32"
  | .float64 => "float64"

def ofName? (s : String) : Option Representation := all.find? (·.name == s)

/-- The primitive type in generated code. Sizes that depend on the platform are 64 bits there, except that
a pointer keeps the size of one. -/
def sourceName : Representation → String
  | .int | .int64 => "i64"
  | .int8 => "i8"
  | .int16 => "i16"
  | .int32 => "i32"
  | .uint | .uint64 => "u64"
  | .uint8 => "u8"
  | .uint16 => "u16"
  | .uint32 => "u32"
  | .uintptr => "usize"
  | .float32 => "f32"
  | .float64 => "f64"

def isFloat : Representation → Bool
  | .float32 | .float64 => true
  | _ => false

/-- The range of an integer of so many bits and a sign bit. -/
def signedBounds (bits : Nat) : Int × Int := (-(Nat.pow 2 bits : Int), (Nat.pow 2 bits : Int) - 1)

/-- The range of an integer of so many bits without a sign. -/
def unsignedBounds (bits : Nat) : Int × Int := (0, (Nat.pow 2 bits : Int) - 1)

/-- The least and the greatest integer it holds; none for a floating-point number. -/
def bounds? : Representation → Option (Int × Int)
  | .int8 => some (signedBounds 7)
  | .int16 => some (signedBounds 15)
  | .int32 => some (signedBounds 31)
  | .int | .int64 => some (signedBounds 63)
  | .uint8 => some (unsignedBounds 8)
  | .uint16 => some (unsignedBounds 16)
  | .uint32 => some (unsignedBounds 32)
  | .uint | .uint64 | .uintptr => some (unsignedBounds 64)
  | .float32 | .float64 => none

theorem ofName?_name (r : Representation) : ofName? r.name = some r := by cases r <;> decide +kernel

end Representation

end Declgen
