import Declgen.Render.Fault
import Declgen.Source.Token

/-!
# Values of constants

The tokens of a value in the type of its constant block. Text goes with text, and a number with a number that
can hold it.
-/

namespace Declgen.Render

open Source (Token)

/-- A magnitude, with a minus sign before it. -/
def signed (negative : Bool) (magnitude : String) : List Token :=
  (if negative then [Token.sign '-'] else []) ++ [.literal magnitude]

/-! ## Integers -/

def integerTokens (n : Int) : List Token := signed (n < 0) (toString n.natAbs)

/-- The representation holds the integer. -/
def holds (repr : Representation) (n : Int) : Bool := repr.bounds?.any fun (low, high) => low ≤ n && n ≤ high

/-! ## Floating-point numbers -/

/-- The largest number of single precision. -/
def largestSingle : Nat := (Nat.pow 2 24 - 1) * Nat.pow 2 104

def exceedsSingle (x : Number.Double) : Bool :=
  let (num, den) := x.ratio
  largestSingle * den < num

def floatTokens (x : Number.Double) : List Token :=
  signed x.negative (String.ofList x.positionalMagnitude)

/-! ## Numbers -/

/-- A number in a representation, if it can be written in it. -/
def number? (repr : Representation) (value : Number) : Option (List Token) :=
  if repr.isFloat then do
    let x ← value.toDouble?
    if repr = .float32 && exceedsSingle x then none else some (floatTokens x)
  else
    match value with
    | .int n => if holds repr n then some (integerTokens n) else none
    | .float _ => none

/-- A value in the type of its block, if it can be written in it. -/
def value? (base : Primitive) (value : ConstantValue) : Option (List Token) :=
  match base, value with
  | .string, .str s => some [.literal (Text.literal s)]
  | .number repr, .num n => number? repr n
  | _, _ => none

end Declgen.Render
