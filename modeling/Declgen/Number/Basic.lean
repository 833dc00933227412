import Declgen.Number.Shortest

/-!
# Numbers of a document

A number is kept as it was written: an integer that fits 64 bits stays an integer, everything else is a
double.
-/

namespace Declgen

inductive Number where
  | int (value : Int)
  | float (value : Number.Double)
deriving DecidableEq, Repr

namespace Number

/-- Integers that fit 64 bits, signed below zero and unsigned above. -/
def fitsInteger (n : Int) : Bool := -(Nat.pow 2 63 : Int) ≤ n && n < (Nat.pow 2 64 : Int)

def chars : Number → List Char
  | .int n => (toString n).toList
  | .float x => x.chars

/-- The text of a number; it reads back as the same number. -/
def text (n : Number) : String := String.ofList n.chars

/-- The same integer, or the same floating-point value. -/
def same : Number → Number → Bool
  | .int m, .int n => m = n
  | .float x, .float y => x.same y
  | _, _ => false

/-- The nearest double; no integer of 64 bits is beyond the largest. -/
def toDouble? : Number → Option Double
  | .int n => Double.ofRatio? (n < 0) n.natAbs 1
  | .float x => some x

end Number

end Declgen
