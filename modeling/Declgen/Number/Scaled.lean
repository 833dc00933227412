import Declgen.Number.Double

/-!
# Scaling by powers of ten

A written number is taken in by a few roundings, not by one: its significand becomes a double, and that is
multiplied or divided by the double nearest to a power of ten. The outcome may differ in the last bit from the
double that is nearest to the number as written.
-/

namespace Declgen.Number

/-- The product, rounded, or none if it is beyond the largest double. -/
def Double.mul? (x y : Double) : Option Double :=
  Double.ofRatio? (x.negative != y.negative) (x.ratio.1 * y.ratio.1) (x.ratio.2 * y.ratio.2)

/-- The quotient by a double that is not zero, rounded, or none if it is beyond the largest double. -/
def Double.div? (x y : Double) : Option Double :=
  Double.ofRatio? (x.negative != y.negative) (x.ratio.1 * y.ratio.2) (x.ratio.2 * y.ratio.1)

/-- The greatest power of ten among the doubles. -/
def greatestPower : Nat := 308

def powerOfTen? (n : Nat) : Option Double := Double.ofRatio? false (Nat.pow 10 n) 1

/-- The quotient `x / 10 ^ n`, by the greatest power first, `steps` times. Zero stays zero. -/
def Double.scaledDown? (x : Double) : Nat → Nat → Option Double
  | 0, n => do x.div? (← powerOfTen? n)
  | steps + 1, n => do
    if x.mantissa = 0 then some x
    else
      let y ← x.div? (← powerOfTen? greatestPower)
      y.scaledDown? steps (n - greatestPower)

/-- The number `± significand * 10 ^ exponent`, or none if that is beyond the largest double. -/
def Double.scaled? (negative : Bool) (significand : Nat) (exponent : Int) : Option Double := do
  let x ← Double.ofRatio? negative significand 1
  if exponent < 0 then
    let n := (-exponent).toNat
    x.scaledDown? ((n - 1) / greatestPower) n
  else if x.mantissa = 0 then some x
  else if greatestPower < exponent then none
  else x.mul? (← powerOfTen? exponent.toNat)

end Declgen.Number
