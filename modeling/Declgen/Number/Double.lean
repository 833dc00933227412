/-!
# Finite doubles

A finite binary floating-point number of 53 bits, kept as its exact value, and the rounding of a fraction
to it.
-/

namespace Declgen.Number

/-- The value `± mantissa * 2 ^ exponent`. Zero has both signs. -/
structure Double where
  negative : Bool
  mantissa : Nat
  exponent : Int
deriving DecidableEq, Repr

/-- The exponent of the smallest positive double. -/
def leastExponent : Int := -1074

/-- The exponent of the largest double. -/
def greatestExponent : Int := 971

/-- The one form a finite double is kept in: a full mantissa, unless the exponent is the least one. -/
def Double.Normal (x : Double) : Prop :=
  x.mantissa < Nat.pow 2 53 ∧ leastExponent ≤ x.exponent ∧ x.exponent ≤ greatestExponent ∧
    (Nat.pow 2 52 ≤ x.mantissa ∨ x.exponent = leastExponent)

instance (x : Double) : Decidable x.Normal := by unfold Double.Normal; infer_instance

/-- Where a half goes. -/
inductive Tie where
  | toEven | up
deriving DecidableEq

/-- The quotient `num / den` to the nearest integer; `tie` says where a half goes. -/
def roundDiv (tie : Tie) (num den : Nat) : Nat :=
  let q := num / den
  let r := num % den
  if den < 2 * r || 2 * r = den && (tie = .up || q % 2 = 1) then q + 1 else q

/-- The fraction `num / den` over `2 ^ e`, as numerator and denominator. -/
def overPowerOfTwo (num den : Nat) (e : Int) : Nat × Nat :=
  if 0 ≤ e then (num, den * Nat.pow 2 e.toNat) else (num * Nat.pow 2 (-e).toNat, den)

/-- The exponent at which `num / den`, not zero, has a mantissa of 53 bits, or the least one. -/
def mantissaExponent (num den : Nat) : Int :=
  let e : Int := (Nat.log2 num : Int) - Nat.log2 den - 52
  let (n, d) := overPowerOfTwo num den e
  max leastExponent (if n / d < Nat.pow 2 52 then e - 1 else e)

/-- The double nearest to `± num / den`, a half to the even mantissa, or none if that is beyond the largest. -/
def Double.ofRatio? (negative : Bool) (num den : Nat) : Option Double :=
  if num = 0 then some ⟨negative, 0, leastExponent⟩
  else
    let e := mantissaExponent num den
    let (n, d) := overPowerOfTwo num den e
    let m := roundDiv .toEven n d
    let (m, e) := if m = Nat.pow 2 53 then (Nat.pow 2 52, e + 1) else (m, e)
    if greatestExponent < e then none else some ⟨negative, m, e⟩

/-- The magnitude as numerator and denominator. -/
def Double.ratio (x : Double) : Nat × Nat :=
  if 0 ≤ x.exponent then (x.mantissa * Nat.pow 2 x.exponent.toNat, 1)
  else (x.mantissa, Nat.pow 2 (-x.exponent).toNat)

/-- The same number; the two zeros are the same. -/
def Double.same (x y : Double) : Bool :=
  x.mantissa = y.mantissa && x.exponent = y.exponent && (x.negative = y.negative || x.mantissa = 0)

end Declgen.Number
