import Declgen.Number.Double

/-!
# Shortest decimals

The decimal of fewest digits that reads back as a given double, and of those the nearest. On the grid of
numbers with `k` digits only the two neighbours of the value can be nearest, so those are tried for
`k = 1, 2, …`; seventeen digits always suffice. Of two neighbours that are equally near, the tie rule chooses:
the even one in a document, the greater one in a literal.
-/

namespace Declgen.Number

/-- The number `0.d₁d₂… * 10 ^ point`, where `digits` are `d₁d₂…`. -/
structure Decimal where
  digits : List Char
  point : Int
deriving DecidableEq, Repr

/-! ## The interval that rounds to a double -/

/-- Twice the bounds of what rounds to a double, over a common denominator, doubled value between them. -/
structure Interval where
  lower : Nat
  value : Nat
  upper : Nat
  den : Nat
  /-- The bounds belong to it. -/
  closed : Bool

/-- Below a power of two the doubles are twice as dense, so the lower bound is nearer there. -/
def Double.interval (x : Double) : Interval :=
  let dense := x.mantissa = Nat.pow 2 52 && leastExponent < x.exponent
  let (scale, den) :=
    if 0 ≤ x.exponent then (Nat.pow 2 x.exponent.toNat, 1) else (1, Nat.pow 2 (-x.exponent).toNat)
  let m := 4 * x.mantissa
  ⟨(m - if dense then 1 else 2) * scale, m * scale, (m + 2) * scale, 4 * den, x.mantissa % 2 = 0⟩

/-- The number `n * 10 ^ t` lies in the interval. -/
def Interval.holds (i : Interval) (n : Nat) (t : Int) : Bool :=
  let (p, q) := if 0 ≤ t then (n * Nat.pow 10 t.toNat * i.den, 1) else (n * i.den, Nat.pow 10 (-t).toNat)
  if i.closed then i.lower * q ≤ p && p ≤ i.upper * q else i.lower * q < p && p < i.upper * q

/-! ## Digits -/

/-- How many times a fraction below one is multiplied by ten before a digit shows, at most `fuel`. -/
def leadingZeros : Nat → Nat → Nat → Nat
  | 0, _, _ => 0
  | fuel + 1, num, den => if den ≤ num * 10 then 0 else leadingZeros fuel (num * 10) den + 1

/-- The `p` with `10 ^ (p - 1) ≤ num / den < 10 ^ p`, for a double that is not zero. -/
def pointOf (num den : Nat) : Int :=
  if den ≤ num then (Nat.toDigits 10 (num / den)).length else -(leadingZeros 400 num den : Int)

/-- The neighbour of the value on the grid of multiples of `10 ^ t` that the interval holds, if any. -/
def Interval.neighbour? (tie : Tie) (i : Interval) (t : Int) : Option Nat :=
  let (p, q) :=
    if 0 ≤ t then (i.value, i.den * Nat.pow 10 t.toNat) else (i.value * Nat.pow 10 (-t).toNat, i.den)
  let low := p / q
  let near := roundDiv tie p q
  let far := if near = low then low + 1 else low
  if i.holds near t then some near else if i.holds far t then some far else none

/-- Tries grids of more and more digits. -/
def Interval.search (tie : Tie) (i : Interval) (point : Int) : Nat → Nat → Option (Nat × Int)
  | 0, _ => none
  | fuel + 1, k =>
    let t := point - k
    match i.neighbour? tie t with
    | some n => some (n, t)
    | none => i.search tie point fuel (k + 1)

def dropTrailingZeros (ds : List Char) : List Char := (ds.reverse.dropWhile (· == '0')).reverse

/-- The shortest decimal of the magnitude of a double that is not zero. -/
def Double.shortest (tie : Tie) (x : Double) : Decimal :=
  let (num, den) := x.ratio
  let (n, t) := (x.interval.search tie (pointOf num den) 17 1).getD (0, 0)
  let ds := Nat.toDigits 10 n
  ⟨dropTrailingZeros ds, ds.length + t⟩

/-! ## Notations -/

/-- Digits without exponent: the point stands where it belongs, and one digit at least follows it. -/
def Decimal.positional (d : Decimal) : List Char :=
  let n : Int := d.digits.length
  if d.point ≤ 0 then '0' :: '.' :: List.replicate (-d.point).toNat '0' ++ d.digits
  else if n ≤ d.point then d.digits ++ List.replicate (d.point - n).toNat '0' ++ ['.', '0']
  else d.digits.take d.point.toNat ++ '.' :: d.digits.drop d.point.toNat

/-- One digit before the point and a signed exponent. -/
def Decimal.scientific (d : Decimal) : List Char :=
  let e := d.point - 1
  let tail := match d.digits.drop 1 with
    | [] => []
    | rest => '.' :: rest
  d.digits.take 1 ++ tail ++ 'e' :: (if e < 0 then '-' else '+') :: (Nat.toDigits 10 e.natAbs)

def Double.sign (x : Double) : List Char := if x.negative then ['-'] else []

def zeroText : List Char := ['0', '.', '0']

/-- The magnitude in a literal: no exponent, and a half goes up. -/
def Double.positionalMagnitude (x : Double) : List Char :=
  if x.mantissa = 0 then zeroText else (x.shortest .up).positional

/-- The text in a document: positional from `0.00001` up to below `10 ^ 16`, with an exponent elsewhere; a half
goes to the even neighbour. -/
def Double.chars (x : Double) : List Char :=
  x.sign ++
    if x.mantissa = 0 then zeroText
    else
      let d := x.shortest .toEven
      if -4 ≤ d.point && d.point ≤ 16 then d.positional else d.scientific

end Declgen.Number
