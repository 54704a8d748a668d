/-
  Numbers of the binary format with 64 bits, kept as exact
  products of a whole number and a power of two.

  Key definitions include:
    * `Binary64`
    * `Binary64.round?`
    * `Binary64.ofDecimal?`
-/

namespace Gleaner

------------------------------------------------------------
-- Values
------------------------------------------------------------

/-
  The number `mantissa * 2 ^ exponent`, negated if asked for.
  The mantissa has at most 53 bits, and exactly 53 unless the
  exponent is the smallest one, -1074.
-/
structure Binary64 where
  negative : Bool
  mantissa : Nat
  exponent : Int
deriving DecidableEq, Repr

namespace Binary64

/- The smallest exponent of the format. -/
def minExponent : Int := -1074

/- The largest exponent of the format. -/
def maxExponent : Int := 971

/- The two zeros. -/
def zero (negative : Bool) : Binary64 :=
  ⟨negative, 0, minExponent⟩

/- The value is one of the zeros. -/
def isZero (x : Binary64) : Bool :=
  x.mantissa == 0

/- The number of binary digits of a whole number. -/
def bitLength (n : Nat) : Nat :=
  if n == 0 then 0 else n.log2 + 1

/- `n * 2 ^ k` as a fraction of whole numbers. -/
def scale (n : Nat) (k : Int) : Nat × Nat :=
  if 0 ≤ k then (n <<< k.toNat, 1) else (n, 1 <<< (-k).toNat)

------------------------------------------------------------
-- Rounding
------------------------------------------------------------

/- A quotient rounded to the nearest whole number, ties to even. -/
def divideToEven (num den : Nat) : Nat :=
  let q := num / den
  let r := num % den
  if 2 * r < den then q
  else if den < 2 * r then q + 1
  else if q % 2 == 0 then q else q + 1

/-
  The value nearest to `num / den`, ties to even.  `none` means
  that it lies beyond the largest value of the format.
-/
def round? (negative : Bool) (num den : Nat) : Option Binary64 :=
  if num == 0 then some (zero negative)
  else
    let guess : Int := (bitLength num : Int) - bitLength den - 53
    let fits (e : Int) : Bool :=
      let (n, d) := scale num (-e)
      n / (d * den) < 1 <<< 53
    let e := if fits guess then guess else guess + 1
    let e := if e < minExponent then minExponent else e
    let (n, d) := scale num (-e)
    let m := divideToEven n (d * den)
    let (m, e) := if m == 1 <<< 53 then (1 <<< 52, e + 1) else (m, e)
    if maxExponent < e then none else some ⟨negative, m, e⟩

/- The absolute value as a fraction of whole numbers. -/
def magnitude (x : Binary64) : Nat × Nat :=
  scale x.mantissa x.exponent

/- The product of two values, rounded. -/
def mul? (x y : Binary64) : Option Binary64 :=
  let (n, d) := x.magnitude
  let (n', d') := y.magnitude
  round? (x.negative != y.negative) (n * n') (d * d')

/- The quotient of two values, rounded. -/
def div? (x y : Binary64) : Option Binary64 :=
  let (n, d) := x.magnitude
  let (n', d') := y.magnitude
  round? (x.negative != y.negative) (n * d') (d * n')

------------------------------------------------------------
-- Decimal Products
------------------------------------------------------------

/- The power of ten nearest to `10 ^ k`. -/
def powerOfTen? (k : Nat) : Option Binary64 :=
  round? false (Nat.pow 10 k) 1

/- The largest power of ten of the format. -/
def maxPower : Nat := 308

/- Divide by `10 ^ 308` some times, each step rounded. -/
def divideByMaxPower (power : Binary64) :
    Nat → Binary64 → Option Binary64
  | 0, x => some x
  | steps + 1, x =>
      if x.isZero then some x
      else (x.div? power).bind (divideByMaxPower power steps)

/-
  Divide by `10 ^ k`, one rounded step for every 308 places and
  one for the rest.
-/
def divideByTens (x : Binary64) (k : Nat) : Option Binary64 := do
  let steps := (k - 1) / maxPower
  let y ← divideByMaxPower (← powerOfTen? maxPower) steps x
  y.div? (← powerOfTen? (k - steps * maxPower))

/-
  The value of `digits * 10 ^ exponent`: the digits are rounded
  first, and then the product.  `none` means that the exponent
  or the product is too large.
-/
def ofDecimal? (negative : Bool) (digits : Nat) (exponent : Int) :
    Option Binary64 := do
  let x ← round? negative digits 1
  if exponent < 0 then divideByTens x (-exponent).toNat
  else if exponent ≤ maxPower then
    let power ← powerOfTen? exponent.toNat
    x.mul? power
  else if x.isZero then some x
  else none

end Binary64

end Gleaner
