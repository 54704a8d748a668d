import Gleaner.Decimal.Binary64
import Gleaner.Text.Number

/-
  The shortest decimal that reads back as a given number, and
  its written form.

  Key definitions include:
    * `Binary64.Interval`
    * `Binary64.decimalOf`
    * `Binary64.shortest`
    * `Binary64.render`
-/

namespace Gleaner

namespace Binary64

------------------------------------------------------------
-- The Numbers That Read Back
------------------------------------------------------------

/-
  The fractions between `low` and `high` over a common
  denominator, and the fraction `value` between them.
-/
structure Interval where
  low : Nat
  value : Nat
  high : Nat
  den : Nat
  closed : Bool

/-
  The decimals that round to a value.  Both ends lie half way
  to a neighbour, and they belong to an even mantissa.
-/
def interval (x : Binary64) : Interval :=
  let down :=
    if x.mantissa == 1 <<< 52 && minExponent < x.exponent then 1 else 2
  let (unit, den) := scale 1 (x.exponent - 2)
  let m := 4 * x.mantissa
  { low := (m - down) * unit, value := m * unit,
    high := (m + 2) * unit, den := den,
    closed := x.mantissa % 2 == 0 }

/- The fraction `num / den` lies in the interval. -/
def Interval.contains (i : Interval) (num den : Nat) : Bool :=
  let mid := num * i.den
  let low := i.low * den
  let high := i.high * den
  if i.closed then low ≤ mid && mid ≤ high
  else low < mid && mid < high

------------------------------------------------------------
-- The Shortest of Them
------------------------------------------------------------

/- `n * 10 ^ k` as a fraction of whole numbers. -/
def scaleTen (n : Nat) (k : Int) : Nat × Nat :=
  if 0 ≤ k then (n * Nat.pow 10 k.toNat, 1)
  else (n, Nat.pow 10 (-k).toNat)

/- The place of the first digit: `10 ^ (place - 1)` is the last
  power of ten that is not above `num / den`. -/
def firstPlace (num den : Nat) : Int :=
  if den ≤ num then ((Text.showNat (num / den)).length : Int)
  else 1 - ((Text.showNat ((den - 1) / num)).length : Int)

/-
  The decimal `digits * 10 ^ exponent` with a number of digits
  that lies in the interval, the nearer one of two.
-/
def decimalOf (i : Interval) (place : Int) (count : Nat) :
    Option (Nat × Int) :=
  let exponent := place - count
  let (up, down) := scaleTen 1 (-exponent)
  let num := i.value * up
  let den := i.den * down
  let low := num / den
  let rest := num % den
  let inside (d : Nat) : Bool :=
    let (n, m) := scaleTen d exponent
    i.contains n m
  match inside low, inside (low + 1) with
  | true, true =>
      if 2 * rest < den || (2 * rest == den && low % 2 == 0) then
        some (low, exponent)
      else some (low + 1, exponent)
  | true, false => some (low, exponent)
  | false, true => some (low + 1, exponent)
  | false, false => none

/- Try more and more digits, up to 17, which always suffice. -/
def search (i : Interval) (place : Int) : Nat → Nat × Int
  | 0 => (i.value / i.den, 0)
  | left + 1 =>
      match decimalOf i place (17 - left) with
      | some found => found
      | none => search i place left

/- Move the zeros at the end of the digits into the exponent. -/
def dropZeros : Nat → Nat × Int → Nat × Int
  | 0, d => d
  | left + 1, (digits, exponent) =>
      if digits % 10 == 0 && digits != 0 then
        dropZeros left (digits / 10, exponent + 1)
      else (digits, exponent)

/- The fewest digits that read back, and their exponent. -/
def shortest (x : Binary64) : Nat × Int :=
  let i := x.interval
  dropZeros 17 (search i (firstPlace i.value i.den) 17)

------------------------------------------------------------
-- Writing
------------------------------------------------------------

/-
  Digits and a point.  From `10 ^ -5` up to `10 ^ 16` the point
  stands in its place, beyond that an exponent moves it.
-/
def layout (digits : List Char) (exponent : Int) : List Char :=
  let point := (digits.length : Int) + exponent
  if 0 ≤ exponent && point ≤ 16 then
    digits ++ List.replicate exponent.toNat '0' ++ ['.', '0']
  else if 0 < point && point ≤ 16 then
    digits.take point.toNat ++ '.' :: digits.drop point.toNat
  else if -5 < point && point ≤ 0 then
    ['0', '.'] ++ List.replicate (-point).toNat '0' ++ digits
  else
    let power := point - 1
    let shown :=
      if power < 0 then '-' :: Text.showNat (-power).toNat
      else '+' :: Text.showNat power.toNat
    match digits with
    | [] => []
    | [d] => d :: 'e' :: shown
    | d :: rest => d :: '.' :: rest ++ 'e' :: shown

/- The written form of a value. -/
def render (x : Binary64) : List Char :=
  let body :=
    if x.isZero then ['0', '.', '0']
    else
      let (digits, exponent) := x.shortest
      layout (Text.showNat digits) exponent
  if x.negative then '-' :: body else body

end Binary64

end Gleaner
