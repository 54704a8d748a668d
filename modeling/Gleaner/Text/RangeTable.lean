import Gleaner.Text.Cut
import Gleaner.Text.Number

/-
  Sets of characters given as ranges of code points.

  Key definitions include:
    * `RangeTable`
    * `RangeTable.ofText`
    * `RangeTable.contains`
-/

namespace Gleaner

/- Ranges of code points, both ends included. -/
structure RangeTable where
  ranges : List (Nat × Nat)
deriving Repr

namespace RangeTable

/- A code point written in base sixteen. -/
def readCode (digits : List Char) : Nat :=
  Text.ofDigits 16 Text.hexValue digits

/- Read a range, written `A-B` or `A`. -/
def readRange? (cs : List Char) : Option (Nat × Nat) :=
  match Text.cutAt (· == '-') cs with
  | [one] => some (readCode one, readCode one)
  | [low, high] => some (readCode low, readCode high)
  | _ => none

/- The table of the ranges that stand in a text. -/
def ofText (s : String) : RangeTable :=
  ⟨(Text.words Text.isGap s.toList).filterMap readRange?⟩

/- The character lies in one of the ranges. -/
def contains (t : RangeTable) (c : Char) : Bool :=
  t.ranges.any fun (low, high) => low ≤ c.toNat && c.toNat ≤ high

end RangeTable

end Gleaner
