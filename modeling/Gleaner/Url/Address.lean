import Gleaner.Text.Cut
import Gleaner.Text.Number

/-
  Numeric addresses of hosts: four bytes in the older form, and
  eight pieces of two bytes in the newer one.

  Key definitions include:
    * `Url.Address4.readNumber`
    * `Url.Address4.endsInNumber`
    * `Url.Address4.read?`
    * `Url.Address4.write`
    * `Url.Address6.read?`
    * `Url.Address6.write`
-/

namespace Gleaner

namespace Url

------------------------------------------------------------
-- Four Bytes
------------------------------------------------------------

namespace Address4

/- The digits `0` to `7`. -/
def isOctalDigit (c : Char) : Bool :=
  48 ≤ c.toNat && c.toNat ≤ 55

/-
  A number in base sixteen behind `0x`, in base eight behind
  `0`, or else in base ten.  No digits behind `0x` are zero.
-/
def readNumber : List Char → Option Nat
  | [] => none
  | '0' :: x :: rest =>
      if x == 'x' || x == 'X' then
        if rest.all Text.isHexDigit then
          some (Text.ofDigits 16 Text.hexValue rest)
        else none
      else if (x :: rest).all isOctalDigit then
        some (Text.ofDigits 8 Text.digitValue (x :: rest))
      else none
  | cs =>
      if cs.all Text.isDigit then
        some (Text.ofDigits 10 Text.digitValue cs)
      else none

/- The parts of a name between dots, without one dot at the end. -/
def parts (cs : List Char) : List (List Char) :=
  let pieces := Text.cutAt (· == '.') cs
  match pieces.reverse with
  | [] :: before => before.reverse
  | _ => pieces

/- A name whose last part is a number can only be an address. -/
def endsInNumber (cs : List Char) : Bool :=
  match (parts cs).getLast? with
  | none => false
  | some last =>
      (!last.isEmpty && last.all Text.isDigit) || (readNumber last).isSome

/- The address of one to four numbers; the last fills the rest. -/
def ofNumbers? (numbers : List Nat) : Option Nat :=
  match numbers.reverse with
  | [] => none
  | last :: before =>
      let before := before.reverse
      if 3 < before.length || before.any (255 < ·) ||
          Nat.pow 256 (4 - before.length) ≤ last then none
      else
        some (before.foldl (fun n b => n * 256 + b) 0 *
          Nat.pow 256 (4 - before.length) + last)

/- The address that a name is. -/
def read? (cs : List Char) : Option Nat := do
  ofNumbers? (← (parts cs).mapM readNumber)

/- Four numbers with dots between them. -/
def write (n : Nat) : List Char :=
  Text.joinWith ['.']
    ([n >>> 24, n >>> 16 % 256, n >>> 8 % 256, n % 256].map
      Text.showNat)

end Address4

------------------------------------------------------------
-- Eight Pieces
------------------------------------------------------------

namespace Address6

/- A piece of one to four digits in base sixteen. -/
def readPiece (cs : List Char) : Option Nat :=
  if cs.isEmpty || 4 < cs.length || !cs.all Text.isHexDigit then none
  else some (Text.ofDigits 16 Text.hexValue cs)

/- A byte in base ten without zeros in front. -/
def readByte (cs : List Char) : Option Nat :=
  let n := Text.ofDigits 10 Text.digitValue cs
  if cs.isEmpty || !cs.all Text.isDigit || 255 < n ||
      (cs.head? == some '0' && 1 < cs.length) then none
  else some n

/- The two pieces that an address of four bytes takes. -/
def readBytes (cs : List Char) : Option (List Nat) := do
  match ← (Text.cutAt (· == '.') cs).mapM readByte with
  | [a, b, c, d] => return [a * 256 + b, c * 256 + d]
  | _ => none

/-
  The pieces between colons.  At the end of an address, the last
  of them may be written as four bytes.
-/
def readPieces (atEnd : Bool) : List (List Char) → Option (List Nat)
  | [] => some []
  | [last] =>
      if atEnd && last.contains '.' then readBytes last
      else (readPiece last).map fun n => [n]
  | piece :: rest => do
      let n ← readPiece piece
      return n :: (← readPieces atEnd rest)

/- The pieces of a text, of which an empty one has none. -/
def readSide (atEnd : Bool) (cs : List Char) : Option (List Nat) :=
  if cs.isEmpty then some []
  else readPieces atEnd (Text.cutAt (· == ':') cs)

/- A text in front of and behind the first two colons in a row. -/
def splitGap : List Char → List Char × Option (List Char)
  | ':' :: ':' :: rest => ([], some rest)
  | c :: rest =>
      let (before, behind) := splitGap rest
      (c :: before, behind)
  | [] => ([], none)

/- The eight pieces of an address; a gap stands for zeros. -/
def read? (cs : List Char) : Option (List Nat) :=
  match splitGap cs with
  | (all, none) => do
      let pieces ← readSide true all
      if pieces.length == 8 then return pieces else none
  | (before, some behind) => do
      let front ← readSide false before
      let back ← readSide true behind
      let count := front.length + back.length
      if count < 8 then
        return front ++ List.replicate (8 - count) 0 ++ back
      else none

/- The number of zeros that some pieces start with. -/
def zerosAt (pieces : List Nat) : Nat :=
  (pieces.takeWhile (· == 0)).length

/- The longest run of zeros: its place and its length. -/
def longestZeros (at' : Nat) : List Nat → Nat × Nat
  | [] => (0, 0)
  | n :: rest =>
      let here := zerosAt (n :: rest)
      let later := longestZeros (at' + 1) rest
      if here != 0 && later.2 ≤ here then (at', here) else later

/- Pieces in base sixteen with colons between them. -/
def writePieces (pieces : List Nat) : List Char :=
  Text.joinWith [':'] (pieces.map Text.showHex)

/- The address with the first longest run of zeros left out. -/
def write (pieces : List Nat) : List Char :=
  let (start, count) := longestZeros 0 pieces
  if count < 2 then writePieces pieces
  else
    writePieces (pieces.take start) ++ [':', ':'] ++
      writePieces (pieces.drop (start + count))

end Address6

end Url

end Gleaner
