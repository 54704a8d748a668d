/-
  Whole numbers in texts: reading them with a bound, and
  writing them in bases ten and sixteen.

  Key definitions include:
    * `Text.isDigit`
    * `Text.isHexDigit`
    * `Text.hexValue`
    * `Text.NumberFault`
    * `Text.readNumber`
    * `Text.readNat?`
    * `Text.showNat`
    * `Text.showHex`
-/

namespace Gleaner

namespace Text

------------------------------------------------------------
-- Digits
------------------------------------------------------------

/- The digits `0` to `9`. -/
def isDigit (c : Char) : Bool :=
  48 ≤ c.toNat && c.toNat ≤ 57

/- The value of a digit `0` to `9`. -/
def digitValue (c : Char) : Nat :=
  c.toNat - 48

/- The digits of base sixteen in both cases. -/
def isHexDigit (c : Char) : Bool :=
  isDigit c || (65 ≤ c.toNat && c.toNat ≤ 70) ||
    (97 ≤ c.toNat && c.toNat ≤ 102)

/- The value of a digit of base sixteen. -/
def hexValue (c : Char) : Nat :=
  if isDigit c then c.toNat - 48
  else if c.toNat ≤ 70 then c.toNat - 55
  else c.toNat - 87

/- The letters `A` to `Z` and `a` to `z`. -/
def isLetter (c : Char) : Bool :=
  (65 ≤ c.toNat && c.toNat ≤ 90) || (97 ≤ c.toNat && c.toNat ≤ 122)

------------------------------------------------------------
-- Reading
------------------------------------------------------------

/- The number that digits of a base spell, most significant first. -/
def ofDigits (base : Nat) (value : Char → Nat) (cs : List Char) : Nat :=
  cs.foldl (fun n c => n * base + value c) 0

/- The largest number of 64 bits. -/
def maxWord : Nat := 0xFFFFFFFFFFFFFFFF

/- The ways in which a text fails to be a number. -/
inductive NumberFault
  | empty
  | invalidDigit
  | tooLarge
deriving DecidableEq, Repr

/- The wording of a fault. -/
def NumberFault.message : NumberFault → String
  | .empty => "cannot parse integer from empty string"
  | .invalidDigit => "invalid digit found in string"
  | .tooLarge => "number too large to fit in target type"

/-
  Read digits behind a number.  The first character that goes
  wrong says what is wrong with all of them.
-/
def readDigits (limit : Nat) :
    Nat → List Char → Except NumberFault Nat
  | n, [] => .ok n
  | n, c :: rest =>
      if !isDigit c then .error .invalidDigit
      else
        let n := n * 10 + digitValue c
        if limit < n then .error .tooLarge
        else readDigits limit n rest

/-
  Read an unsigned number up to `limit`, or say why that cannot
  be done: digits `0` to `9`, at least one, behind an optional
  plus sign.
-/
def readNumber (limit : Nat) : List Char → Except NumberFault Nat
  | [] => .error .empty
  | ['+'] => .error .invalidDigit
  | '+' :: digits => readDigits limit 0 digits
  | digits => readDigits limit 0 digits

/- The unsigned number up to `limit` that a text is, if any. -/
def readNat? (limit : Nat) (cs : List Char) : Option Nat :=
  (readNumber limit cs).toOption

------------------------------------------------------------
-- Writing
------------------------------------------------------------

/- A number in base ten. -/
def showNat (n : Nat) : List Char :=
  Nat.toDigits 10 n

/- A number in base sixteen with small letters. -/
def showHex (n : Nat) : List Char :=
  Nat.toDigits 16 n

/- A digit of base sixteen in capitals. -/
def hexDigitUpper (n : Nat) : Char :=
  if n < 10 then Char.ofNat (48 + n) else Char.ofNat (55 + n)

/- A digit of base sixteen in small letters. -/
def hexDigitLower (n : Nat) : Char :=
  if n < 10 then Char.ofNat (48 + n) else Char.ofNat (87 + n)

/- A byte as two digits of base sixteen in small letters. -/
def hexByte (b : UInt8) : List Char :=
  [hexDigitLower (b.toNat / 16), hexDigitLower (b.toNat % 16)]

/- A number with zeros in front up to a width. -/
def showPadded (width n : Nat) : List Char :=
  let digits := showNat n
  List.replicate (width - digits.length) '0' ++ digits

end Text

end Gleaner
