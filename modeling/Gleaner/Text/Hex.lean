import Gleaner.Text.Number

/-
  Bytes written as pairs of digits of base sixteen.

  Key definitions include:
    * `Hex.encode`
    * `Hex.decode?`
-/

namespace Gleaner

namespace Hex

/- Two digits for each byte, in small letters. -/
def encode (bytes : List UInt8) : List Char :=
  bytes.flatMap Text.hexByte

/- The bytes of an even number of digits. -/
def decode? : List Char → Option (List UInt8)
  | [] => some []
  | [_] => none
  | a :: b :: rest =>
      if Text.isHexDigit a && Text.isHexDigit b then
        (decode? rest).map
          (UInt8.ofNat (Text.hexValue a * 16 + Text.hexValue b) :: ·)
      else none

end Hex

end Gleaner
