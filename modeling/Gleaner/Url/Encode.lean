import Gleaner.Text.Number
import Gleaner.Text.Utf8

/-
  Bytes that stand in a URL as a percent sign and two digits.

  Key definitions include:
    * `Url.isControl`
    * `Url.inFragment`
    * `Url.inPath`
    * `Url.inUser`
    * `Url.inQuery`
    * `Url.encode`
    * `Url.decode`
    * `Url.encodeForm`
-/

namespace Gleaner

namespace Url

------------------------------------------------------------
-- Encoded Characters
------------------------------------------------------------

/- Controls, and every character beyond the plain ones. -/
def isControl (c : Char) : Bool :=
  c.toNat < 0x20 || 0x7F ≤ c.toNat

/- The characters that are encoded in a fragment. -/
def inFragment (c : Char) : Bool :=
  isControl c || [' ', '"', '<', '>', '\x60'].contains c

/- The characters that are encoded in a path. -/
def inPath (c : Char) : Bool :=
  inFragment c || ['#', '?', '\x7b', '\x7d'].contains c

/- The characters that are encoded in the name of a user. -/
def inUser (c : Char) : Bool :=
  inPath c ||
    ['/', ':', ';', '=', '@', '[', '\\', ']', '^', '|'].contains c

/- The characters that are encoded in a query. -/
def inQuery (special : Bool) (c : Char) : Bool :=
  isControl c || [' ', '"', '#', '<', '>'].contains c ||
    (special && c == '\'')

------------------------------------------------------------
-- Encoding
------------------------------------------------------------

/- A byte as a percent sign and two digits. -/
def encodeByte (b : UInt8) : List Char :=
  ['%', Text.hexDigitUpper (b.toNat / 16),
    Text.hexDigitUpper (b.toNat % 16)]

/- A character, encoded if it belongs to a set. -/
def encodeChar (isIn : Char → Bool) (c : Char) : List Char :=
  if isIn c then (Utf8.encodeChar c).flatMap encodeByte else [c]

/- A text with the characters of a set encoded. -/
def encode (isIn : Char → Bool) (cs : List Char) : List Char :=
  cs.flatMap (encodeChar isIn)

/- Everything but letters, digits and `-`, `_`, `.`, `~`. -/
def inForm (c : Char) : Bool :=
  !(Text.isLetter c || Text.isDigit c ||
    ['-', '_', '.', '~'].contains c)

/- A text as the value of a field of a form. -/
def encodeForm (s : String) : String :=
  String.ofList (encode inForm s.toList)

------------------------------------------------------------
-- Decoding
------------------------------------------------------------

/- The bytes of a text, where a percent sign may stand for one. -/
def decode : List Char → List UInt8
  | [] => []
  | '%' :: a :: b :: rest =>
      if Text.isHexDigit a && Text.isHexDigit b then
        UInt8.ofNat (Text.hexValue a * 16 + Text.hexValue b) ::
          decode rest
      else Utf8.encodeChar '%' ++ decode (a :: b :: rest)
  | c :: rest => Utf8.encodeChar c ++ decode rest

end Url

end Gleaner
