import Gleaner.Text.Cut
import Gleaner.Text.Utf8

/-
  The encodings in which servers send texts.

  Key definitions include:
    * `Web.Charset`
    * `Web.Charset.ofLabel?`
    * `Web.Charset.ofContentType`
    * `Web.Charset.decode`
    * `Web.decodeBody`
-/

namespace Gleaner

namespace Web

/- The encodings that are understood. -/
inductive Charset
  | utf8
  | western
  | utf16 (bigEndian : Bool)
deriving DecidableEq, Repr

namespace Charset

------------------------------------------------------------
-- Labels
------------------------------------------------------------

/- The labels of the encoding of one byte for each character. -/
def westernLabels : List String :=
  ["ansi_x3.4-1968", "ascii", "cp1252", "cp819", "csisolatin1",
    "ibm819", "iso-8859-1", "iso-ir-100", "iso8859-1", "iso88591",
    "iso_8859-1", "iso_8859-1:1987", "l1", "latin1", "us-ascii",
    "windows-1252", "x-cp1252"]

/- The labels of the encoding of two bytes, low byte first. -/
def lowFirstLabels : List String :=
  ["csunicode", "iso-10646-ucs-2", "ucs-2", "unicode",
    "unicodefeff", "utf-16", "utf-16le"]

/- The labels of the encoding of two bytes, high byte first. -/
def highFirstLabels : List String :=
  ["unicodefffe", "utf-16be"]

/- The encoding with a label. -/
def ofLabel? (label : String) : Option Charset :=
  if westernLabels.contains label then some .western
  else if lowFirstLabels.contains label then some (.utf16 false)
  else if highFirstLabels.contains label then some (.utf16 true)
  else none

/- White space around the parts of a content type. -/
def isPadding (c : Char) : Bool :=
  c == ' ' || c == '\t'

/- A part without the white space and quotes around it. -/
def bare (cs : List Char) : List Char :=
  let cut (isCut : Char → Bool) (cs : List Char) : List Char :=
    ((cs.dropWhile isCut).reverse.dropWhile isCut).reverse
  cut (· == '"') (cut isPadding cs)

/- The value of a parameter that names the encoding. -/
def parameter? (cs : List Char) : Option String :=
  (Text.dropPrefixIgnoringCase? "charset=".toList
    (cs.dropWhile isPadding)).map fun value =>
      String.ofList ((bare value).map Char.toLower)

/- The encoding that a content type tells of. -/
def ofContentType (contentType : String) : Charset :=
  let parameters := (Text.cutAt (· == ';') contentType.toList).drop 1
  ((parameters.findSome? parameter?).bind ofLabel?).getD .utf8

------------------------------------------------------------
-- Decoding
------------------------------------------------------------

/- The characters that stand in the place of controls. -/
def highWestern : List Nat :=
  [0x20AC, 0x81, 0x201A, 0x192, 0x201E, 0x2026, 0x2020, 0x2021,
    0x2C6, 0x2030, 0x160, 0x2039, 0x152, 0x8D, 0x17D, 0x8F,
    0x90, 0x2018, 0x2019, 0x201C, 0x201D, 0x2022, 0x2013, 0x2014,
    0x2DC, 0x2122, 0x161, 0x203A, 0x153, 0x9D, 0x17E, 0x178]

/- The character of a byte. -/
def westernChar (b : UInt8) : Char :=
  let n := b.toNat
  if 0x80 ≤ n && n < 0xA0 then
    Char.ofNat (highWestern.getD (n - 0x80) n)
  else Char.ofNat n

/- The mark for what cannot be read. -/
def unknownChar : Char := '\uFFFD'

/- Units of two bytes; a byte that is left over is none. -/
def units (bigEndian : Bool) : List UInt8 → List (Option Nat)
  | [] => []
  | [_] => [none]
  | a :: b :: rest =>
      some (if bigEndian then a.toNat * 256 + b.toNat
        else b.toNat * 256 + a.toNat) :: units bigEndian rest

/- The unit is the first half of a pair. -/
def isFirstHalf (n : Nat) : Bool :=
  0xD800 ≤ n && n < 0xDC00

/- The unit is the second half of a pair. -/
def isSecondHalf (n : Nat) : Bool :=
  0xDC00 ≤ n && n < 0xE000

/- The characters that units make up; halves are unknown. -/
def ofUnits : List (Option Nat) → List Char
  | [] => []
  | none :: rest => unknownChar :: ofUnits rest
  | [some n] =>
      [if isFirstHalf n || isSecondHalf n then unknownChar
        else Char.ofNat n]
  | some n :: next :: rest =>
      if isFirstHalf n then
        match next with
        | some m =>
            if isSecondHalf m then
              Char.ofNat
                  (0x10000 + (n - 0xD800) * 1024 + (m - 0xDC00)) ::
                ofUnits rest
            else unknownChar :: ofUnits (next :: rest)
        | none => unknownChar :: ofUnits rest
      else if isSecondHalf n then
        unknownChar :: ofUnits (next :: rest)
      else Char.ofNat n :: ofUnits (next :: rest)

/- The text of bytes. -/
def decode (bytes : List UInt8) : Charset → List Char
  | .utf8 => Utf8.decodeLossy bytes
  | .western => bytes.map westernChar
  | .utf16 bigEndian => ofUnits (units bigEndian bytes)

end Charset

/-
  The text of a body.  A mark in front of it tells more of its
  encoding than its content type does.
-/
def decodeBody (contentType : Option String) (bytes : List UInt8) :
    String :=
  String.ofList <|
    match bytes with
    | 0xEF :: 0xBB :: 0xBF :: rest => Charset.utf8.decode rest
    | 0xFF :: 0xFE :: rest => (Charset.utf16 false).decode rest
    | 0xFE :: 0xFF :: rest => (Charset.utf16 true).decode rest
    | _ => (contentType.elim .utf8 Charset.ofContentType).decode bytes

end Web

end Gleaner
