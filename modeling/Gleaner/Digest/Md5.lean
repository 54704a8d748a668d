import Gleaner.Text.Number
import Gleaner.Text.Utf8

/-
  The message digest MD5 over lists of bytes.

  Key definitions include:
    * `Md5.digest`
    * `Md5.hex`
-/

namespace Gleaner

namespace Md5

------------------------------------------------------------
-- Constants
------------------------------------------------------------

/- The integer parts of `2 ^ 32 * |sin i|` for `i` from 1 to 64. -/
def sines : List UInt32 :=
  [0xd76aa478, 0xe8c7b756, 0x242070db, 0xc1bdceee,
    0xf57c0faf, 0x4787c62a, 0xa8304613, 0xfd469501,
    0x698098d8, 0x8b44f7af, 0xffff5bb1, 0x895cd7be,
    0x6b901122, 0xfd987193, 0xa679438e, 0x49b40821,
    0xf61e2562, 0xc040b340, 0x265e5a51, 0xe9b6c7aa,
    0xd62f105d, 0x02441453, 0xd8a1e681, 0xe7d3fbc8,
    0x21e1cde6, 0xc33707d6, 0xf4d50d87, 0x455a14ed,
    0xa9e3e905, 0xfcefa3f8, 0x676f02d9, 0x8d2a4c8a,
    0xfffa3942, 0x8771f681, 0x6d9d6122, 0xfde5380c,
    0xa4beea44, 0x4bdecfa9, 0xf6bb4b60, 0xbebfbc70,
    0x289b7ec6, 0xeaa127fa, 0xd4ef3085, 0x04881d05,
    0xd9d4d039, 0xe6db99e5, 0x1fa27cf8, 0xc4ac5665,
    0xf4292244, 0x432aff97, 0xab9423a7, 0xfc93a039,
    0x655b59c3, 0x8f0ccc92, 0xffeff47d, 0x85845dd1,
    0x6fa87e4f, 0xfe2ce6e0, 0xa3014314, 0x4e0811a1,
    0xf7537e82, 0xbd3af235, 0x2ad7d2bb, 0xeb86d391]

/- The rotations of the four rounds, each repeated four times. -/
def rotations : List (List UInt32) :=
  [[7, 12, 17, 22], [5, 9, 14, 20], [4, 11, 16, 23], [6, 10, 15, 21]]

------------------------------------------------------------
-- Words
------------------------------------------------------------

/- The four words that a block transforms. -/
structure State where
  a : UInt32
  b : UInt32
  c : UInt32
  d : UInt32
deriving DecidableEq, Repr

/- The words before the first block. -/
def start : State :=
  ⟨0x67452301, 0xefcdab89, 0x98badcfe, 0x10325476⟩

/- Rotate a word to the left. -/
def rotate (x by' : UInt32) : UInt32 :=
  (x <<< by') ||| (x >>> (32 - by'))

/- A word of four bytes, least significant first. -/
def word (b₀ b₁ b₂ b₃ : UInt8) : UInt32 :=
  b₀.toUInt32 ||| (b₁.toUInt32 <<< 8) |||
    (b₂.toUInt32 <<< 16) ||| (b₃.toUInt32 <<< 24)

/- Read bytes as words. -/
def words : List UInt8 → List UInt32
  | b₀ :: b₁ :: b₂ :: b₃ :: rest => word b₀ b₁ b₂ b₃ :: words rest
  | _ => []

/- The bytes of a number, least significant first. -/
def littleEndian : Nat → Nat → List UInt8
  | 0, _ => []
  | count + 1, n => UInt8.ofNat (n % 256) :: littleEndian count (n / 256)

------------------------------------------------------------
-- Rounds
------------------------------------------------------------

/- One of the 64 operations on a block. -/
def operation (block : List UInt32) (s : State) (i : Nat) (sine : UInt32) :
    State :=
  let (mix, index) :=
    match i / 16 with
    | 0 => ((s.b &&& s.c) ||| (~~~s.b &&& s.d), i % 16)
    | 1 => ((s.d &&& s.b) ||| (~~~s.d &&& s.c), (5 * i + 1) % 16)
    | 2 => (s.b ^^^ s.c ^^^ s.d, (3 * i + 5) % 16)
    | _ => (s.c ^^^ (s.b ||| ~~~s.d), (7 * i) % 16)
  let by' := ((rotations.getD (i / 16) []).getD (i % 4) 0)
  let sum := s.a + mix + sine + block.getD index 0
  ⟨s.d, s.b + rotate sum by', s.b, s.c⟩

/- Fold one block of sixteen words into the state. -/
def absorb (s : State) (block : List UInt32) : State :=
  let (t, _) :=
    sines.foldl
      (fun (t, i) sine => (operation block t i sine, i + 1)) (s, 0)
  ⟨s.a + t.a, s.b + t.b, s.c + t.c, s.d + t.d⟩

/- The message, a bit, zeros, and the length in bits. -/
def pad (bytes : List UInt8) : List UInt8 :=
  let zeros := (119 - bytes.length % 64) % 64
  bytes ++ 0x80 :: List.replicate zeros 0 ++
    littleEndian 8 (bytes.length * 8)

/- Fold blocks of sixteen words into the state. -/
def absorbAll : Nat → State → List UInt32 → State
  | 0, s, _ => s
  | blocks + 1, s, ws => absorbAll blocks (absorb s (ws.take 16)) (ws.drop 16)

/- The sixteen bytes of the digest. -/
def digest (bytes : List UInt8) : List UInt8 :=
  let ws := words (pad bytes)
  let s := absorbAll (ws.length / 16) start ws
  [s.a, s.b, s.c, s.d].flatMap (fun w => littleEndian 4 w.toNat)

/- The digest of the UTF-8 bytes of a text, in small letters. -/
def hex (s : String) : String :=
  String.ofList ((digest (Utf8.encode s.toList)).flatMap Text.hexByte)

end Md5

end Gleaner
