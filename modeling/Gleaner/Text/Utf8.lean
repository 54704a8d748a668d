/-
  The encoding form UTF-8 over lists of bytes: writing, the
  strict reader and the reader that replaces what it cannot
  read.

  Key definitions include:
    * `Utf8.encode`
    * `Utf8.Scan`
    * `Utf8.scan`
    * `Utf8.decode?`
    * `Utf8.decodeLossy`
-/

namespace Gleaner

namespace Utf8

------------------------------------------------------------
-- Writing
------------------------------------------------------------

/- The bytes of one character. -/
def encodeChar (c : Char) : List UInt8 :=
  let n := c.toNat
  if n < 0x80 then [UInt8.ofNat n]
  else if n < 0x800 then
    [UInt8.ofNat (0xC0 + n / 64), UInt8.ofNat (0x80 + n % 64)]
  else if n < 0x10000 then
    [UInt8.ofNat (0xE0 + n / 4096),
      UInt8.ofNat (0x80 + n / 64 % 64),
      UInt8.ofNat (0x80 + n % 64)]
  else
    [UInt8.ofNat (0xF0 + n / 262144),
      UInt8.ofNat (0x80 + n / 4096 % 64),
      UInt8.ofNat (0x80 + n / 64 % 64),
      UInt8.ofNat (0x80 + n % 64)]

/- The bytes of a text. -/
def encode (cs : List Char) : List UInt8 :=
  cs.flatMap encodeChar

------------------------------------------------------------
-- Reading
------------------------------------------------------------

/-
  What a byte may do at the start of a character: stand for
  itself, or announce how many bytes follow and between which
  bounds the first of them lies.
-/
inductive Lead
  | single (n : Nat)
  | multi (bits : Nat) (more : Nat) (low high : Nat)
  | bad

/- The part that a byte plays at the start of a character. -/
def lead (b : UInt8) : Lead :=
  let n := b.toNat
  if n < 0x80 then .single n
  else if n < 0xC2 then .bad
  else if n < 0xE0 then .multi (n - 0xC0) 1 0x80 0xBF
  else if n == 0xE0 then .multi 0 2 0xA0 0xBF
  else if n == 0xED then .multi 13 2 0x80 0x9F
  else if n < 0xF0 then .multi (n - 0xE0) 2 0x80 0xBF
  else if n == 0xF0 then .multi 0 3 0x90 0xBF
  else if n < 0xF4 then .multi (n - 0xF0) 3 0x80 0xBF
  else if n == 0xF4 then .multi 4 3 0x80 0x8F
  else .bad

/-
  The state of a reader: between two characters, or inside one
  with the bits read so far, the number of bytes to come and
  the bounds of the next.
-/
inductive Scan
  | ready
  | inside (bits more low high : Nat)

/-
  Read bytes from a state.  `none` stands for one longest
  sequence of bytes that begins a character and breaks off.
-/
def scan : Scan → List UInt8 → List (Option Char)
  | .ready, [] => []
  | .inside .., [] => [none]
  | .ready, b :: rest =>
      match lead b with
      | .single n => some (Char.ofNat n) :: scan .ready rest
      | .multi bits more low high =>
          scan (.inside bits more low high) rest
      | .bad => none :: scan .ready rest
  | .inside bits more low high, b :: rest =>
      let n := b.toNat
      if low ≤ n && n ≤ high then
        let bits := bits * 64 + (n - 0x80)
        if more ≤ 1 then
          some (Char.ofNat bits) :: scan .ready rest
        else
          scan (.inside bits (more - 1) 0x80 0xBF) rest
      else
        match lead b with
        | .single n => none :: some (Char.ofNat n) :: scan .ready rest
        | .multi bits more low high =>
            none :: scan (.inside bits more low high) rest
        | .bad => none :: none :: scan .ready rest

/- The text of well-formed bytes. -/
def decode? (bytes : List UInt8) : Option (List Char) :=
  (scan .ready bytes).mapM id

/-
  The text of any bytes, where each sequence that breaks off
  becomes a replacement character.
-/
def decodeLossy (bytes : List UInt8) : List Char :=
  (scan .ready bytes).map (·.getD '\uFFFD')

end Utf8

end Gleaner
