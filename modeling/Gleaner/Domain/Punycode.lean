import Gleaner.Text.Number

/-
  Writing text of all scripts with small letters, digits and
  dashes: the plain characters first, then for every other one
  how far it is from the one before, in the order of their code
  points.

  Key definitions include:
    * `Punycode.threshold`
    * `Punycode.adapt`
    * `Punycode.digits`
    * `Punycode.encode`
    * `Punycode.decode?`
-/

namespace Gleaner

namespace Punycode

------------------------------------------------------------
-- Digits
------------------------------------------------------------

/- The digit with a value below 36. -/
def digit (n : Nat) : Char :=
  if n < 26 then Char.ofNat (97 + n) else Char.ofNat (22 + n)

/- The value of a digit. -/
def digitValue? (c : Char) : Option Nat :=
  if Text.isDigit c then some (c.toNat - 22)
  else if Text.isLetter c then some (c.toLower.toNat - 97)
  else none

/- The value from which on a digit at a place is not the last. -/
def threshold (bias place : Nat) : Nat :=
  max 1 (min 26 (place - bias))

theorem one_le_threshold (bias place : Nat) :
    1 ≤ threshold bias place := by
  unfold threshold
  omega

theorem threshold_le (bias place : Nat) :
    threshold bias place ≤ 26 := by
  unfold threshold
  omega

/- Divide a distance until it is small, and count the places. -/
def shrink (delta places : Nat) : Nat × Nat :=
  if 455 < delta then shrink (delta / 35) (places + 36)
  else (delta, places)
termination_by delta
decreasing_by omega

/- The bias after a distance, with so many characters in place. -/
def adapt (delta count : Nat) (isFirst : Bool) : Nat :=
  let delta := if isFirst then delta / 700 else delta / 2
  let (delta, places) := shrink (delta + delta / count) 0
  places + 36 * delta / (delta + 38)

------------------------------------------------------------
-- Writing
------------------------------------------------------------

/- The digits of a distance, from a place on. -/
def digits (bias place delta : Nat) : List Char :=
  let t := threshold bias place
  if delta < t then [digit delta]
  else
    digit (t + (delta - t) % (36 - t)) ::
      digits bias (place + 36) ((delta - t) / (36 - t))
termination_by delta
decreasing_by
  have low := one_le_threshold bias place
  have high := threshold_le bias place
  have := Nat.div_le_self (delta - threshold bias place)
    (36 - threshold bias place)
  omega

/-
  Writing is under way: the digits so far, the distance since
  the last digits, the bias, and the characters in place.
-/
structure Writing where
  out : List Char
  delta : Nat
  bias : Nat
  count : Nat

/- One character, while those with code point `n` are written. -/
def Writing.pass (first n : Nat) (w : Writing) (c : Char) : Writing :=
  if c.toNat < n then { w with delta := w.delta + 1 }
  else if c.toNat == n then
    { out := w.out ++ digits w.bias 36 w.delta
      delta := 0
      bias := adapt w.delta (w.count + 1) (w.count == first)
      count := w.count + 1 }
  else w

/- Write the characters with each of some rising code points. -/
def Writing.run (cs : List Char) (first : Nat) :
    Nat → Writing → List Nat → Writing
  | _, w, [] => w
  | last, w, n :: rest =>
      let start :=
        { w with delta := w.delta + (n - last) * (w.count + 1) }
      let done := cs.foldl (Writing.pass first n) start
      Writing.run cs first (n + 1)
        { done with delta := done.delta + 1 } rest

/- Put a number into a rising list, once. -/
def insertRising (n : Nat) : List Nat → List Nat
  | [] => [n]
  | m :: rest =>
      if n < m then n :: m :: rest
      else if n == m then m :: rest
      else m :: insertRising n rest

/- The plain form of a text. -/
def encode (cs : List Char) : List Char :=
  let plain := cs.filter (·.toNat < 128)
  let others := (cs.filter (128 ≤ ·.toNat)).map Char.toNat
  let w := Writing.run cs plain.length 128
    ⟨[], 0, 72, plain.length⟩ (others.foldr insertRising [])
  plain ++ (if plain.isEmpty then [] else ['-']) ++ w.out

------------------------------------------------------------
-- Reading
------------------------------------------------------------

/- Put a character at a place of a text. -/
def insertAt (i : Nat) (c : Char) (cs : List Char) : List Char :=
  cs.take i ++ c :: cs.drop i

/-
  Reading is under way: the text so far, the last code point,
  the place behind the last character, and the bias.
-/
structure Reading where
  out : List Char
  code : Nat
  place : Nat
  bias : Nat
  isFirst : Bool

/- Put the next character in its place, if there is such a one. -/
def Reading.put? (r : Reading) (delta : Nat) : Option Reading :=
  let size := r.out.length + 1
  let i := r.place + delta
  let code := r.code + i / size
  if 0x10FFFF < code || (0xD800 ≤ code && code ≤ 0xDFFF) then none
  else
    some
      { out := insertAt (i % size) (Char.ofNat code) r.out
        code := code
        place := i % size + 1
        bias := adapt delta size r.isFirst
        isFirst := false }

/-
  Read digits.  `delta`, `weight` and `place` belong to the
  distance that is being read, if one is.
-/
def Reading.run (r : Reading) (delta weight place : Nat) :
    List Char → Option (List Char)
  | [] => if place == 36 then some r.out else none
  | c :: rest =>
      match digitValue? c with
      | none => none
      | some d =>
          let t := threshold r.bias place
          let delta := delta + d * weight
          if d < t then
            match r.put? delta with
            | some r => r.run 0 1 36 rest
            | none => none
          else r.run delta (weight * (36 - t)) (place + 36) rest

/- The text with a plain form. -/
def decode? (cs : List Char) : Option (List Char) :=
  let behind := (cs.reverse.takeWhile (· != '-')).reverse
  let plain := cs.take (cs.length - behind.length - 1)
  if behind.length < cs.length && plain.isEmpty then none
  else
    Reading.run ⟨plain, 128, 0, 72, true⟩ 0 1 36 behind

end Punycode

end Gleaner
