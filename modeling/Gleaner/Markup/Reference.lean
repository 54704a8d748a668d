import Gleaner.Markup.Entity

/-
  Character references in texts and attribute values.

  Key definitions include:
    * `Markup.replaceCode`
    * `Markup.takeNumeric?`
    * `Markup.takeNamed?`
    * `Markup.takeReference?`
    * `Markup.decodeReferences`
-/

namespace Gleaner

namespace Markup

------------------------------------------------------------
-- Numeric References
------------------------------------------------------------

/-
  The characters that code points from 0x80 to 0x9F stand for;
  zero marks the ones that stand for themselves.
-/
def legacyCodes : List Nat :=
  [0x20AC, 0, 0x201A, 0x0192, 0x201E, 0x2026, 0x2020, 0x2021,
    0x02C6, 0x2030, 0x0160, 0x2039, 0x0152, 0, 0x017D, 0,
    0, 0x2018, 0x2019, 0x201C, 0x201D, 0x2022, 0x2013, 0x2014,
    0x02DC, 0x2122, 0x0161, 0x203A, 0x0153, 0, 0x017E, 0x0178]

/- The character that a number refers to. -/
def replaceCode (n : Nat) : Char :=
  if n == 0 || 0x10FFFF < n || (0xD800 ≤ n && n ≤ 0xDFFF) then '\uFFFD'
  else if 0x80 ≤ n && n ≤ 0x9F then
    let legacy := legacyCodes.getD (n - 0x80) 0
    Char.ofNat (if legacy == 0 then n else legacy)
  else Char.ofNat n

/- A text without the semicolon that it may start with. -/
def dropSemicolon : List Char → List Char
  | ';' :: rest => rest
  | cs => cs

/- The digits of a numeric reference, and what follows it. -/
def takeCode? (base : Nat) (isDigit : Char → Bool) (cs : List Char) :
    Option (Char × List Char) :=
  let digits := cs.takeWhile isDigit
  if digits.isEmpty then none
  else
    some (replaceCode (Text.ofDigits base Text.hexValue digits),
      dropSemicolon (cs.dropWhile isDigit))

/- A numeric reference behind `&#`, and what follows it. -/
def takeNumeric? : List Char → Option (Char × List Char)
  | c :: rest =>
      if c == 'x' || c == 'X' then
        takeCode? 16 Text.isHexDigit rest
      else takeCode? 10 Text.isDigit (c :: rest)
  | [] => none

------------------------------------------------------------
-- Named References
------------------------------------------------------------

/-
  In a value, a name without its semicolon is no reference if a
  letter, a digit or `=` follows.
-/
def staysText (inValue : Bool) (name rest : List Char) : Bool :=
  inValue && name.getLast? != some ';' &&
    match rest with
    | c :: _ => c == '=' || Text.isDigit c || Text.isLetter c
    | [] => false

/- A named reference behind `&`, and what follows it. -/
def takeNamed? (inValue : Bool) (cs : List Char) :
    Option (List Char × List Char) :=
  (findEntity? cs).bind fun entity =>
    let rest := cs.drop entity.name.length
    if staysText inValue entity.name rest then none
    else some (entity.value, rest)

------------------------------------------------------------
-- Whole Texts
------------------------------------------------------------

/- The reference that a text starts with, and what follows it. -/
def takeReference? (inValue : Bool) :
    List Char → Option (List Char × List Char)
  | '&' :: '#' :: rest =>
      (takeNumeric? rest).map fun (c, after) => ([c], after)
  | '&' :: rest => takeNamed? inValue rest
  | _ => none

/-
  Replace the references of a text.  Each round reads at least
  one character, so the length bounds the rounds.
-/
def decodeWithin (inValue : Bool) : Nat → List Char → List Char
  | 0, cs => cs
  | _ + 1, [] => []
  | left + 1, c :: rest =>
      (takeReference? inValue (c :: rest)).elim
        (c :: decodeWithin inValue left rest)
        fun read => read.1 ++ decodeWithin inValue left read.2

/- The text that references stand in, with the references replaced. -/
def decodeReferences (inValue : Bool) (cs : List Char) : List Char :=
  decodeWithin inValue cs.length cs

end Markup

end Gleaner
