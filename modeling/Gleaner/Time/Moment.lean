import Gleaner.Text.Blank
import Gleaner.Text.Number
import Gleaner.Time.Date

/-
  Moments in universal time, down to a billionth of a second,
  and their written form.

  Key definitions include:
    * `Moment`
    * `Moment.atOffset?`
    * `Moment.read?`
    * `Moment.write`
-/

namespace Gleaner

/-
  A moment.  A leap second is kept with the second before it:
  behind any second, a thousand million billionths and more
  stand for the leap second that follows.
-/
structure Moment where
  date : Date
  hour : Nat
  minute : Nat
  second : Nat
  nano : Nat
deriving DecidableEq, Repr

namespace Moment

------------------------------------------------------------
-- Moments
------------------------------------------------------------

/- The parts of a moment lie within their bounds. -/
def isValid (m : Moment) : Bool :=
  m.date.isValid && m.hour < 24 && m.minute < 60 &&
    m.second < 60 && m.nano < 2000000000

/-
  The moment of a time with a second 60, which is the leap second
  behind the last second of a minute.
-/
def ofClock (date : Date) (hour minute second nano : Nat) : Moment :=
  if second == 60 then ⟨date, hour, minute, 59, 1000000000 + nano⟩
  else ⟨date, hour, minute, second, nano⟩

/- The moment that is some billionths of a second after the epoch. -/
def afterEpoch (nanos : Nat) : Moment :=
  let seconds := nanos / 1000000000
  let inDay := seconds % 86400
  { date := .afterEpoch (seconds / 86400)
    hour := inDay / 3600
    minute := inDay / 60 % 60
    second := inDay % 60
    nano := nanos % 1000000000 }

/-
  The moment that a clock shows where local time is ahead by
  some minutes.  Clocks are ahead or behind by less than a day.
-/
def atOffset? (clock : Moment) (ahead : Int) : Option Moment :=
  let minutes : Int := clock.hour * 60 + clock.minute - ahead
  let date :=
    if minutes < 0 then clock.date.previous
    else if 1440 ≤ minutes then clock.date.next
    else clock.date
  let minutes := (minutes % 1440).toNat
  let m : Moment :=
    { clock with
      date := date
      hour := minutes / 60
      minute := minutes % 60 }
  if clock.isValid && -1440 < ahead && ahead < 1440 && m.isValid then
    some m
  else none

------------------------------------------------------------
-- Reading
------------------------------------------------------------

/- At most `most` digits, at least one, and what follows. -/
def takeDigits (most : Nat) (cs : List Char) :
    Option (Nat × List Char) :=
  let digits := (cs.take most).takeWhile Text.isDigit
  if digits.isEmpty then none
  else
    some (Text.ofDigits 10 Text.digitValue digits,
      cs.drop digits.length)

/- A number of two digits at most, which blanks may precede. -/
def takeField (cs : List Char) : Option (Nat × List Char) :=
  takeDigits 2 (Text.trimStart cs)

/- A year: with a sign it may have more than four digits. -/
def takeYear (cs : List Char) : Option (Int × List Char) :=
  match Text.trimStart cs with
  | '-' :: rest =>
      (takeDigits rest.length rest).map fun (n, rest) => (-n, rest)
  | '+' :: rest =>
      (takeDigits rest.length rest).map fun (n, rest) => (n, rest)
  | rest => (takeDigits 4 rest).map fun (n, rest) => (n, rest)

/- What follows a mark, which blanks may precede. -/
def dropMark (mark : Char) (cs : List Char) : Option (List Char) :=
  match Text.trimStart cs with
  | c :: rest => if c == mark then some rest else none
  | [] => none

/-
  The billionths in a fraction of a second, and what follows.
  Digits behind the ninth are cut off.
-/
def takeFraction : List Char → Option (Nat × List Char)
  | '.' :: rest =>
      let digits := rest.takeWhile Text.isDigit
      if digits.isEmpty then none
      else
        let kept := digits.take 9
        some (Text.ofDigits 10 Text.digitValue kept *
            Nat.pow 10 (9 - kept.length),
          rest.drop digits.length)
  | cs => some (0, cs)

/- The hours and minutes behind the sign of an offset. -/
def takeHours (cs : List Char) : Option (Nat × List Char) :=
  match cs with
  | a :: b :: rest =>
      let rest := rest.dropWhile fun c => c == ':' || Text.isBlank c
      match rest with
      | c :: d :: rest =>
          if [a, b, c, d].all Text.isDigit && c.toNat ≤ 53 then
            some (Text.ofDigits 10 Text.digitValue [a, b] * 60 +
              Text.ofDigits 10 Text.digitValue [c, d], rest)
          else none
      | _ => none
  | _ => none

/- The minutes by which local time is ahead, and what follows. -/
def takeOffset (cs : List Char) : Option (Int × List Char) :=
  match cs with
  | u :: t :: c :: rest =>
      if [u, t, c].map Char.toUpper == ['U', 'T', 'C'] then
        some (0, rest)
      else signed cs
  | _ => signed cs
where
  /- An offset with a sign, or the letter for none. -/
  signed : List Char → Option (Int × List Char)
    | [] => none
    | c :: rest =>
        if c == 'Z' || c == 'z' then some (0, rest)
        else if c == '+' then
          (takeHours rest).map fun (n, rest) => (n, rest)
        else if c == '-' || c == '\u2212' then
          (takeHours rest).map fun (n, rest) => (-n, rest)
        else none

/- What follows the letter or the blank between date and time. -/
def dropSeparator : List Char → Option (List Char)
  | c :: rest =>
      if c == 'T' || c == 't' || c == ' ' then some rest else none
  | [] => none

/-
  Read a moment: a date, a time with seconds, and an offset.
  Blanks may stand between all their parts.
-/
def readChars? (cs : List Char) : Option Moment := do
  let (year, cs) ← takeYear cs
  let (month, cs) ← takeField (← dropMark '-' cs)
  let (day, cs) ← takeField (← dropMark '-' cs)
  let (hour, cs) ← takeField (← dropSeparator cs)
  let (minute, cs) ← takeField (← dropMark ':' cs)
  let (second, cs) ← takeField (← dropMark ':' cs)
  let (nano, cs) ← takeFraction cs
  let (ahead, cs) ← takeOffset (Text.trimStart cs)
  if (Text.trimStart cs).isEmpty then
    atOffset? (ofClock ⟨year, month, day⟩ hour minute second nano)
      ahead
  else none

/- Read a moment. -/
def read? (s : String) : Option Moment :=
  readChars? s.toList

------------------------------------------------------------
-- Writing
------------------------------------------------------------

/- A year in four digits, with a sign and more if it has to be. -/
def writeYear (year : Int) : List Char :=
  if year < 0 then '-' :: Text.showPadded 4 (-year).toNat
  else if year ≤ 9999 then Text.showPadded 4 year.toNat
  else '+' :: Text.showPadded 4 year.toNat

/- A fraction of a second in 0, 3, 6 or 9 digits. -/
def writeFraction (nano : Nat) : List Char :=
  if nano == 0 then []
  else if nano % 1000000 == 0 then
    '.' :: Text.showPadded 3 (nano / 1000000)
  else if nano % 1000 == 0 then
    '.' :: Text.showPadded 6 (nano / 1000)
  else '.' :: Text.showPadded 9 nano

/-
  The second and the billionths that are shown.  A leap second
  is shown as the second that follows.
-/
def shown (m : Moment) : Nat × Nat :=
  if m.nano < 1000000000 then (m.second, m.nano)
  else (m.second + 1, m.nano - 1000000000)

/- A moment without the mark of its offset. -/
def writeClock (m : Moment) : List Char :=
  writeYear m.date.year ++ '-' :: Text.showPadded 2 m.date.month ++
    '-' :: Text.showPadded 2 m.date.day ++
    'T' :: Text.showPadded 2 m.hour ++
    ':' :: Text.showPadded 2 m.minute ++
    ':' :: Text.showPadded 2 m.shown.1 ++ writeFraction m.shown.2

/- A moment with the letter for universal time. -/
def write (m : Moment) : String :=
  String.ofList (m.writeClock ++ ['Z'])

/- A moment with the offset of universal time. -/
def writeWithOffset (m : Moment) : String :=
  String.ofList (m.writeClock ++ ['+', '0', '0', ':', '0', '0'])

end Moment

end Gleaner
