import Gleaner.Proofs.Text.Number
import Gleaner.Proofs.Text.Trimming
import Gleaner.Time.Moment
import Mathlib

/-
  Written moments are read back, with all digits of a second, in
  all years of the calendar, and in leap seconds.  A leap second
  that does not end a minute is read as the second that follows.

  Main declarations:
    * `Text.ofDigits_showPadded`
    * `Moment.takeYear_writeYear`
    * `Moment.takeFraction_writeFraction`
    * `Moment.isSettled`
    * `Moment.settled`
    * `Moment.settled_eq_self_iff`
    * `Moment.read?_writeWithOffset`
-/

namespace Gleaner

------------------------------------------------------------
-- Digits
------------------------------------------------------------

namespace Text

/- A padded number is written in digits. -/
theorem isDigit_of_mem_showPadded
    {width n : Nat}
    {c : Char}
    (hc : c ∈ showPadded width n) :
    isDigit c = true := by
  rcases List.mem_append.mp hc with hZero | hDigit
  · rw [List.eq_of_mem_replicate hZero]
    decide
  · exact isDigit_of_mem_showNat hDigit

/- A padded number is spelled by its digits. -/
@[simp] theorem ofDigits_showPadded (width n : Nat) :
    ofDigits 10 digitValue (showPadded width n) = n := by
  rw [ofDigits_eq_ofDigitChars]
  simp [showPadded, showNat, Nat.ofDigitChars_append]

/- A number that fits the width is written in that width. -/
theorem length_showPadded
    {width n : Nat}
    (hWidth : 0 < width)
    (hFits : n < 10 ^ width) :
    (showPadded width n).length = width := by
  have hLength :=
    (Nat.length_toDigits_le_iff (by decide) hWidth).mpr hFits
  simp only [showPadded, showNat, List.length_append,
    List.length_replicate]
  omega

/- A padded number has a digit. -/
theorem showPadded_ne_nil (width n : Nat) :
    showPadded width n ≠ [] := by
  simp [showPadded, showNat]

/- A digit is no white space. -/
theorem isBlank_of_isDigit
    {c : Char}
    (hc : isDigit c = true) :
    isBlank c = false := by
  simp only [isDigit, Bool.and_eq_true, decide_eq_true_eq] at hc
  simp only [isBlank, Bool.or_eq_false_iff, Bool.and_eq_false_imp,
    decide_eq_true_eq, decide_eq_false_iff_not, beq_eq_false_iff_ne]
  omega

/- Nothing is dropped in front of a number. -/
theorem trimStart_showPadded
    (width n : Nat)
    (rest : List Char) :
    trimStart (showPadded width n ++ rest) =
      showPadded width n ++ rest := by
  cases hDigits : showPadded width n with
  | nil => exact absurd hDigits (showPadded_ne_nil width n)
  | cons c cs =>
      have hc : isDigit c = true :=
        isDigit_of_mem_showPadded (hDigits ▸ List.mem_cons_self)
      exact trimStart_cons (isBlank_of_isDigit hc) _

end Text

namespace Moment

------------------------------------------------------------
-- Reading Digits
------------------------------------------------------------

/- A padded number is taken where no more digits can be taken. -/
theorem takeDigits_showPadded
    {width n most : Nat}
    {rest : List Char}
    (hMost : (Text.showPadded width n).length ≤ most)
    (hStop :
      (rest.take (most - (Text.showPadded width n).length)).takeWhile
        Text.isDigit = []) :
    takeDigits most (Text.showPadded width n ++ rest) =
      some (n, rest) := by
  have hAll :
      ∀ c ∈ Text.showPadded width n, Text.isDigit c = true :=
    fun c => Text.isDigit_of_mem_showPadded
  have hTaken :
      ((Text.showPadded width n ++ rest).take most).takeWhile
        Text.isDigit = Text.showPadded width n := by
    rw [List.take_append, List.take_of_length_le hMost,
      List.takeWhile_append_of_pos hAll, hStop, List.append_nil]
  have hEmpty : (Text.showPadded width n).isEmpty = false := by
    simpa using Text.showPadded_ne_nil width n
  simp [takeDigits, hTaken, hEmpty]

/- A field of two digits is read. -/
theorem takeField_showPadded
    {n : Nat}
    (hFits : n < 100)
    (rest : List Char) :
    takeField (Text.showPadded 2 n ++ rest) = some (n, rest) := by
  have hLength : (Text.showPadded 2 n).length = 2 :=
    Text.length_showPadded (by decide) hFits
  rw [takeField, Text.trimStart_showPadded]
  exact takeDigits_showPadded (by omega) (by simp [hLength])

/- A mark is passed over. -/
theorem dropMark_cons
    {mark : Char}
    (hMark : Text.isBlank mark = false)
    (rest : List Char) :
    dropMark mark (mark :: rest) = some rest := by
  simp [dropMark, Text.trimStart_cons hMark]

/- The letter between date and time is passed over. -/
theorem dropSeparator_T (rest : List Char) :
    dropSeparator ('T' :: rest) = some rest :=
  rfl

------------------------------------------------------------
-- Years and Fractions
------------------------------------------------------------

/- All digits of a year behind a sign are read. -/
theorem takeDigits_year
    (n : Nat)
    (rest : List Char) :
    takeDigits (Text.showPadded 4 n ++ '-' :: rest).length
        (Text.showPadded 4 n ++ '-' :: rest) =
      some (n, '-' :: rest) := by
  apply takeDigits_showPadded
  · simp
  · simp [Text.isDigit]

/- A year of four digits is read without a sign. -/
theorem takeYear_showPadded
    {n : Nat}
    (hFits : n < 10000)
    (rest : List Char) :
    takeYear (Text.showPadded 4 n ++ '-' :: rest) =
      some ((n : Int), '-' :: rest) := by
  have hLength : (Text.showPadded 4 n).length = 4 :=
    Text.length_showPadded (by decide) (by omega)
  have hTake :
      takeDigits 4 (Text.showPadded 4 n ++ '-' :: rest) =
        some (n, '-' :: rest) :=
    takeDigits_showPadded (by omega) (by simp [hLength])
  rw [takeYear, Text.trimStart_showPadded]
  cases hDigits : Text.showPadded 4 n with
  | nil => exact absurd hDigits (Text.showPadded_ne_nil _ _)
  | cons c cs =>
      have hc : Text.isDigit c = true :=
        Text.isDigit_of_mem_showPadded (hDigits ▸ List.mem_cons_self)
      rw [hDigits, List.cons_append] at hTake
      rw [List.cons_append]
      split
      · rename_i hMinus
        cases hMinus
        exact absurd hc (by decide)
      · rename_i hPlus
        cases hPlus
        exact absurd hc (by decide)
      · rw [hTake, Option.map_some]

/- A year is read up to the mark behind it. -/
theorem takeYear_writeYear
    (year : Int)
    (rest : List Char) :
    takeYear (writeYear year ++ '-' :: rest) =
      some (year, '-' :: rest) := by
  unfold writeYear
  split
  · rw [List.cons_append, takeYear, Text.trimStart_cons (by decide)]
    simp only [takeDigits_year, Option.map_some, Option.some.injEq,
      Prod.mk.injEq, and_true]
    omega
  · split
    · rw [takeYear_showPadded (by omega)]
      simp only [Option.some.injEq, Prod.mk.injEq, and_true]
      omega
    · rw [List.cons_append, takeYear, Text.trimStart_cons (by decide)]
      simp only [takeDigits_year, Option.map_some, Option.some.injEq,
        Prod.mk.injEq, and_true]
      omega

/- Digits behind a point count for billionths. -/
theorem takeFraction_showPadded
    {width n : Nat}
    (hWidth : 0 < width)
    (hMost : width ≤ 9)
    (hFits : n < 10 ^ width)
    {mark : Char}
    (hMark : Text.isDigit mark = false)
    (rest : List Char) :
    takeFraction ('.' :: Text.showPadded width n ++ mark :: rest) =
      some (n * 10 ^ (9 - width), mark :: rest) := by
  have hLength := Text.length_showPadded hWidth hFits
  have hAll :
      ∀ c ∈ Text.showPadded width n, Text.isDigit c = true :=
    fun c => Text.isDigit_of_mem_showPadded
  have hTaken :
      (Text.showPadded width n ++ mark :: rest).takeWhile
        Text.isDigit = Text.showPadded width n := by
    rw [List.takeWhile_append_of_pos hAll,
      List.takeWhile_cons_of_neg (by simp [hMark]), List.append_nil]
  have hKept :
      (Text.showPadded width n).take 9 = Text.showPadded width n :=
    List.take_of_length_le (by omega)
  have hEmpty : (Text.showPadded width n).isEmpty = false := by
    simpa using Text.showPadded_ne_nil width n
  simp [takeFraction, hTaken, hKept, hEmpty, hLength]

/- A fraction is read up to the mark behind it. -/
theorem takeFraction_writeFraction
    {nano : Nat}
    (hNano : nano < 1000000000)
    {mark : Char}
    (hMark : Text.isDigit mark = false)
    (hPoint : mark ≠ '.')
    (rest : List Char) :
    takeFraction (writeFraction nano ++ mark :: rest) =
      some (nano, mark :: rest) := by
  unfold writeFraction
  split
  · rename_i hZero
    rw [List.nil_append, takeFraction, eq_of_beq hZero]
    intro after hAfter
    exact hPoint (List.cons.inj hAfter).1
  · split
    · rename_i hThree
      have hWhole := eq_of_beq hThree
      rw [takeFraction_showPadded (by decide) (by decide) (by omega)
        hMark]
      simp only [Option.some.injEq, Prod.mk.injEq, and_true]
      omega
    · split
      · rename_i hSix
        have hWhole := eq_of_beq hSix
        rw [takeFraction_showPadded (by decide) (by decide)
          (by omega) hMark]
        simp only [Option.some.injEq, Prod.mk.injEq, and_true]
        omega
      · rw [takeFraction_showPadded (by decide) (by decide) hNano
          hMark]
        simp

------------------------------------------------------------
-- Leap Seconds
------------------------------------------------------------

/- A leap second, if the moment is in one, ends a minute. -/
def isSettled (m : Moment) : Bool :=
  m.nano < 1000000000 || m.second == 59

/-
  The moment that is read where a moment was written: a leap
  second that does not end a minute becomes the next second.
-/
def settled (m : Moment) : Moment :=
  if m.isSettled then m
  else
    { m with second := m.second + 1, nano := m.nano - 1000000000 }

theorem settled_of_isSettled
    {m : Moment}
    (hSettled : m.isSettled = true) :
    m.settled = m := by
  rw [settled, if_pos hSettled]

/- Only moments in a leap second inside a minute are changed. -/
theorem settled_eq_self_iff (m : Moment) :
    m.settled = m ↔ m.isSettled = true := by
  refine ⟨?_, settled_of_isSettled⟩
  intro hSame
  by_contra hInside
  rw [settled, if_neg hInside] at hSame
  have hSecond := congrArg Moment.second hSame
  exact Nat.succ_ne_self m.second hSecond

/- What is shown of a moment is a second and its billionths. -/
theorem shown_lt
    {m : Moment}
    (hValid : m.isValid = true) :
    m.shown.1 ≤ 60 ∧ m.shown.2 < 1000000000 := by
  simp only [isValid, Bool.and_eq_true, decide_eq_true_eq] at hValid
  unfold shown
  split <;> dsimp only <;> omega

/- What is shown of a moment is read as the moment it settles to. -/
theorem ofClock_shown
    {m : Moment}
    (hValid : m.isValid = true) :
    ofClock m.date m.hour m.minute m.shown.1 m.shown.2 =
      m.settled := by
  rcases m with ⟨date, hour, minute, second, nano⟩
  simp only [isValid, Bool.and_eq_true, decide_eq_true_eq] at hValid
  rcases hValid with ⟨⟨_, hSecond⟩, _⟩
  by_cases hOrdinary : nano < 1000000000
  · have hNot : second ≠ 60 := by omega
    simp [shown, ofClock, settled, isSettled, hOrdinary, hNot]
  · by_cases hLast : second = 59
    · subst hLast
      have hAll : 1000000000 + (nano - 1000000000) = nano := by omega
      simp [shown, ofClock, settled, isSettled, hOrdinary, hAll]
    · simp [shown, ofClock, settled, isSettled, hOrdinary, hLast]

/- A moment settles to one within the bounds. -/
theorem isValid_settled
    {m : Moment}
    (hValid : m.isValid = true) :
    m.settled.isValid = true := by
  unfold settled
  split
  · exact hValid
  · rename_i hInside
    simp only [isSettled, Bool.or_eq_true, decide_eq_true_eq,
      beq_iff_eq] at hInside
    simp only [isValid, Bool.and_eq_true, decide_eq_true_eq]
      at hValid ⊢
    refine ⟨⟨hValid.1.1, ?_⟩, ?_⟩ <;> omega

------------------------------------------------------------
-- Whole Moments
------------------------------------------------------------

/- Universal time is ahead of itself by nothing. -/
theorem atOffset?_zero
    {m : Moment}
    (hValid : m.isValid = true) :
    m.atOffset? 0 = some m := by
  have hParts := hValid
  simp only [isValid, Bool.and_eq_true, decide_eq_true_eq] at hParts
  rcases hParts with ⟨⟨⟨⟨_, hHour⟩, hMinute⟩, _⟩, _⟩
  have hLow : ¬ (m.hour * 60 + m.minute - 0 : Int) < 0 := by omega
  have hHigh : ¬ 1440 ≤ (m.hour * 60 + m.minute - 0 : Int) := by
    omega
  have hHours :
      ((m.hour * 60 + m.minute - 0 : Int) % 1440).toNat / 60 =
        m.hour := by
    omega
  have hMinutes :
      ((m.hour * 60 + m.minute - 0 : Int) % 1440).toNat % 60 =
        m.minute := by
    omega
  simp only [atOffset?, hLow, hHigh, hHours, hMinutes, if_false]
  simp [hValid]

/- A clock is read with any offset that stands for none. -/
theorem readChars?_writeClock
    {m : Moment}
    (hValid : m.isValid = true)
    {mark : Char}
    (hMark : Text.isDigit mark = false)
    (hPoint : mark ≠ '.')
    {rest : List Char}
    (hOffset :
      takeOffset (Text.trimStart (mark :: rest)) = some (0, [])) :
    readChars? (m.writeClock ++ mark :: rest) = some m.settled := by
  rcases shown_lt hValid with ⟨hShown, hBillionths⟩
  have hParts := hValid
  simp only [isValid, Date.isValid, Bool.and_eq_true,
    decide_eq_true_eq] at hParts
  rcases hParts with ⟨⟨⟨⟨hDate, hHour⟩, hMinute⟩, _⟩, _⟩
  rcases hDate with ⟨⟨⟨_, hMonth⟩, _⟩, hDay⟩
  have hDays : Date.daysIn m.date.year m.date.month ≤ 31 := by
    unfold Date.daysIn
    split
    · split <;> decide
    · split <;> decide
  simp only [readChars?, writeClock, List.append_assoc,
    List.cons_append]
  rw [takeYear_writeYear]
  dsimp only [Option.bind_eq_bind, Option.bind_some]
  rw [dropMark_cons (by decide), Option.bind_some,
    takeField_showPadded (by omega), Option.bind_some,
    dropMark_cons (by decide), Option.bind_some,
    takeField_showPadded (by omega), Option.bind_some,
    dropSeparator_T, Option.bind_some,
    takeField_showPadded (by omega), Option.bind_some,
    dropMark_cons (by decide), Option.bind_some,
    takeField_showPadded (by omega), Option.bind_some,
    dropMark_cons (by decide), Option.bind_some,
    takeField_showPadded (by omega), Option.bind_some,
    takeFraction_writeFraction hBillionths hMark hPoint,
    Option.bind_some]
  simp only [hOffset, Option.bind_some]
  rw [ofClock_shown hValid]
  exact atOffset?_zero (isValid_settled hValid)

/- A moment is read back from its text, settled. -/
theorem read?_writeWithOffset
    {m : Moment}
    (hValid : m.isValid = true) :
    read? m.writeWithOffset = some m.settled := by
  rw [read?, writeWithOffset, String.toList_ofList]
  exact readChars?_writeClock hValid (by decide) (by decide)
    (by decide)

end Moment

end Gleaner
