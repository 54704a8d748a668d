import Gleaner.Text.Decimal

/-
  Numbers inside running text: a scan for runs of digits with
  thousands separators and a fraction, and the strict form
  that a price takes.

  Key definitions include:
    * `Decimal.takeGroups`
    * `Decimal.takeFraction`
    * `Decimal.takeNumber?`
    * `Decimal.scan`
    * `Decimal.isStrict`
    * `Decimal.values`
-/

namespace Gleaner

namespace Decimal

open Text (isDecimalDigit)

------------------------------------------------------------
-- One Number
------------------------------------------------------------

/-
  The longest run of groups of a comma and three digits, and
  what follows it.
-/
def takeGroups : List Char → List Char × List Char
  | ',' :: a :: b :: c :: rest =>
      if isDecimalDigit a && isDecimalDigit b && isDecimalDigit c then
        let (groups, rest) := takeGroups rest
        (',' :: a :: b :: c :: groups, rest)
      else
        ([], ',' :: a :: b :: c :: rest)
  | cs => ([], cs)

/- A point with at least one digit behind it, and what follows. -/
def takeFraction : List Char → List Char × List Char
  | '.' :: rest =>
      match rest.takeWhile isDecimalDigit with
      | [] => ([], '.' :: rest)
      | digits => ('.' :: digits, rest.dropWhile isDecimalDigit)
  | cs => ([], cs)

/-
  The number that a text starts with, and what follows it.  Up
  to three digits may be followed by groups; a longer run of
  digits stands alone.
-/
def takeNumber? (cs : List Char) : Option (List Char × List Char) :=
  match cs.takeWhile isDecimalDigit with
  | [] => none
  | digits =>
      let rest := cs.dropWhile isDecimalDigit
      let (groups, rest) :=
        if digits.length ≤ 3 then takeGroups rest else ([], rest)
      let (fraction, rest) := takeFraction rest
      some (digits ++ groups ++ fraction, rest)

------------------------------------------------------------
-- All Numbers
------------------------------------------------------------

/- Groups and what follows them make up the text. -/
theorem takeGroups_append (cs : List Char) :
    (takeGroups cs).1 ++ (takeGroups cs).2 = cs := by
  fun_induction takeGroups cs with
  | case1 a b c rest h groups rest' heq ih =>
      simp only [heq] at ih
      simp [ih]
  | case2 => simp
  | case3 => simp

/- A fraction and what follows it make up the text. -/
theorem takeFraction_append (cs : List Char) :
    (takeFraction cs).1 ++ (takeFraction cs).2 = cs := by
  unfold takeFraction
  split
  · split
    · simp
    · simp
  · simp

/- A number and what follows it make up the text. -/
theorem takeNumber?_append
    {cs number rest : List Char}
    (h : takeNumber? cs = some (number, rest)) :
    number ++ rest = cs := by
  unfold takeNumber? at h
  split at h
  · simp at h
  · simp only [Option.some.injEq, Prod.mk.injEq] at h
    rcases h with ⟨rfl, rfl⟩
    split
    · have hg := takeGroups_append (cs.dropWhile isDecimalDigit)
      have hf := takeFraction_append
        (takeGroups (cs.dropWhile isDecimalDigit)).2
      rw [List.append_assoc, hf, List.append_assoc, hg,
        List.takeWhile_append_dropWhile]
    · have hf := takeFraction_append (cs.dropWhile isDecimalDigit)
      rw [List.append_assoc, hf, List.append_nil,
        List.takeWhile_append_dropWhile]

/- A number is not empty. -/
theorem takeNumber?_ne_nil
    {cs number rest : List Char}
    (h : takeNumber? cs = some (number, rest)) :
    number ≠ [] := by
  unfold takeNumber? at h
  split at h
  · simp at h
  · rename_i digits hne
    simp only [Option.some.injEq, Prod.mk.injEq] at h
    rcases h with ⟨rfl, _⟩
    simp_all

/- What follows a number is shorter than the text. -/
theorem takeNumber?_length
    {cs number rest : List Char}
    (h : takeNumber? cs = some (number, rest)) :
    rest.length < cs.length := by
  have ha := congrArg List.length (takeNumber?_append h)
  have hn := List.length_pos_iff.mpr (takeNumber?_ne_nil h)
  simp only [List.length_append] at ha
  omega

/-
  The numbers of a text from left to right, each as long as it
  can be and none overlapping the one before.
-/
def scan (cs : List Char) : List (List Char) :=
  match cs with
  | [] => []
  | c :: rest =>
      match _h : takeNumber? (c :: rest) with
      | some (number, after) => number :: scan after
      | none => scan rest
termination_by cs.length
decreasing_by
  · exact takeNumber?_length _h
  · simp

------------------------------------------------------------
-- Strict Decimals
------------------------------------------------------------

/- At most two digits behind a point, or nothing at all. -/
def isShortFraction : List Char → Bool
  | [] => true
  | ['.', a] => isDecimalDigit a
  | ['.', a, b] => isDecimalDigit a && isDecimalDigit b
  | _ => false

/-
  A number without a leading zero, with at most two digits
  behind the point.
-/
def isStrict : List Char → Bool
  | [] => false
  | c :: rest =>
      (49 ≤ c.toNat && c.toNat ≤ 57) &&
        isShortFraction (rest.dropWhile isDecimalDigit)

/-
  The strict decimals of a text.  Thousands separators are
  dropped before the form is checked.
-/
def valuesOf (cs : List Char) : List (List Char) :=
  ((scan cs).map (·.filter (· != ','))).filter isStrict

/- The strict decimals of a text. -/
def values (s : String) : List String :=
  (valuesOf s.toList).map String.ofList

end Decimal

end Gleaner
