import Gleaner.Proofs.Decimal.Number

/-
  Where the scan of a text begins and ends its numbers, and when
  a digit stands right before or right behind one: a number is cut
  out of a longer run of digits only at the end of a group.

  Main declarations:
    * `Decimal.Find`
    * `Decimal.finds`
    * `Decimal.IsOverlong`
    * `Decimal.values_eq_filterMap`
    * `Decimal.exists_isOverlong`
    * `Decimal.exists_split_of_isOverlong`
    * `Decimal.finds_edges`
-/

namespace Gleaner

namespace Decimal

open Text (isDecimalDigit)

------------------------------------------------------------
-- Numbers in Their Text
------------------------------------------------------------

/- A number that was found, and the text on its two sides. -/
structure Find where
  before : List Char
  number : List Char
  after : List Char
deriving DecidableEq, Repr

/- The numbers of a text of which `before` has been read. -/
def findsFrom (before cs : List Char) : List Find :=
  match cs with
  | [] => []
  | c :: rest =>
      match _h : takeNumber? (c :: rest) with
      | some (number, after) =>
          ⟨before, number, after⟩ ::
            findsFrom (before ++ number) after
      | none => findsFrom (before ++ [c]) rest
termination_by cs.length
decreasing_by
  · exact takeNumber?_length _h
  · simp

/- The numbers of a text. -/
def finds (cs : List Char) : List Find :=
  findsFrom [] cs

/- The value of a number, if it is a strict decimal. -/
def Find.value? (f : Find) : Option String :=
  let digits := f.number.filter (· != ',')
  if isStrict digits then some (String.ofList digits) else none

/- No digit stands right before or right behind the number. -/
structure Find.IsWhole (f : Find) : Prop where
  before : endsInDigit f.before = false
  after : startsInDigit f.after = false

------------------------------------------------------------
-- The Numbers of a Text
------------------------------------------------------------

variable {before cs : List Char}

/- The numbers are those of the scan. -/
theorem map_number_findsFrom (before cs : List Char) :
    (findsFrom before cs).map Find.number = scan cs := by
  fun_induction findsFrom before cs with
  | case1 => simp [scan]
  | case2 before c rest number after hTake ih =>
      rw [scan, List.map_cons, ih]
      split
      · rename_i number' after' hTake'
        rw [hTake] at hTake'
        cases hTake'
        rfl
      · rename_i hTake'
        rw [hTake] at hTake'
        cases hTake'
  | case3 before c rest hTake ih =>
      rw [scan, ih]
      split
      · rename_i hTake'
        rw [hTake] at hTake'
        cases hTake'
      · rfl

/- The strict decimals of a text are the values of its numbers. -/
theorem values_eq_filterMap (s : String) :
    values s = (finds s.toList).filterMap Find.value? := by
  have hScan := map_number_findsFrom [] s.toList
  rw [values, valuesOf, ← hScan, ← finds]
  induction finds s.toList with
  | nil => rfl
  | cons f fs ih =>
      cases hStrict : isStrict (f.number.filter (· != ',')) with
      | true => simpa [Find.value?, hStrict] using ih
      | false => simpa [Find.value?, hStrict] using ih

/- A number is taken from where it stands, and it stands in the text. -/
theorem of_mem_findsFrom
    {f : Find}
    (hFind : f ∈ findsFrom before cs) :
    f.before ++ f.number ++ f.after = before ++ cs ∧
      takeNumber? (f.number ++ f.after) = some (f.number, f.after) := by
  fun_induction findsFrom before cs with
  | case1 => cases hFind
  | case2 before c rest number after hTake ih =>
      have hWhole := takeNumber?_append hTake
      rcases List.mem_cons.mp hFind with rfl | hRest
      · dsimp only
        rw [List.append_assoc, hWhole]
        exact ⟨rfl, hTake⟩
      · rw [← hWhole, ← List.append_assoc]
        exact ih hRest
  | case3 before c rest hTake ih =>
      rw [← List.append_cons] at ih
      exact ih hFind

/- A number is made of digits, groups and a fraction. -/
theorem isNumber_of_mem_findsFrom
    {f : Find}
    (hFind : f ∈ findsFrom before cs) :
    ∃ lead groups fraction,
      f.number = lead ++ groups ++ fraction ∧
        IsNumber lead groups fraction f.after :=
  takeNumber?_cases (of_mem_findsFrom hFind).2

/-
  A digit stands before a number only if it is the first of what
  is left to be read, or if the number before it ends there.
-/
theorem endsInDigit_before_cases
    {f : Find}
    (hFind : f ∈ findsFrom before cs)
    (hDigit : endsInDigit f.before = true) :
    f.before = before ∨
      ∃ g ∈ findsFrom before cs, g.before ++ g.number = f.before := by
  fun_induction findsFrom before cs with
  | case1 => cases hFind
  | case2 before c rest number after hTake ih =>
      rcases List.mem_cons.mp hFind with rfl | hRest
      · exact .inl rfl
      · rcases ih hRest with hHere | ⟨g, hg, hEnd⟩
        · exact .inr ⟨_, List.mem_cons_self, hHere.symm⟩
        · exact .inr ⟨g, List.mem_cons_of_mem _ hg, hEnd⟩
  | case3 before c rest hTake ih =>
      rcases ih hFind with hHere | hEarlier
      · rw [takeNumber?_eq_none_iff] at hTake
        have hOther : isDecimalDigit c = false := by
          simpa [startsInDigit] using hTake
        rw [hHere] at hDigit
        simp [endsInDigit, hOther] at hDigit
      · exact .inr hEarlier

/- A digit stands before a number exactly if another ends there. -/
theorem endsInDigit_before_iff
    {f : Find}
    (hFind : f ∈ finds cs) :
    endsInDigit f.before = true ↔
      ∃ g ∈ finds cs, g.before ++ g.number = f.before := by
  constructor
  · intro hDigit
    rcases endsInDigit_before_cases hFind hDigit with hStart | hEarlier
    · rw [hStart] at hDigit
      cases hDigit
    · exact hEarlier
  · rintro ⟨g, hg, hEnd⟩
    rcases isNumber_of_mem_findsFrom hg with
      ⟨lead, groups, fraction, hNumber, hIs⟩
    rw [← hEnd, hNumber]
    exact hIs.endsInDigit g.before

/- A number that begins where another ends begins with a digit. -/
theorem startsInDigit_after_of_meet
    {f g : Find}
    (hFind : f ∈ finds cs)
    (hg : g ∈ finds cs)
    (hEnd : g.before ++ g.number = f.before) :
    startsInDigit g.after = true := by
  rcases of_mem_findsFrom hFind with ⟨hText, hTake⟩
  rcases of_mem_findsFrom hg with ⟨hText', _⟩
  rw [hEnd, ← hText, List.append_assoc, List.append_cancel_left_eq]
    at hText'
  rw [hText', ← Bool.not_eq_false, ← takeNumber?_eq_none_iff, hTake]
  exact Option.some_ne_none _

------------------------------------------------------------
-- Numbers That Are Cut
------------------------------------------------------------

/-
  Behind `front`, up to three digits that begin there are
  followed by groups, and another digit follows these.
-/
structure IsOverlong (front number back : List Char) : Prop where
  before : endsInDigit front = false
  grouped : IsGrouped number
  after : startsInDigit back = true

/-
  If a digit follows one of the numbers, then the first of these
  is overlong: the reading begins it behind no digit.
-/
theorem exists_isOverlong
    (hEdge : endsInDigit before = true → startsInDigit cs = false)
    {f : Find}
    (hFind : f ∈ findsFrom before cs)
    (hDigit : startsInDigit f.after = true) :
    ∃ g ∈ findsFrom before cs, IsOverlong g.before g.number g.after := by
  fun_induction findsFrom before cs with
  | case1 => cases hFind
  | case2 before c rest number after hTake ih =>
      cases hSplit : startsInDigit after with
      | true =>
          refine ⟨_, List.mem_cons_self, ?_,
            isGrouped_of_startsInDigit hTake hSplit, hSplit⟩
          rw [← Bool.not_eq_true]
          intro hEnd
          rw [takeNumber?_eq_none_iff.mpr (hEdge hEnd)] at hTake
          cases hTake
      | false =>
          rcases List.mem_cons.mp hFind with rfl | hRest
          · rw [hSplit] at hDigit
            cases hDigit
          · rcases ih (fun _ => hSplit) hRest with ⟨g, hg, hIs⟩
            exact ⟨g, List.mem_cons_of_mem _ hg, hIs⟩
  | case3 before c rest hTake ih =>
      rw [takeNumber?_eq_none_iff] at hTake
      have hOther : isDecimalDigit c = false := by
        simpa [startsInDigit] using hTake
      apply ih _ hFind
      intro hEnd
      simp [endsInDigit, hOther] at hEnd

/-
  An overlong number makes the reading end a number in front of a
  digit, unless a point stands before it.
-/
theorem exists_split_of_isOverlong
    (before : List Char)
    {front number back : List Char}
    (hOverlong : IsOverlong front number back)
    (hPoint : front.getLast? ≠ some '.')
    (hText : cs = front ++ (number ++ back)) :
    ∃ f ∈ findsFrom before cs, startsInDigit f.after = true := by
  have hTaken :=
    takeNumber?_of_isGrouped hOverlong.grouped hOverlong.after
  fun_induction findsFrom before cs generalizing front with
  | case1 =>
      rw [eq_comm, List.append_eq_nil_iff, List.append_eq_nil_iff] at hText
      rcases hText with ⟨_, _, rfl⟩
      cases hOverlong.after
  | case2 before c rest number' after hTake ih =>
      have hWhole := takeNumber?_append hTake
      rw [hText] at hWhole
      rcases List.append_eq_append_iff.mp hWhole with
        ⟨late, rfl, hAfter⟩ | ⟨early, hEarly, hMeet⟩
      · -- the number ends before the place, or right at it
        have hLate : IsOverlong late number back :=
          ⟨endsInDigit_of_append _ hOverlong.before, hOverlong.grouped,
            hOverlong.after⟩
        have hLatePoint : late.getLast? ≠ some '.' := by
          intro hLast
          apply hPoint
          rw [List.getLast?_append, hLast, Option.some_or]
        rcases ih hLate hLatePoint hAfter with ⟨f, hFind, hDigit⟩
        exact ⟨f, List.mem_cons_of_mem _ hFind, hDigit⟩
      · -- the number reaches over the place
        refine ⟨_, List.mem_cons_self, ?_⟩
        by_cases hFront : front = []
        · subst hFront
          rw [hText, List.nil_append, hTaken] at hTake
          cases hTake
          exact hOverlong.after
        · rcases takeNumber?_cases hTake with
            ⟨lead, groups, fraction, rfl, hNumber⟩
          rcases hNumber.exists_of_cut hEarly hFront
              hOverlong.before hPoint with
            ⟨hSome, a, b, d, more, rfl, hDigits, hMore⟩
          exact startsInDigit_of_meet hDigits hMore hNumber.fractional
            (hNumber.longest hSome) hOverlong.grouped hOverlong.after
            hMeet
  | case3 before c rest hTake ih =>
      cases front with
      | nil =>
          rw [hText, List.nil_append, hTaken] at hTake
          cases hTake
      | cons d front =>
          rw [List.cons_append, List.cons.injEq] at hText
          rcases hText with ⟨rfl, rfl⟩
          have hLate : IsOverlong front number back :=
            ⟨endsInDigit_of_append [c] hOverlong.before,
              hOverlong.grouped, hOverlong.after⟩
          apply ih hLate _ rfl
          intro hLast
          apply hPoint
          rw [List.getLast?_cons, hLast]
          rfl

------------------------------------------------------------
-- Whole Numbers
------------------------------------------------------------

/-
  A number that is not whole has a digit behind it, or the number
  that ends where it begins has.
-/
theorem exists_split_of_not_isWhole
    {f : Find}
    (hFind : f ∈ finds cs)
    (hCut : ¬ f.IsWhole) :
    ∃ g ∈ finds cs, startsInDigit g.after = true := by
  by_contra hNone
  apply hCut
  constructor
  · rw [← Bool.not_eq_true]
    intro hDigit
    rcases (endsInDigit_before_iff hFind).mp hDigit with ⟨g, hg, hEnd⟩
    exact hNone ⟨g, hg, startsInDigit_after_of_meet hFind hg hEnd⟩
  · rw [← Bool.not_eq_true]
    exact fun hDigit => hNone ⟨f, hFind, hDigit⟩

/-
  The values of a text are those of its numbers.  A digit follows
  a number only if it ends in a group, and a digit stands before a
  number exactly if another number ends there.

  So all numbers are whole if at no place behind no digit there
  are groups in front of a digit; and they are whole only if there
  are such groups at most behind a point, which may make a fraction
  of their first digits.
-/
theorem finds_edges (s : String) :
    values s = (finds s.toList).filterMap Find.value? ∧
    (∀ f ∈ finds s.toList,
      f.before ++ f.number ++ f.after = s.toList ∧
      (startsInDigit f.after = true → IsGrouped f.number) ∧
      (endsInDigit f.before = true ↔
        ∃ g ∈ finds s.toList, g.before ++ g.number = f.before)) ∧
    ((∀ front number back, s.toList = front ++ (number ++ back) →
        ¬ IsOverlong front number back) →
      ∀ f ∈ finds s.toList, f.IsWhole) ∧
    ((∀ f ∈ finds s.toList, f.IsWhole) →
      ∀ front number back, s.toList = front ++ (number ++ back) →
        IsOverlong front number back → front.getLast? = some '.') := by
  refine ⟨values_eq_filterMap s, ?_, ?_, ?_⟩
  · intro f hFind
    rcases of_mem_findsFrom hFind with ⟨hText, hTake⟩
    exact ⟨hText, isGrouped_of_startsInDigit hTake,
      endsInDigit_before_iff hFind⟩
  · intro hNone f hFind
    by_contra hCut
    rcases exists_split_of_not_isWhole hFind hCut with ⟨g, hg, hDigit⟩
    have hStart : endsInDigit [] = true →
        startsInDigit s.toList = false :=
      fun hEnd => absurd hEnd Bool.false_ne_true
    rcases exists_isOverlong hStart hg hDigit with ⟨h, hh, hOverlong⟩
    have hText := (of_mem_findsFrom hh).1
    rw [List.append_assoc] at hText
    exact hNone _ _ _ hText.symm hOverlong
  · intro hWhole front number back hText hOverlong
    by_contra hPoint
    rcases exists_split_of_isOverlong [] hOverlong hPoint hText with
      ⟨f, hFind, hDigit⟩
    rw [(hWhole f hFind).after] at hDigit
    cases hDigit

/-
  A group is taken from the digits behind a comma though they are
  more than three: the last one is left over, and is another number.
-/
theorem overlong_group_is_cut :
    finds "1,2345".toList =
        [⟨[], "1,234".toList, ['5']⟩, ⟨"1,234".toList, ['5'], []⟩] ∧
      (∀ f ∈ finds "1,2345".toList, ¬ f.IsWhole) ∧
      values "1,2345" = ["1234", "5"] := by
  have hFinds : finds "1,2345".toList =
      [⟨[], "1,234".toList, ['5']⟩, ⟨"1,234".toList, ['5'], []⟩] := by
    decide +kernel
  refine ⟨hFinds, ?_, by decide +kernel⟩
  rw [hFinds]
  intro f hFind hWhole
  simp only [List.mem_cons, List.not_mem_nil, or_false] at hFind
  rcases hFind with rfl | rfl
  · exact absurd hWhole.after (by decide)
  · exact absurd hWhole.before (by decide)

end Decimal

end Gleaner
