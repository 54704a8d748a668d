import Gleaner.Decimal.Scan
import Gleaner.Proofs.Text.Pieces
import Mathlib.Data.List.TakeWhile

/-
  What a number in a running text is made of: digits, groups of a
  comma and three digits, and a fraction.  The taking of a number
  stops where no more of these can be taken, and there it leaves
  a digit only behind groups.

  Main declarations:
    * `Decimal.IsGroups`
    * `Decimal.IsNumber`
    * `Decimal.IsGrouped`
    * `Decimal.takeNumber?_cases`
    * `Decimal.takeNumber?_append_of_digits`
    * `Decimal.takeNumber?_of_isGrouped`
    * `Decimal.takeNumber?_of_isFraction`
    * `Decimal.IsNumber.exists_of_cut`
-/

namespace Gleaner

namespace Decimal

open Text (isDecimalDigit)

------------------------------------------------------------
-- Digits at the Ends of a Text
------------------------------------------------------------

/- There are only digits in the text. -/
def AllDigits (cs : List Char) : Prop :=
  ∀ c ∈ cs, isDecimalDigit c = true

/- The text begins with a digit. -/
def startsInDigit (cs : List Char) : Bool :=
  cs.head?.any isDecimalDigit

/- The text ends with a digit. -/
def endsInDigit (cs : List Char) : Bool :=
  cs.getLast?.any isDecimalDigit

/- A comma is no digit, and a point is none. -/
theorem isDecimalDigit_comma_point :
    isDecimalDigit ',' = false ∧ isDecimalDigit '.' = false := by
  decide

/- There is no comma among digits. -/
theorem filter_eq_self_of_allDigits
    {digits : List Char}
    (hDigits : AllDigits digits) :
    digits.filter (· != ',') = digits := by
  rw [List.filter_eq_self]
  intro c hc
  rw [bne_iff_ne]
  rintro rfl
  have hComma := hDigits ',' hc
  rw [isDecimalDigit_comma_point.1] at hComma
  cases hComma

/- What follows all digits at a start begins with no digit. -/
theorem startsInDigit_dropWhile (cs : List Char) :
    startsInDigit (cs.dropWhile isDecimalDigit) = false := by
  induction cs with
  | nil => rfl
  | cons c cs ih =>
      rw [List.dropWhile_cons]
      split
      · exact ih
      · rename_i hOther
        simpa [startsInDigit] using hOther

/- The digits in front of something else are all that begin a text. -/
theorem takeWhile_digits
    {digits rest : List Char}
    (hDigits : AllDigits digits)
    (hRest : startsInDigit rest = false) :
    (digits ++ rest).takeWhile isDecimalDigit = digits ∧
      (digits ++ rest).dropWhile isDecimalDigit = rest := by
  have hStop : ∀ c ∈ rest.head?, isDecimalDigit c = false := by
    simpa [startsInDigit, Option.any_eq_false] using hRest
  exact ⟨Text.takeWhile_append_of_stop hDigits hStop,
    Text.dropWhile_append_of_stop hDigits hStop⟩

/- Digits at the end of a text are the end of it. -/
theorem endsInDigit_append
    (cs : List Char)
    {ds : List Char}
    (hSome : ds ≠ [])
    (hDigits : AllDigits ds) :
    endsInDigit (cs ++ ds) = true := by
  rw [endsInDigit, List.getLast?_append_of_ne_nil _ hSome,
    List.getLast?_eq_some_getLast hSome]
  exact hDigits _ (List.getLast_mem hSome)

/- What ends with no digit ends with none without a start. -/
theorem endsInDigit_of_append
    (front : List Char)
    {cs : List Char}
    (hEnd : endsInDigit (front ++ cs) = false) :
    endsInDigit cs = false := by
  cases cs with
  | nil => rfl
  | cons c cs =>
      rwa [endsInDigit,
        List.getLast?_append_of_ne_nil _ (List.cons_ne_nil c cs)] at hEnd

/- A part of a text of digits ends with a digit. -/
theorem endsInDigit_of_allDigits_append
    {front back : List Char}
    (hDigits : AllDigits (front ++ back))
    (hSome : front ≠ [])
    (cs : List Char) :
    endsInDigit (cs ++ front) = true :=
  endsInDigit_append cs hSome fun c hc =>
    hDigits c (List.mem_append_left back hc)

------------------------------------------------------------
-- Groups and Fractions
------------------------------------------------------------

/- Groups of a comma and three digits. -/
inductive IsGroups : List Char → Prop
  | nil : IsGroups []
  | cons
      {a b c : Char}
      {groups : List Char}
      (hDigits : AllDigits [a, b, c])
      (hRest : IsGroups groups) :
      IsGroups (',' :: a :: b :: c :: groups)

/- Nothing, or a point and at least one digit. -/
def IsFraction (cs : List Char) : Prop :=
  cs = [] ∨ ∃ digits, cs = '.' :: digits ∧ digits ≠ [] ∧
    AllDigits digits

/- No group can be taken from a text. -/
def HasNoGroup (cs : List Char) : Prop :=
  ∀ a b c rest, cs = ',' :: a :: b :: c :: rest →
    ¬ AllDigits [a, b, c]

/- What is taken as groups are groups, and no other follows. -/
theorem takeGroups_spec (cs : List Char) :
    IsGroups (takeGroups cs).1 ∧ HasNoGroup (takeGroups cs).2 := by
  fun_induction takeGroups cs with
  | case1 a b c rest hDigits groups more hTake ih =>
      simp only [Bool.and_eq_true] at hDigits
      rw [hTake] at ih
      refine ⟨.cons ?_ ih.1, ih.2⟩
      simpa [AllDigits, and_assoc] using hDigits
  | case2 a b c rest hNone =>
      refine ⟨.nil, ?_⟩
      intro a' b' c' rest' hSame hDigits
      cases hSame
      simp_all [AllDigits]
  | case3 cs hShort =>
      refine ⟨.nil, ?_⟩
      intro a b c rest hSame
      exact absurd hSame (hShort a b c rest)

/- Groups are taken if no other follows them. -/
theorem takeGroups_append_of_hasNoGroup
    {groups rest : List Char}
    (hGroups : IsGroups groups)
    (hRest : HasNoGroup rest) :
    takeGroups (groups ++ rest) = (groups, rest) := by
  induction hGroups with
  | nil =>
      rw [List.nil_append]
      unfold takeGroups
      split
      · rename_i a b c more
        rw [if_neg]
        have hNone := hRest a b c more rfl
        simpa [AllDigits, and_assoc] using hNone
      · rfl
  | cons hDigits _ ih =>
      simp only [AllDigits, List.forall_mem_cons] at hDigits
      simp [takeGroups, hDigits, ih]

/- Taking groups takes nothing from a text that has none. -/
theorem startsInDigit_takeGroups
    {cs : List Char}
    (hStart : startsInDigit cs = false)
    (hNone : (takeGroups cs).1 = []) :
    startsInDigit (takeGroups cs).2 = false := by
  have hWhole := takeGroups_append cs
  rw [hNone, List.nil_append] at hWhole
  rwa [hWhole]

/- Groups begin with no digit. -/
theorem IsGroups.startsInDigit_append
    {groups : List Char}
    (hGroups : IsGroups groups)
    (hSome : groups ≠ [])
    (rest : List Char) :
    startsInDigit (groups ++ rest) = false := by
  cases hGroups with
  | nil => exact absurd rfl hSome
  | cons _ _ =>
      simp [startsInDigit, isDecimalDigit_comma_point]

/- A text that begins with a digit has no group. -/
theorem hasNoGroup_of_startsInDigit
    {cs : List Char}
    (hDigit : startsInDigit cs = true) :
    HasNoGroup cs := by
  rintro a b c rest rfl
  simp [startsInDigit, isDecimalDigit_comma_point] at hDigit

/- Behind groups there is a digit. -/
theorem endsInDigit_append_groups
    {groups : List Char}
    (hGroups : IsGroups groups)
    {cs : List Char}
    (hDigit : endsInDigit cs = true) :
    endsInDigit (cs ++ groups) = true := by
  induction hGroups generalizing cs with
  | nil => rwa [List.append_nil]
  | @cons a b c groups hDigits _ ih =>
      have hStep : endsInDigit ((cs ++ [',']) ++ [a, b, c]) = true :=
        endsInDigit_append _ (List.cons_ne_nil _ _) hDigits
      simpa using ih hStep

/-
  A fraction is taken, or nothing is; behind a fraction there is
  no digit.
-/
theorem takeFraction_cases (cs : List Char) :
    takeFraction cs = ([], cs) ∨
      (takeFraction cs).1 ≠ [] ∧ IsFraction (takeFraction cs).1 ∧
        startsInDigit (takeFraction cs).2 = false := by
  unfold takeFraction
  split
  · rename_i rest
    split
    · exact .inl rfl
    · rename_i digits hSome
      exact .inr ⟨List.cons_ne_nil _ _,
        .inr ⟨_, rfl, hSome, fun c hc => List.mem_takeWhile_imp hc⟩,
        startsInDigit_dropWhile rest⟩
  · exact .inl rfl

/- A fraction begins with no digit. -/
theorem IsFraction.startsInDigit
    {cs : List Char}
    (hFraction : IsFraction cs) :
    startsInDigit cs = false := by
  rcases hFraction with rfl | ⟨digits, rfl, _⟩
  · rfl
  · simp [Decimal.startsInDigit, isDecimalDigit_comma_point]

/- A fraction begins with no group. -/
theorem IsFraction.hasNoGroup
    {cs : List Char}
    (hFraction : IsFraction cs) :
    HasNoGroup cs := by
  rintro a b c rest rfl
  rcases hFraction with hNone | ⟨digits, hPoint, _⟩
  · cases hNone
  · cases hPoint

/- A fraction with nothing behind it is taken as it is. -/
theorem IsFraction.takeFraction_eq
    {cs : List Char}
    (hFraction : IsFraction cs) :
    takeFraction cs = (cs, []) := by
  rcases hFraction with rfl | ⟨digits, rfl, hSome, hDigits⟩
  · rfl
  · have hEnd : Decimal.startsInDigit [] = false := rfl
    rcases takeWhile_digits hDigits hEnd with ⟨hTaken, hLeft⟩
    rw [List.append_nil] at hTaken hLeft
    rw [takeFraction, hTaken, hLeft]
    split
    · exact absurd rfl hSome
    · rfl

------------------------------------------------------------
-- Numbers
------------------------------------------------------------

/-
  A number has some digits, then groups if the digits are three
  at most, then a fraction.  A digit may follow only if there
  are groups and no fraction.
-/
structure IsNumber
    (lead groups fraction rest : List Char) : Prop where
  filled : lead ≠ []
  digits : AllDigits lead
  grouped : IsGroups groups
  short : groups ≠ [] → lead.length ≤ 3
  fractional : IsFraction fraction
  longest : groups ≠ [] → HasNoGroup (fraction ++ rest)
  ends : startsInDigit rest = true → groups ≠ [] ∧ fraction = []

/-
  Groups are taken as far as they go, or none are if the digits
  in front of them are too many.
-/
theorem ite_takeGroups_cases
    (short : Prop)
    [Decidable short]
    {cs : List Char}
    (hStart : startsInDigit cs = false) :
    ∃ groups more,
      (if short then takeGroups cs else ([], cs)) = (groups, more) ∧
        IsGroups groups ∧
        (groups ≠ [] → short ∧ HasNoGroup more) ∧
        (groups = [] → startsInDigit more = false) := by
  split
  · rename_i hShort
    rcases takeGroups_spec cs with ⟨hGroups, hLongest⟩
    exact ⟨_, _, rfl, hGroups, fun _ => ⟨hShort, hLongest⟩,
      startsInDigit_takeGroups hStart⟩
  · exact ⟨_, _, rfl, .nil, fun hSome => absurd rfl hSome,
      fun _ => hStart⟩

/- All that taking a number can give. -/
theorem takeNumber?_cases
    {cs number rest : List Char}
    (hTake : takeNumber? cs = some (number, rest)) :
    ∃ lead groups fraction,
      number = lead ++ groups ++ fraction ∧
        IsNumber lead groups fraction rest := by
  unfold takeNumber? at hTake
  split at hTake
  · cases hTake
  · rename_i lead hSome
    have hDigits : AllDigits (cs.takeWhile isDecimalDigit) :=
      fun c hc => List.mem_takeWhile_imp hc
    rcases ite_takeGroups_cases
        ((cs.takeWhile isDecimalDigit).length ≤ 3)
        (startsInDigit_dropWhile cs) with
      ⟨groups, more, hTaken, hGroups, hLongest, hNone⟩
    simp only [hTaken, Option.some.injEq, Prod.mk.injEq] at hTake
    rcases hTake with ⟨rfl, rfl⟩
    refine ⟨_, groups, _, rfl, ?_⟩
    rcases takeFraction_cases more with hPlain | ⟨_, hFraction, hEnd⟩
    · rw [hPlain]
      refine ⟨hSome, hDigits, hGroups, fun h => (hLongest h).1,
        .inl rfl, fun h => (hLongest h).2, ?_⟩
      intro hStart
      refine ⟨?_, rfl⟩
      intro hEmpty
      rw [hNone hEmpty] at hStart
      cases hStart
    · refine ⟨hSome, hDigits, hGroups, fun h => (hLongest h).1,
        hFraction, ?_, ?_⟩
      · rw [takeFraction_append]
        exact fun h => (hLongest h).2
      · rw [hEnd]
        intro hStart
        cases hStart

/- A number is taken exactly from a text that begins with a digit. -/
theorem takeNumber?_eq_none_iff {cs : List Char} :
    takeNumber? cs = none ↔ startsInDigit cs = false := by
  cases cs with
  | nil => simp [takeNumber?, startsInDigit]
  | cons c cs =>
      cases hDigit : isDecimalDigit c with
      | true => simp [takeNumber?, startsInDigit, hDigit]
      | false => simp [takeNumber?, startsInDigit, hDigit]

/- A number ends with a digit. -/
theorem IsNumber.endsInDigit
    {lead groups fraction rest : List Char}
    (hNumber : IsNumber lead groups fraction rest)
    (before : List Char) :
    endsInDigit (before ++ (lead ++ groups ++ fraction)) = true := by
  have hLead : Decimal.endsInDigit (before ++ lead) = true :=
    endsInDigit_append before hNumber.filled hNumber.digits
  have hGroups :
      Decimal.endsInDigit (before ++ lead ++ groups) = true :=
    endsInDigit_append_groups hNumber.grouped hLead
  rcases hNumber.fractional with rfl | ⟨digits, rfl, hSome, hDigits⟩
  · simpa using hGroups
  · have hFraction := endsInDigit_append
      (before ++ lead ++ groups ++ ['.']) hSome hDigits
    simpa using hFraction

/- Up to three digits, and at least one group, but no fraction. -/
def IsGrouped (number : List Char) : Prop :=
  ∃ lead groups, number = lead ++ groups ∧
    lead ≠ [] ∧ lead.length ≤ 3 ∧ AllDigits lead ∧
    IsGroups groups ∧ groups ≠ []

/- More digits follow a number only if it is grouped. -/
theorem isGrouped_of_startsInDigit
    {cs number rest : List Char}
    (hTake : takeNumber? cs = some (number, rest))
    (hDigit : startsInDigit rest = true) :
    IsGrouped number := by
  rcases takeNumber?_cases hTake with
    ⟨lead, groups, fraction, rfl, hNumber⟩
  rcases hNumber.ends hDigit with ⟨hSome, rfl⟩
  exact ⟨lead, groups, List.append_nil _, hNumber.filled,
    hNumber.short hSome, hNumber.digits, hNumber.grouped, hSome⟩

/-
  The digits at the start of a text are taken, then the groups
  behind up to three of them, and then a fraction.
-/
theorem takeNumber?_append_of_digits
    {lead groups rest more : List Char}
    (hSome : lead ≠ [])
    (hDigits : AllDigits lead)
    (hRest : startsInDigit rest = false)
    (hGroups :
      (if lead.length ≤ 3 then takeGroups rest else ([], rest)) =
        (groups, more)) :
    takeNumber? (lead ++ rest) =
      some (lead ++ groups ++ (takeFraction more).1,
        (takeFraction more).2) := by
  rcases takeWhile_digits hDigits hRest with ⟨hTaken, hLeft⟩
  unfold takeNumber?
  rw [hTaken, hLeft]
  split
  · exact absurd rfl hSome
  · simp only [hGroups]

/- A grouped number in front of a digit is taken as it is. -/
theorem takeNumber?_of_isGrouped
    {number back : List Char}
    (hGrouped : IsGrouped number)
    (hDigit : startsInDigit back = true) :
    takeNumber? (number ++ back) = some (number, back) := by
  rcases hGrouped with
    ⟨lead, groups, rfl, hSome, hShort, hDigits, hGroups, hMore⟩
  have hTakeGroups := takeGroups_append_of_hasNoGroup hGroups
    (hasNoGroup_of_startsInDigit hDigit)
  have hPlain : takeFraction back = ([], back) := by
    unfold takeFraction
    split
    · simp [startsInDigit, isDecimalDigit_comma_point] at hDigit
    · rfl
  rw [List.append_assoc, takeNumber?_append_of_digits hSome hDigits
    (hGroups.startsInDigit_append hMore back)
    (by rw [if_pos hShort, hTakeGroups]), hPlain, List.append_nil]

/- Digits and a fraction with nothing behind are taken as they are. -/
theorem takeNumber?_of_isFraction
    {lead fraction : List Char}
    (hSome : lead ≠ [])
    (hDigits : AllDigits lead)
    (hFraction : IsFraction fraction) :
    takeNumber? (lead ++ fraction) = some (lead ++ fraction, []) := by
  have hGroups := takeGroups_append_of_hasNoGroup .nil hFraction.hasNoGroup
  rw [List.nil_append] at hGroups
  rw [takeNumber?_append_of_digits hSome hDigits hFraction.startsInDigit
    (by rw [hGroups, ite_self]), hFraction.takeFraction_eq,
    List.append_nil]

------------------------------------------------------------
-- Cuts through a Number
------------------------------------------------------------

/-
  A cut through groups behind something that is no digit is a cut
  behind a comma.
-/
theorem IsGroups.exists_of_cut
    {groups : List Char}
    (hGroups : IsGroups groups)
    {front back : List Char}
    (hCut : groups = front ++ back)
    (hSome : front ≠ [])
    (hEnd : endsInDigit front = false) :
    ∃ a b c more, back = a :: b :: c :: more ∧
      AllDigits [a, b, c] ∧ IsGroups more := by
  induction hGroups generalizing front with
  | nil =>
      exact absurd (List.append_eq_nil_iff.mp hCut.symm).1 hSome
  | @cons a b c groups hDigits hRest ih =>
      have hAll := hDigits
      simp only [AllDigits, List.forall_mem_cons] at hAll
      rcases hAll with ⟨ha, hb, hc, _⟩
      match front, hSome with
      | [_], _ =>
          cases hCut
          exact ⟨a, b, c, groups, rfl, hDigits, hRest⟩
      | [_, _], _ =>
          cases hCut
          simp [endsInDigit, ha] at hEnd
      | [_, _, _], _ =>
          cases hCut
          simp [endsInDigit, hb] at hEnd
      | [_, _, _, _], _ =>
          cases hCut
          simp [endsInDigit, hc] at hEnd
      | _ :: _ :: _ :: _ :: d :: more, _ =>
          simp only [List.cons_append, List.cons.injEq] at hCut
          rcases hCut with ⟨_, _, _, _, hCut⟩
          apply ih hCut (List.cons_ne_nil _ _)
          simpa [endsInDigit, List.getLast?_cons_cons] using hEnd

/-
  A cut through a number behind a character that is no digit and
  no point is a cut behind a comma of its groups.
-/
theorem IsNumber.exists_of_cut
    {lead groups fraction rest front back : List Char}
    (hNumber : IsNumber lead groups fraction rest)
    (hCut : lead ++ groups ++ fraction = front ++ back)
    (hSome : front ≠ [])
    (hEnd : Decimal.endsInDigit front = false)
    (hPoint : front.getLast? ≠ some '.') :
    groups ≠ [] ∧ ∃ a b c more,
      back = a :: b :: c :: more ++ fraction ∧
        AllDigits [a, b, c] ∧ IsGroups more := by
  have hLead : Decimal.endsInDigit lead = true :=
    endsInDigit_append [] hNumber.filled hNumber.digits
  rcases List.append_eq_append_iff.mp hCut with
    ⟨late, rfl, hFraction⟩ | ⟨more, hEarly, rfl⟩
  · -- the cut is behind all groups
    have hGroups :
        Decimal.endsInDigit (lead ++ groups) = true :=
      endsInDigit_append_groups hNumber.grouped hLead
    cases late with
    | nil =>
        rw [List.append_nil, hGroups] at hEnd
        cases hEnd
    | cons d late =>
        rcases hNumber.fractional with rfl | ⟨digits, rfl, _, hDigits⟩
        · cases hFraction
        · rw [List.cons_append, List.cons.injEq] at hFraction
          rcases hFraction with ⟨rfl, rfl⟩
          cases late with
          | nil => simp at hPoint
          | cons e late =>
              have hDigit := endsInDigit_of_allDigits_append hDigits
                (List.cons_ne_nil _ _) (lead ++ groups ++ ['.'])
              rw [List.append_assoc, List.singleton_append, hEnd]
                at hDigit
              cases hDigit
  · rcases List.append_eq_append_iff.mp hEarly with
      ⟨part, rfl, hGroups⟩ | ⟨part, rfl, _⟩
    · have hPart : part ≠ [] := by
        rintro rfl
        rw [List.append_nil, hLead] at hEnd
        cases hEnd
      have hPartEnd : Decimal.endsInDigit part = false := by
        rwa [Decimal.endsInDigit,
          List.getLast?_append_of_ne_nil _ hPart] at hEnd
      rcases hNumber.grouped.exists_of_cut hGroups hPart hPartEnd with
        ⟨a, b, c, others, rfl, hDigits, hOthers⟩
      refine ⟨?_, a, b, c, others, rfl, hDigits, hOthers⟩
      rw [hGroups]
      exact fun hNone => hPart (List.append_eq_nil_iff.mp hNone).1
    · have hDigit := endsInDigit_of_allDigits_append hNumber.digits
        hSome []
      rw [List.nil_append, hEnd] at hDigit
      cases hDigit

/-
  An overlong number that is reached inside the groups of another
  is taken to the same end.
-/
theorem startsInDigit_of_meet
    {a b c : Char}
    {groups fraction rest number back : List Char}
    (hDigits : AllDigits [a, b, c])
    (hGroups : IsGroups groups)
    (hFraction : IsFraction fraction)
    (hLongest : HasNoGroup (fraction ++ rest))
    (hGrouped : IsGrouped number)
    (hBack : startsInDigit back = true)
    (hMeet :
      number ++ back = a :: b :: c :: groups ++ fraction ++ rest) :
    startsInDigit rest = true := by
  rcases hGrouped with
    ⟨lead, others, rfl, hSome, hShort, hLead, hOthers, hMore⟩
  -- the three digits are all digits in front of the groups
  have hStop := hOthers.startsInDigit_append hMore back
  have hTaken := (takeWhile_digits hLead hStop).1
  have hThree : lead = [a, b, c] := by
    rw [← List.append_assoc, hMeet] at hTaken
    simp only [AllDigits, List.forall_mem_cons] at hDigits
    simp only [List.cons_append, List.takeWhile_cons, hDigits, if_true]
      at hTaken
    rw [← hTaken] at hShort ⊢
    have hNone : (groups ++ fraction ++ rest).takeWhile isDecimalDigit =
        [] := by
      rw [← List.length_eq_zero_iff]
      simp only [List.length_cons] at hShort
      omega
    rw [hNone]
  subst hThree
  have hSame : others ++ back = groups ++ (fraction ++ rest) := by
    simpa using hMeet
  have hEnds :
      (others, back) = (groups, fraction ++ rest) := by
    rw [← takeGroups_append_of_hasNoGroup hGroups hLongest, ← hSame]
    exact (takeGroups_append_of_hasNoGroup hOthers
      (hasNoGroup_of_startsInDigit hBack)).symm
  cases hEnds
  rcases hFraction with rfl | ⟨digits, rfl, _⟩
  · exact hBack
  · simp [startsInDigit, isDecimalDigit_comma_point] at hBack

end Decimal

end Gleaner
