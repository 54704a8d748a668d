import Gleaner.Json.Print
import Gleaner.Proofs.Decimal.Fixed
import Mathlib.Data.List.Chain

/-
  Whole numbers in the text of a list.  The comma behind a number
  of one to three digits is read as part of it if three digits
  follow, so the numbers are read one by one exactly if there is
  no such comma.

  Main declarations:
    * `Decimal.takeNumber?_digits`
    * `Decimal.takeNumber?_group`
    * `Decimal.exists_showNat_eq`
    * `Decimal.ApartInList`
    * `Decimal.valuesOf_listed_iff`
-/

namespace Gleaner

namespace Decimal

open Text (isDecimalDigit isDigit showNat)

variable {digits rest : List Char}

------------------------------------------------------------
-- Numbers without a Point
------------------------------------------------------------

/- There is no fraction in a text without a point. -/
theorem takeFraction_of_notMem
    {cs : List Char}
    (hPoint : '.' ∉ cs) :
    takeFraction cs = ([], cs) := by
  unfold takeFraction
  split
  · exact absurd List.mem_cons_self hPoint
  · rfl

/- Digits are taken alone if they are many or no group follows. -/
theorem takeNumber?_digits
    (hSome : digits ≠ [])
    (hDigits : AllDigits digits)
    (hRest : startsInDigit rest = false)
    (hPoint : '.' ∉ rest)
    (hAlone : digits.length ≤ 3 → HasNoGroup rest) :
    takeNumber? (digits ++ rest) = some (digits, rest) := by
  have hGroups :
      (if digits.length ≤ 3 then takeGroups rest else ([], rest)) =
        ([], rest) := by
    split
    · rename_i hShort
      exact takeGroups_append_of_hasNoGroup .nil (hAlone hShort)
    · rfl
  rw [takeNumber?_append_of_digits hSome hDigits hRest hGroups,
    takeFraction_of_notMem hPoint, List.append_nil, List.append_nil]

/- A group behind a few digits is taken with them. -/
theorem takeNumber?_group
    {a b c : Char}
    (hSome : digits ≠ [])
    (hDigits : AllDigits digits)
    (hShort : digits.length ≤ 3)
    (hGroup : AllDigits [a, b, c])
    (hPoint : '.' ∉ rest) :
    takeNumber? (digits ++ ',' :: a :: b :: c :: rest) =
      some (digits ++ ',' :: a :: b :: c :: (takeGroups rest).1,
        (takeGroups rest).2) := by
  have hStart : startsInDigit (',' :: a :: b :: c :: rest) = false := by
    simp [startsInDigit, isDecimalDigit_comma_point]
  have hPlain :
      takeFraction (takeGroups rest).2 = ([], (takeGroups rest).2) := by
    apply takeFraction_of_notMem
    intro hIn
    apply hPoint
    rw [← takeGroups_append rest]
    exact List.mem_append_right _ hIn
  simp only [AllDigits, List.forall_mem_cons] at hGroup
  have hGroups : takeGroups (',' :: a :: b :: c :: rest) =
      (',' :: a :: b :: c :: (takeGroups rest).1,
        (takeGroups rest).2) := by
    simp [takeGroups, hGroup]
  rw [takeNumber?_append_of_digits hSome hDigits hStart
    (by rw [if_pos hShort, hGroups]), hPlain, List.append_nil]

/- Groups without their commas are digits. -/
theorem IsGroups.allDigits_filter
    {groups : List Char}
    (hGroups : IsGroups groups) :
    AllDigits (groups.filter (· != ',')) := by
  induction hGroups with
  | nil => exact fun _ hc => absurd hc List.not_mem_nil
  | @cons a b c groups hDigits _ ih =>
      intro d hd
      rw [List.mem_filter] at hd
      rcases hd with ⟨hIn, hComma⟩
      simp only [List.mem_cons] at hIn
      rcases hIn with rfl | hIn
      · cases hComma
      · rcases hIn with rfl | rfl | rfl | hIn
        · exact hDigits d (by simp)
        · exact hDigits d (by simp)
        · exact hDigits d (by simp)
        · exact ih d (List.mem_filter.mpr ⟨hIn, hComma⟩)

/- Digits of which the first is plain and no zero are a decimal. -/
theorem isStrict_of_allDigits
    {first : Char}
    (hLow : 49 ≤ first.toNat)
    (hHigh : first.toNat ≤ 57)
    (hDigits : AllDigits digits) :
    isStrict (first :: digits) = true := by
  rw [isStrict_iff]
  refine ⟨first, digits, [], ?_, hLow, hHigh, hDigits, .inl rfl⟩
  rw [List.append_nil]

------------------------------------------------------------
-- Written Numbers
------------------------------------------------------------

/- A number is written in digits. -/
theorem allDigits_showNat (n : Nat) :
    AllDigits (showNat n) :=
  fun _ hc => isDecimalDigit_of_isDigit (Text.isDigit_of_mem_showNat hc)

/- The first digit of a positive number is no zero. -/
theorem exists_showNat_eq
    {n : Nat}
    (hPositive : 0 < n) :
    ∃ first digits, showNat n = first :: digits ∧
      49 ≤ first.toNat ∧ first.toNat ≤ 57 := by
  induction n using Nat.strongRecOn with
  | ind n ih =>
      by_cases hSmall : n < 10
      · have hAll : ∀ d : Fin 10, 0 < d.val →
            49 ≤ (Nat.digitChar d).toNat ∧
              (Nat.digitChar d).toNat ≤ 57 := by
          decide
        exact ⟨_, [], Nat.toDigits_of_lt_base hSmall,
          hAll ⟨n, hSmall⟩ hPositive⟩
      · rcases ih (n / 10) (by omega) (by omega) with
          ⟨first, digits, hFront, hFirst⟩
        refine ⟨first, digits ++ [(n % 10).digitChar], ?_, hFirst⟩
        rw [showNat, Nat.toDigits_of_base_le (by decide) (by omega)]
        rw [showNat] at hFront
        rw [hFront, List.cons_append]

/- Numbers below a thousand have three digits at most. -/
theorem length_showNat_le_three_iff {n : Nat} :
    (showNat n).length ≤ 3 ↔ n < 1000 :=
  Nat.length_toDigits_le_iff (by decide) (by decide)

/- Numbers below a hundred have two digits at most. -/
theorem length_showNat_le_two_iff {n : Nat} :
    (showNat n).length ≤ 2 ↔ n < 100 :=
  Nat.length_toDigits_le_iff (by decide) (by decide)

/- There is no comma in a number. -/
theorem filter_showNat (n : Nat) :
    (showNat n).filter (· != ',') = showNat n :=
  filter_eq_self_of_allDigits (allDigits_showNat n)

/- A number of three digits or more begins with a group. -/
theorem exists_showNat_eq_group
    {n : Nat}
    (hLarge : 100 ≤ n) :
    ∃ a b c others, showNat n = a :: b :: c :: others ∧
      AllDigits [a, b, c] ∧
      [a, b, c].filter (· != ',') = [a, b, c] := by
  have hDigits := allDigits_showNat n
  have hNoComma := filter_showNat n
  have hLength : ¬ (showNat n).length ≤ 2 := by
    rw [length_showNat_le_two_iff]
    omega
  rcases hShow : showNat n with _ | ⟨a, _ | ⟨b, _ | ⟨c, others⟩⟩⟩
  · simp [hShow] at hLength
  · simp [hShow] at hLength
  · simp [hShow] at hLength
  · rw [hShow] at hDigits hNoComma
    refine ⟨a, b, c, others, rfl, ?_, ?_⟩
    · exact fun d hd => hDigits d (List.mem_append_left others hd)
    · rw [List.filter_eq_self] at hNoComma ⊢
      exact fun d hd => hNoComma d (List.mem_append_left others hd)

------------------------------------------------------------
-- Lists of Numbers
------------------------------------------------------------

/- The items of a list behind the first, and the end of the list. -/
def listEnd (ns : List Nat) : List Char :=
  Json.renderItems (ns.map Json.ofNat) ++ [']']

/- Behind an item there is a comma and another item. -/
theorem listEnd_cons (n : Nat) (ns : List Nat) :
    listEnd (n :: ns) = ',' :: (showNat n ++ listEnd ns) := by
  simp [listEnd, Json.renderItems, Json.render, Json.ofNat,
    Json.Number.render]

/- There are digits, commas and a bracket behind an item. -/
theorem mem_listEnd
    {ns : List Nat}
    {c : Char}
    (hc : c ∈ listEnd ns) :
    isDigit c = true ∨ c = ',' ∨ c = ']' := by
  induction ns with
  | nil => exact .inr (.inr (List.mem_singleton.mp hc))
  | cons n ns ih =>
      rw [listEnd_cons, List.mem_cons, List.mem_append] at hc
      rcases hc with rfl | hNumber | hRest
      · exact .inr (.inl rfl)
      · exact .inl (Text.isDigit_of_mem_showNat hNumber)
      · exact ih hRest

/- There is no point behind an item. -/
theorem point_notMem_listEnd (ns : List Nat) :
    '.' ∉ listEnd ns := by
  intro hPoint
  rcases mem_listEnd hPoint with hDigit | hComma | hBracket
  · exact absurd hDigit (by decide)
  · exact absurd hComma (by decide)
  · exact absurd hBracket (by decide)

/- No digit comes right behind an item. -/
theorem startsInDigit_listEnd (ns : List Nat) :
    startsInDigit (listEnd ns) = false := by
  cases ns with
  | nil => decide
  | cons n ns =>
      rw [listEnd_cons]
      simp [startsInDigit, isDecimalDigit_comma_point]

/- An item of less than three digits is no group. -/
theorem hasNoGroup_listEnd_cons
    {n : Nat}
    (hSmall : n < 100)
    (ns : List Nat) :
    HasNoGroup (listEnd (n :: ns)) := by
  intro a b c rest hSame hDigits
  rw [listEnd_cons, List.cons.injEq] at hSame
  have hTaken :=
    (takeWhile_digits (allDigits_showNat n) (startsInDigit_listEnd ns)).1
  have hLength := length_showNat_le_two_iff.mpr hSmall
  simp only [AllDigits, List.forall_mem_cons] at hDigits
  rw [hSame.2] at hTaken
  simp only [List.takeWhile_cons, hDigits, if_true] at hTaken
  rw [← hTaken] at hLength
  simp at hLength

/- A comma between two numbers cannot be read as part of a number. -/
def ApartInList (m n : Nat) : Prop :=
  1000 ≤ m ∨ n < 100

instance (m n : Nat) : Decidable (ApartInList m n) := by
  unfold ApartInList
  infer_instance

/- An item that stays apart from the next is taken alone. -/
theorem takeNumber?_listed
    {n : Nat}
    {ns : List Nat}
    (hApart : ∀ m ∈ ns.head?, ApartInList n m) :
    takeNumber? (showNat n ++ listEnd ns) =
      some (showNat n, listEnd ns) := by
  apply takeNumber?_digits (Text.showNat_ne_nil n) (allDigits_showNat n)
    (startsInDigit_listEnd ns) (point_notMem_listEnd ns)
  intro hShort
  rw [length_showNat_le_three_iff] at hShort
  cases ns with
  | nil =>
      intro a b c rest hSame
      cases hSame
  | cons m ns =>
      apply hasNoGroup_listEnd_cons
      rcases hApart m rfl with hLarge | hSmall
      · omega
      · exact hSmall

/- A decimal with digits behind it is a decimal. -/
theorem isStrict_showNat_append
    {n : Nat}
    (hPositive : 0 < n)
    (hDigits : AllDigits digits) :
    isStrict (showNat n ++ digits) = true := by
  rcases exists_showNat_eq hPositive with
    ⟨first, others, hShow, hLow, hHigh⟩
  have hOwn := allDigits_showNat n
  rw [hShow] at hOwn ⊢
  rw [AllDigits, List.forall_mem_cons] at hOwn
  rw [List.cons_append]
  apply isStrict_of_allDigits hLow hHigh
  rw [AllDigits, List.forall_mem_append]
  exact ⟨hOwn.2, hDigits⟩

/-
  An item that does not stay apart from the next is taken with
  digits of it, and they make up a decimal.
-/
theorem takeNumber?_glued
    {n m : Nat}
    (hPositive : 0 < n)
    (hGlued : ¬ ApartInList n m)
    (ns : List Nat) :
    ∃ number after more,
      takeNumber? (showNat n ++ listEnd (m :: ns)) =
        some (number, after) ∧
      number.filter (· != ',') = showNat n ++ more ∧
      more ≠ [] ∧ isStrict (showNat n ++ more) = true := by
  unfold ApartInList at hGlued
  rw [not_or, Nat.not_le, Nat.not_lt] at hGlued
  rcases hGlued with ⟨hSmall, hLarge⟩
  rcases exists_showNat_eq_group hLarge with
    ⟨a, b, c, others, hShow, hGroup, hThree⟩
  have hShort := length_showNat_le_three_iff.mpr hSmall
  have hPoint := point_notMem_listEnd (m :: ns)
  rw [listEnd_cons, hShow] at hPoint ⊢
  simp only [List.cons_append, List.mem_cons, not_or] at hPoint
  have hGroups := (takeGroups_spec (others ++ listEnd ns)).1
  refine ⟨_, _,
    [a, b, c] ++ (takeGroups (others ++ listEnd ns)).1.filter (· != ','),
    takeNumber?_group (Text.showNat_ne_nil n) (allDigits_showNat n)
      hShort hGroup hPoint.2.2.2.2, ?_, List.cons_ne_nil _ _, ?_⟩
  · rw [← hThree, ← List.filter_append, List.filter_append,
      filter_showNat]
    rfl
  · apply isStrict_showNat_append hPositive
    rw [AllDigits, List.forall_mem_append]
    exact ⟨hGroup, hGroups.allDigits_filter⟩

/- A positive number on its own is a decimal. -/
theorem isStrict_filter_showNat
    {n : Nat}
    (hPositive : 0 < n) :
    isStrict ((showNat n).filter (· != ',')) = true := by
  have hNone : AllDigits [] := fun _ hc => absurd hc List.not_mem_nil
  rw [filter_showNat, ← List.append_nil (showNat n)]
  exact isStrict_showNat_append hPositive hNone

/- The only decimal of a written number is the number. -/
theorem valuesOf_showNat
    {n : Nat}
    (hPositive : 0 < n) :
    valuesOf (showNat n) = [showNat n] := by
  apply valuesOf_eq_singleton
  rw [← isStrict_iff, ← filter_showNat]
  exact isStrict_filter_showNat hPositive

/- An item that stays apart from the next is a decimal of its own. -/
theorem valuesOf_listed
    {n : Nat}
    {ns : List Nat}
    (hPositive : 0 < n)
    (hApart : ∀ m ∈ ns.head?, ApartInList n m) :
    valuesOf (showNat n ++ listEnd ns) =
      showNat n :: valuesOf (listEnd ns) := by
  rw [valuesOf_eq_cons (takeNumber?_listed hApart)
      (isStrict_filter_showNat hPositive),
    filter_showNat]

/-
  The numbers of a list of positive numbers are read one by one
  exactly if each of them stays apart from the next.
-/
theorem valuesOf_listed_iff
    {n : Nat}
    {ns : List Nat}
    (hPositive : ∀ m ∈ n :: ns, 0 < m) :
    valuesOf (showNat n ++ listEnd ns) = (n :: ns).map showNat ↔
      (n :: ns).IsChain ApartInList := by
  induction ns generalizing n with
  | nil =>
      have hEnd : valuesOf (listEnd []) = [] := by decide +kernel
      rw [valuesOf_listed (hPositive n List.mem_cons_self)
        (fun _ hm => absurd hm (Option.not_mem_none _)), hEnd]
      exact iff_of_true rfl (List.isChain_singleton n)
  | cons m ns ih =>
      rw [List.forall_mem_cons] at hPositive
      rw [List.isChain_cons_cons, ← ih hPositive.2]
      by_cases hApart : ApartInList n m
      · have hNext : ∀ k ∈ (m :: ns).head?, ApartInList n k := by
          rintro k ⟨⟩
          exact hApart
        have hEnd :
            valuesOf (listEnd (m :: ns)) =
              valuesOf (showNat m ++ listEnd ns) := by
          rw [listEnd_cons,
            valuesOf_cons_of_not_digit isDecimalDigit_comma_point.1]
        rw [valuesOf_listed hPositive.1 hNext, hEnd, List.map_cons,
          List.cons.injEq]
        exact and_congr_left' (iff_of_true rfl hApart)
      · rcases takeNumber?_glued hPositive.1 hApart ns with
          ⟨number, after, more, hTake, hFilter, hMore, hStrict⟩
        rw [← hFilter] at hStrict
        rw [valuesOf_eq_cons hTake hStrict, hFilter, List.map_cons,
          List.cons.injEq, List.append_right_eq_self]
        exact iff_of_false (fun h => hMore h.1) (fun h => hApart h.1)

end Decimal

end Gleaner
