import Gleaner.Proofs.Decimal.Finds
import Gleaner.Proofs.Text.Number

/-
  The form of the decimals that a text yields: a digit from one
  to nine, more digits, and perhaps a point with one or two digits
  behind it.  Behind the first digit those of any script pass.

  Main declarations:
    * `Decimal.IsPrice`
    * `Decimal.isStrict_iff`
    * `Decimal.isPrice_isDigit_iff`
    * `Decimal.values_form`
-/

namespace Gleaner

namespace Decimal

open Text (isDecimalDigit isDigit)

------------------------------------------------------------
-- The Form
------------------------------------------------------------

/- Nothing, or a point and one or two digits. -/
def IsCents (isIn : Char → Bool) (cs : List Char) : Prop :=
  cs = [] ∨ ∃ cents, cs = '.' :: cents ∧
    (cents.length = 1 ∨ cents.length = 2) ∧
    ∀ c ∈ cents, isIn c = true

/-
  A digit from one to nine, digits, and perhaps cents, where
  `isIn` tells what a digit is.
-/
def IsPrice (isIn : Char → Bool) (cs : List Char) : Prop :=
  ∃ first digits fraction, cs = first :: (digits ++ fraction) ∧
    49 ≤ first.toNat ∧ first.toNat ≤ 57 ∧
    (∀ c ∈ digits, isIn c = true) ∧ IsCents isIn fraction

variable {cs : List Char}

/- A short fraction is nothing, or cents. -/
theorem isShortFraction_iff :
    isShortFraction cs = true ↔ IsCents isDecimalDigit cs := by
  unfold isShortFraction
  split
  · simp [IsCents]
  · simp [IsCents]
  · simp [IsCents]
  · rename_i hNone hOne hTwo
    simp only [Bool.false_eq_true, false_iff]
    rintro (rfl | ⟨cents, rfl, hLength, _⟩)
    · exact hNone rfl
    · match cents, hLength with
      | [a], _ => exact hOne a rfl
      | [a, b], _ => exact hTwo a b rfl

/- Cents are a fraction. -/
theorem IsCents.isFraction
    (hCents : IsCents isDecimalDigit cs) :
    IsFraction cs := by
  rcases hCents with rfl | ⟨cents, rfl, hLength, hDigits⟩
  · exact .inl rfl
  · have hSome : cents ≠ [] := by
      rintro rfl
      simp at hLength
    exact .inr ⟨cents, rfl, hSome, hDigits⟩

/- The strict decimals are the prices in the digits of all scripts. -/
theorem isStrict_iff :
    isStrict cs = true ↔ IsPrice isDecimalDigit cs := by
  cases cs with
  | nil => simp [isStrict, IsPrice]
  | cons first rest =>
      simp only [isStrict, Bool.and_eq_true, decide_eq_true_eq,
        isShortFraction_iff]
      constructor
      · rintro ⟨⟨hLow, hHigh⟩, hCents⟩
        refine ⟨first, rest.takeWhile isDecimalDigit,
          rest.dropWhile isDecimalDigit, ?_, hLow, hHigh,
          fun c hc => List.mem_takeWhile_imp hc, hCents⟩
        rw [List.takeWhile_append_dropWhile]
      · rintro ⟨_, digits, fraction, hSame, hLow, hHigh, hDigits, hCents⟩
        cases hSame
        rw [(takeWhile_digits hDigits hCents.isFraction.startsInDigit).2]
        exact ⟨⟨hLow, hHigh⟩, hCents⟩

------------------------------------------------------------
-- Plain Digits
------------------------------------------------------------

/- Of the digits of all scripts only ten are plain. -/
theorem isDigit_of_isDecimalDigit
    {c : Char}
    (hDigit : isDecimalDigit c = true)
    (hPlain : c.toNat < 128) :
    isDigit c = true := by
  have hRanges : ∀ range ∈ Text.decimalDigitRanges,
      range = (48, 57) ∨ 128 ≤ range.1 := by
    decide
  rw [isDecimalDigit, Text.inRanges, List.any_eq_true] at hDigit
  rcases hDigit with ⟨range, hRange, hIn⟩
  simp only [Bool.and_eq_true, decide_eq_true_eq] at hIn
  simp only [isDigit, Bool.and_eq_true, decide_eq_true_eq]
  rcases hRanges range hRange with rfl | hHigh
  · exact hIn
  · omega

/- A plain digit is a digit. -/
theorem isDecimalDigit_of_isDigit
    {c : Char}
    (hc : isDigit c = true) :
    isDecimalDigit c = true := by
  rw [isDecimalDigit, Text.inRanges, List.any_eq_true]
  exact ⟨(48, 57), List.mem_cons_self, hc⟩

/- Plain digits are plain characters. -/
theorem isPlain_of_isDigit
    {c : Char}
    (hDigit : isDigit c = true) :
    c.toNat < 128 := by
  simp only [isDigit, Bool.and_eq_true, decide_eq_true_eq] at hDigit
  omega

/- A price stays one if its digits are digits of another kind too. -/
theorem IsPrice.mono
    {isIn isAlso : Char → Bool}
    (hPrice : IsPrice isIn cs)
    (hAlso : ∀ c ∈ cs, isIn c = true → isAlso c = true) :
    IsPrice isAlso cs := by
  rcases hPrice with
    ⟨first, digits, fraction, rfl, hLow, hHigh, hDigits, hCents⟩
  rw [List.forall_mem_cons, List.forall_mem_append] at hAlso
  rcases hAlso with ⟨_, hAlsoDigits, hAlsoFraction⟩
  refine ⟨first, digits, fraction, rfl, hLow, hHigh,
    fun c hc => hAlsoDigits c hc (hDigits c hc), ?_⟩
  rcases hCents with rfl | ⟨cents, rfl, hLength, hCents⟩
  · exact .inl rfl
  · exact .inr ⟨cents, rfl, hLength, fun c hc =>
      hAlsoFraction c (List.mem_cons_of_mem _ hc) (hCents c hc)⟩

/- A price in plain digits is plain. -/
theorem IsPrice.isPlain
    (hPrice : IsPrice isDigit cs) :
    ∀ c ∈ cs, c.toNat < 128 := by
  rcases hPrice with
    ⟨first, digits, fraction, rfl, _, hHigh, hDigits, hCents⟩
  have hFraction : ∀ c ∈ fraction, c.toNat < 128 := by
    rcases hCents with rfl | ⟨cents, rfl, _, hCents⟩
    · exact fun c hc => absurd hc List.not_mem_nil
    · rw [List.forall_mem_cons]
      exact ⟨by decide, fun c hc => isPlain_of_isDigit (hCents c hc)⟩
  rw [List.forall_mem_cons, List.forall_mem_append]
  exact ⟨by omega, fun c hc => isPlain_of_isDigit (hDigits c hc),
    hFraction⟩

/- A price is one in plain digits exactly if it is plain. -/
theorem isPrice_isDigit_iff
    (hPrice : IsPrice isDecimalDigit cs) :
    IsPrice isDigit cs ↔ ∀ c ∈ cs, c.toNat < 128 := by
  refine ⟨IsPrice.isPlain, ?_⟩
  intro hPlain
  exact hPrice.mono fun c hc hDigit =>
    isDigit_of_isDecimalDigit hDigit (hPlain c hc)

------------------------------------------------------------
-- The Decimals of a Text
------------------------------------------------------------

/- A value is a strict decimal whose characters are in the text. -/
theorem of_mem_values
    {s v : String}
    (hValue : v ∈ values s) :
    IsPrice isDecimalDigit v.toList ∧ ∀ c ∈ v.toList, c ∈ s.toList := by
  rw [values_eq_filterMap, List.mem_filterMap] at hValue
  rcases hValue with ⟨f, hFind, hSome⟩
  rw [Find.value?, Option.ite_none_right_eq_some] at hSome
  rcases hSome with ⟨hStrict, hSame⟩
  cases hSame
  rw [String.toList_ofList]
  refine ⟨isStrict_iff.mp hStrict, ?_⟩
  intro c hc
  rw [← List.nil_append s.toList, ← (of_mem_findsFrom hFind).1]
  have hNumber := List.mem_of_mem_filter hc
  exact List.mem_append_left _ (List.mem_append_right _ hNumber)

/-
  The decimals of a text are prices in the digits of all scripts,
  made of characters of the text.  One of them is a price in plain
  digits exactly if it is plain, and so all of them are if the text
  has no digits but plain ones.
-/
theorem values_form (s : String) :
    (∀ v ∈ values s,
      (∀ c ∈ v.toList, c ∈ s.toList) ∧
      IsPrice isDecimalDigit v.toList ∧
      (IsPrice isDigit v.toList ↔ ∀ c ∈ v.toList, c.toNat < 128)) ∧
    ((∀ c ∈ s.toList, isDecimalDigit c = true → c.toNat < 128) →
      ∀ v ∈ values s, IsPrice isDigit v.toList) := by
  constructor
  · intro v hValue
    rcases of_mem_values hValue with ⟨hPrice, hText⟩
    exact ⟨hText, hPrice, isPrice_isDigit_iff hPrice⟩
  · intro hPlain v hValue
    rcases of_mem_values hValue with ⟨hPrice, hText⟩
    exact hPrice.mono fun c hc hDigit =>
      isDigit_of_isDecimalDigit hDigit (hPlain c (hText c hc) hDigit)

/- A digit of another script passes behind a plain one. -/
theorem arabic_digit_passes :
    values "1٣" = ["1٣"] ∧ ¬ IsPrice isDigit "1٣".toList := by
  refine ⟨by decide +kernel, ?_⟩
  intro hPrice
  exact absurd (hPrice.isPlain '٣' (by decide)) (by decide)

end Decimal

end Gleaner
