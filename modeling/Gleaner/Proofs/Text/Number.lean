import Gleaner.Text.Number
import Mathlib.Algebra.Order.Ring.Nat

/-
  Written numbers are read back in bases ten and sixteen, and
  facts about plain characters are checked one by one.

  Main declarations:
    * `Text.forall_plain`
    * `Text.forall_hexDigit`
    * `Text.isDigit_of_mem_showNat`
    * `Text.ofDigits_showNat`
    * `Text.isHexDigit_of_mem_showHex`
    * `Text.ofDigits_showHex`
    * `Text.foldl_digits_lt`
    * `Text.ofDigits_lt`
-/

namespace Gleaner

namespace Text

------------------------------------------------------------
-- Plain Characters
------------------------------------------------------------

/- What holds of each plain code point holds of a plain character. -/
theorem forall_plain
    {P : Char → Prop}
    {c : Char}
    (hAll : ∀ n < 128, P (Char.ofNat n))
    (hPlain : c.toNat < 128) :
    P c := by
  have hHere := hAll c.toNat hPlain
  rwa [Char.ofNat_toNat] at hHere

/- The digits of base sixteen are plain characters. -/
theorem isPlain_of_isHexDigit
    {c : Char}
    (hc : isHexDigit c = true) :
    c.toNat < 128 := by
  simp only [isHexDigit, isDigit, Bool.or_eq_true, Bool.and_eq_true,
    decide_eq_true_eq] at hc
  omega

/- What holds of the digits of base sixteen is checked one by one. -/
theorem forall_hexDigit
    {P : Char → Prop}
    {c : Char}
    (hAll : ∀ n < 128,
      isHexDigit (Char.ofNat n) = true → P (Char.ofNat n))
    (hc : isHexDigit c = true) :
    P c :=
  forall_plain (P := fun c => isHexDigit c = true → P c) hAll
    (isPlain_of_isHexDigit hc) hc

/- The digits of base ten are among them. -/
theorem isHexDigit_of_isDigit
    {c : Char}
    (hc : isDigit c = true) :
    isHexDigit c = true := by
  rw [isHexDigit, hc]
  rfl

------------------------------------------------------------
-- Base Ten
------------------------------------------------------------

/- A number is written in digits. -/
theorem isDigit_of_mem_showNat
    {n : Nat}
    {c : Char}
    (hc : c ∈ showNat n) :
    isDigit c = true := by
  have hDigit :=
    Nat.isDigit_of_mem_toDigits (by decide) (by decide) hc
  simp only [Char.isDigit, Bool.and_eq_true,
    decide_eq_true_eq] at hDigit
  simp only [isDigit, Bool.and_eq_true, decide_eq_true_eq]
  exact hDigit

/- Digits spell a number as the standard library reads them. -/
theorem ofDigits_eq_ofDigitChars (cs : List Char) :
    ofDigits 10 digitValue cs = Nat.ofDigitChars 10 cs 0 := by
  unfold ofDigits Nat.ofDigitChars
  congr 1
  funext n c
  rw [Nat.mul_comm]
  rfl

/- A number is spelled by its digits. -/
@[simp] theorem ofDigits_showNat (n : Nat) :
    ofDigits 10 digitValue (showNat n) = n := by
  rw [ofDigits_eq_ofDigitChars, showNat]
  exact Nat.ofDigitChars_toDigits (by decide) (by decide)

/- A number has a digit. -/
theorem showNat_ne_nil (n : Nat) :
    showNat n ≠ [] :=
  Nat.toDigits_ne_nil

------------------------------------------------------------
-- Base Sixteen
------------------------------------------------------------

/- A digit of base sixteen is read back. -/
theorem hexValue_digitChar
    {n : Nat}
    (hDigit : n < 16) :
    isHexDigit n.digitChar = true ∧ hexValue n.digitChar = n := by
  have hAll :
      ∀ d : Fin 16, isHexDigit (Nat.digitChar d) = true ∧
        hexValue (Nat.digitChar d) = d := by
    decide
  exact hAll ⟨n, hDigit⟩

/- A number below sixteen is one digit. -/
theorem showHex_of_lt
    {n : Nat}
    (hSmall : n < 16) :
    showHex n = [n.digitChar] :=
  Nat.toDigits_of_lt_base hSmall

/- The last digit of a number, and those in front of it. -/
theorem showHex_of_le
    {n : Nat}
    (hLarge : 16 ≤ n) :
    showHex n = showHex (n / 16) ++ [(n % 16).digitChar] :=
  Nat.toDigits_of_base_le (by decide) hLarge

/- A number is written in digits of base sixteen. -/
theorem isHexDigit_of_mem_showHex
    {n : Nat}
    {c : Char}
    (hc : c ∈ showHex n) :
    isHexDigit c = true := by
  induction n using Nat.strongRecOn with
  | ind n ih =>
      by_cases hSmall : n < 16
      · rw [showHex_of_lt hSmall, List.mem_singleton] at hc
        rw [hc]
        exact (hexValue_digitChar hSmall).1
      · rw [showHex_of_le (Nat.le_of_not_lt hSmall),
          List.mem_append, List.mem_singleton] at hc
        rcases hc with hFront | hLast
        · exact ih (n / 16) (by omega) hFront
        · rw [hLast]
          exact (hexValue_digitChar (Nat.mod_lt n (by decide))).1

/- A number is spelled by its digits of base sixteen. -/
@[simp] theorem ofDigits_showHex (n : Nat) :
    ofDigits 16 hexValue (showHex n) = n := by
  induction n using Nat.strongRecOn with
  | ind n ih =>
      by_cases hSmall : n < 16
      · rw [showHex_of_lt hSmall]
        show 0 * 16 + hexValue n.digitChar = n
        rw [(hexValue_digitChar hSmall).2]
        omega
      · have hFront := ih (n / 16) (by omega)
        rw [ofDigits] at hFront
        rw [showHex_of_le (Nat.le_of_not_lt hSmall), ofDigits,
          List.foldl_append, hFront]
        show n / 16 * 16 + hexValue (n % 16).digitChar = n
        rw [(hexValue_digitChar (Nat.mod_lt n (by decide))).2]
        omega

/- A number in base sixteen has a digit. -/
theorem showHex_ne_nil (n : Nat) :
    showHex n ≠ [] :=
  Nat.toDigits_ne_nil

/- A number of two bytes is written in four digits at most. -/
theorem length_showHex_le
    {n : Nat}
    (hFits : n < 65536) :
    (showHex n).length ≤ 4 :=
  (Nat.length_toDigits_le_iff (by decide) (by decide)).mpr hFits

/- The value of a digit of base sixteen is below sixteen. -/
theorem hexValue_lt
    {c : Char}
    (hc : isHexDigit c = true) :
    hexValue c < 16 := by
  simp only [isHexDigit, isDigit, Bool.or_eq_true, Bool.and_eq_true,
    decide_eq_true_eq] at hc
  simp only [hexValue, isDigit, Bool.and_eq_true, decide_eq_true_eq]
  split
  · omega
  · split
    · omega
    · omega

------------------------------------------------------------
-- Bounds
------------------------------------------------------------

/- Digits of a base spell a number below a power of the base. -/
theorem foldl_digits_lt
    {base : Nat}
    {digits : List Nat}
    (hDigits : ∀ d ∈ digits, d < base) :
    digits.foldl (fun n d => n * base + d) 0 < base ^ digits.length := by
  have hFold :
      ∀ n, digits.foldl (fun n d => n * base + d) n <
        (n + 1) * base ^ digits.length := by
    induction digits with
    | nil => simp
    | cons d digits ih =>
        intro n
        have hd := hDigits d List.mem_cons_self
        have hRest :=
          ih (fun e he => hDigits e (List.mem_cons_of_mem d he))
            (n * base + d)
        rw [List.foldl_cons, List.length_cons, Nat.pow_succ]
        apply Nat.lt_of_lt_of_le hRest
        rw [Nat.mul_comm (base ^ _) base, ← Nat.mul_assoc]
        apply Nat.mul_le_mul_right
        rw [Nat.add_mul]
        omega
  simpa using hFold 0

/- A number is bounded by the count of its digits. -/
theorem ofDigits_lt
    {base : Nat}
    {value : Char → Nat}
    {cs : List Char}
    (hDigits : ∀ c ∈ cs, value c < base) :
    ofDigits base value cs < base ^ cs.length := by
  have hValues : ∀ d ∈ cs.map value, d < base := by
    intro d hd
    rcases List.mem_map.mp hd with ⟨c, hc, rfl⟩
    exact hDigits c hc
  have hBound := foldl_digits_lt hValues
  rw [List.foldl_map, List.length_map] at hBound
  exact hBound

end Text

end Gleaner
