import Gleaner.Proofs.Text.Trimming
import Gleaner.Selector.Parse

/-
  Taking out the marks of mapping levels: only the marks are
  taken out, none is left to be taken out, and only brackets
  decide which of them go.

  Main declarations:
    * `Selector.depthAfter`
    * `Selector.stripMapping_cons`
    * `Selector.filter_stripMapping`
    * `Selector.stripMapping_of_filter_eq`
-/

namespace Gleaner

namespace Selector

------------------------------------------------------------
-- One Character
------------------------------------------------------------

/- The depth behind a character.  It does not fall below zero. -/
def depthAfter (depth : Nat) (c : Char) : Nat :=
  if c == '{' || c == '(' || c == '[' then depth + 1
  else if c == '}' || c == ')' || c == ']' then depth - 1
  else depth

/- A mark goes where no bracket is open; all else stays. -/
theorem stripMapping_cons
    (depth : Nat)
    (c : Char)
    (cs : List Char) :
    stripMapping depth (c :: cs) =
      if c = '^' ∧ depth = 0 then (true, (stripMapping 0 cs).2)
      else
        ((stripMapping (depthAfter depth c) cs).1,
          c :: (stripMapping (depthAfter depth c) cs).2) := by
  simp only [stripMapping, depthAfter]
  split
  · rename_i hOpener
    rw [if_neg]
    rintro ⟨rfl, _⟩
    cases hOpener
  · split
    · rename_i hCloser
      rw [if_neg]
      rintro ⟨rfl, _⟩
      cases hCloser
    · split
      · rename_i hMark
        simp only [Bool.and_eq_true, beq_iff_eq] at hMark
        rw [if_pos hMark, hMark.2]
      · rename_i hMark
        simp only [Bool.and_eq_true, beq_iff_eq] at hMark
        rw [if_neg hMark]

------------------------------------------------------------
-- What Is Kept
------------------------------------------------------------

variable {cs ds : List Char}

/- A filter that does not pass the mark sees no difference. -/
theorem filter_stripMapping
    {f : Char → Bool}
    (hMark : f '^' = false)
    (depth : Nat)
    (cs : List Char) :
    (stripMapping depth cs).2.filter f = cs.filter f := by
  induction cs generalizing depth with
  | nil => rfl
  | cons c cs ih =>
      rw [stripMapping_cons]
      split
      · rename_i hGoes
        rw [hGoes.1, List.filter_cons_of_neg (by simp [hMark])]
        exact ih 0
      · rw [List.filter_cons, List.filter_cons, ih]

/- Where there is no mark to take out, nothing is taken out. -/
theorem stripMapping_of_not_found
    {depth : Nat}
    (hNone : (stripMapping depth cs).1 = false) :
    stripMapping depth cs = (false, cs) := by
  induction cs generalizing depth with
  | nil => rfl
  | cons c cs ih =>
      rw [stripMapping_cons] at hNone ⊢
      split
      · rename_i hGoes
        rw [if_pos hGoes] at hNone
        cases hNone
      · rename_i hStays
        rw [if_neg hStays] at hNone
        rw [ih hNone]

/- No mark to take out is left. -/
theorem stripMapping_stripMapping
    (depth : Nat)
    (cs : List Char) :
    (stripMapping depth (stripMapping depth cs).2).1 = false := by
  induction cs generalizing depth with
  | nil => rfl
  | cons c cs ih =>
      rw [stripMapping_cons]
      split
      · rename_i hGoes
        rw [hGoes.2]
        exact ih 0
      · rename_i hStays
        rw [stripMapping_cons, if_neg hStays]
        exact ih (depthAfter depth c)

------------------------------------------------------------
-- What Decides
------------------------------------------------------------

/- A bracket, or the mark itself. -/
def isDepthMark (c : Char) : Bool :=
  ['{', '(', '[', '}', ')', ']', '^'].contains c

/- White space is neither. -/
theorem isDepthMark_of_isBlank
    {c : Char}
    (hBlank : Text.isBlank c = true) :
    isDepthMark c = false := by
  by_contra hMark
  have hMarks :
      (['{', '(', '[', '}', ')', ']', '^'].all
        fun d => !Text.isBlank d) = true := by
    decide
  rw [Bool.not_eq_false, isDepthMark, List.contains_iff_mem] at hMark
  have hNoBlank := List.all_eq_true.mp hMarks c hMark
  rw [hBlank] at hNoBlank
  cases hNoBlank

/- Only brackets change the depth. -/
theorem depthAfter_of_not_isDepthMark
    {c : Char}
    (hOther : isDepthMark c = false)
    (depth : Nat) :
    depthAfter depth c = depth := by
  simp only [isDepthMark, List.contains_cons, List.contains_nil,
    Bool.or_false, Bool.or_eq_false_iff] at hOther
  rcases hOther with ⟨h₁, h₂, h₃, h₄, h₅, h₆, _⟩
  simp [depthAfter, h₁, h₂, h₃, h₄, h₅, h₆]

/- Only brackets and marks decide whether a mark is found. -/
theorem found_filter
    (depth : Nat)
    (cs : List Char) :
    (stripMapping depth (cs.filter isDepthMark)).1 =
      (stripMapping depth cs).1 := by
  induction cs generalizing depth with
  | nil => rfl
  | cons c cs ih =>
      cases hMark : isDepthMark c with
      | true =>
          rw [List.filter_cons_of_pos hMark, stripMapping_cons,
            stripMapping_cons]
          split
          · rfl
          · exact ih (depthAfter depth c)
      | false =>
          have hStays : ¬ (c = '^' ∧ depth = 0) := by
            rintro ⟨rfl, _⟩
            cases hMark
          rw [List.filter_cons_of_neg (by simp [hMark]), ih,
            stripMapping_cons, if_neg hStays,
            depthAfter_of_not_isDepthMark hMark]

/-
  Nothing is taken out of a text that has the brackets and
  marks of one from which all marks were taken out.
-/
theorem stripMapping_of_filter_eq
    (hMarks :
      cs.filter isDepthMark =
        (stripMapping 0 ds).2.filter isDepthMark) :
    stripMapping 0 cs = (false, cs) := by
  apply stripMapping_of_not_found
  rw [← found_filter, hMarks, found_filter]
  exact stripMapping_stripMapping 0 ds

end Selector

end Gleaner
