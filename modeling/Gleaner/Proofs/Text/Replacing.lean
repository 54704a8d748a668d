import Gleaner.Proofs.Text.Pieces

/-
  A part of a text that is put in the place of another one: the
  part is replaced where it stands first, and nowhere else.

  Main declarations:
    * `Text.StandsFirst`
    * `Text.exists_standsFirst`
    * `Text.replaceFirst_of_absent`
    * `Text.replaceFirst_append`
-/

namespace Gleaner

namespace Text

variable {part before cs : List Char}

/-
  The part, put behind the text, stands there for the first time:
  it does not stand in what comes before its own end.
-/
def StandsFirst (part before : List Char) : Prop :=
  ¬ part <:+: before ++ part.dropLast

/- What a text starts with stands there for the first time. -/
theorem standsFirst_nil
    (hSome : part ≠ []) :
    StandsFirst part [] := by
  intro hShort
  have hLength := hShort.length_le
  have hPositive := List.length_pos_of_ne_nil hSome
  rw [List.nil_append, List.length_dropLast] at hLength
  omega

/-
  Where a part stands for the first time, it does not stand at any
  place in front of that.
-/
theorem StandsFirst.not_here
    {c : Char}
    (hFirst : StandsFirst part (c :: before))
    (after : List Char) :
    ¬ part <+: c :: (before ++ (part ++ after)) := by
  intro hPrefix
  have hStart :
      c :: before ++ part.dropLast <+: c :: (before ++ (part ++ after)) := by
    rw [← List.cons_append, List.prefix_append_right_inj]
    exact (List.dropLast_prefix part).trans (List.prefix_append part after)
  have hLength : part.length ≤ (c :: before ++ part.dropLast).length := by
    simp only [List.length_append, List.length_cons, List.length_dropLast]
    omega
  exact hFirst
    (List.prefix_of_prefix_length_le hPrefix hStart hLength).isInfix

/- A text in which a part stands has a place where it stands first. -/
theorem exists_standsFirst
    (hSome : part ≠ [])
    (hIn : part <:+: cs) :
    ∃ before after,
      cs = before ++ (part ++ after) ∧ StandsFirst part before := by
  induction cs with
  | nil => exact absurd (List.infix_nil.mp hIn) hSome
  | cons c cs ih =>
      by_cases hPrefix : part <+: c :: cs
      · rcases hPrefix with ⟨after, hText⟩
        exact ⟨[], after, hText.symm, standsFirst_nil hSome⟩
      · rcases ih ((List.infix_cons_iff.mp hIn).resolve_left hPrefix) with
          ⟨before, after, rfl, hFirst⟩
        refine ⟨c :: before, after, rfl, ?_⟩
        intro hEarly
        rw [List.cons_append, List.infix_cons_iff] at hEarly
        rcases hEarly with hHere | hLater
        · apply hPrefix
          apply hHere.trans
          rw [List.prefix_cons_inj, List.prefix_append_right_inj]
          exact (List.dropLast_prefix part).trans
            (List.prefix_append part after)
        · exact hFirst hLater

/- A part that does not stand in a text is not replaced. -/
theorem replaceFirst_of_absent
    (new : List Char)
    (hNone : ¬ part <:+: cs) :
    replaceFirst part new cs = cs := by
  induction cs with
  | nil =>
      rw [List.infix_nil, ← List.isEmpty_iff] at hNone
      rw [replaceFirst, if_neg hNone]
  | cons c cs ih =>
      rw [List.infix_cons_iff, not_or] at hNone
      rw [replaceFirst, dropPrefix?_eq_none_iff.mpr hNone.1]
      dsimp only
      rw [ih hNone.2]

/- A part is replaced where it stands first. -/
theorem replaceFirst_append
    (new after : List Char)
    (hSome : part ≠ [])
    (hFirst : StandsFirst part before) :
    replaceFirst part new (before ++ (part ++ after)) =
      before ++ (new ++ after) := by
  induction before with
  | nil =>
      rcases List.exists_cons_of_ne_nil hSome with ⟨c, cs, hPart⟩
      have hDrop := dropPrefix?_append part after
      rw [List.nil_append, List.nil_append, hPart, List.cons_append,
        replaceFirst, ← List.cons_append, ← hPart, hDrop]
  | cons c before ih =>
      have hRest : StandsFirst part before := by
        intro hLater
        exact hFirst (List.infix_cons hLater)
      rw [List.cons_append, replaceFirst,
        dropPrefix?_eq_none_iff.mpr (hFirst.not_here after)]
      dsimp only
      rw [ih hRest, List.cons_append]

end Text

end Gleaner
