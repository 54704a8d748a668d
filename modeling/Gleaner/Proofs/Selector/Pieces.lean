import Gleaner.Proofs.Selector.Balance

/-
  The pieces of a text as a grammar of their own: that of the
  balanced texts without the separator among the characters that
  stand outside quotes and brackets.  A text has pieces exactly if
  it is balanced, and it is put together from such pieces in one
  way only.

  Main declarations:
    * `Selector.Unbroken`
    * `Selector.isPiece_iff_unbroken`
    * `Selector.exists_splitTop_iff`
    * `Selector.splitTop_only_way`
-/

namespace Gleaner

namespace Selector

open Nesting

------------------------------------------------------------
-- Texts of One Piece
------------------------------------------------------------

/-
  A balanced text is unbroken if no plain character outside its
  quotes and brackets is the separator.  What the brackets hold
  may be any balanced text.
-/
inductive Unbroken (sep : Char) : List Char → Prop
  | nil : Unbroken sep []
  | plain
      {c : Char}
      {cs : List Char}
      (hPlain : isPlain c = true)
      (hOther : c ≠ sep)
      (hRest : Unbroken sep cs) :
      Unbroken sep (c :: cs)
  | quoted
      {q : Char}
      {text cs : List Char}
      (hQuote : isQuote q = true)
      (hText : q ∉ text)
      (hRest : Unbroken sep cs) :
      Unbroken sep (q :: (text ++ q :: cs))
  | bracketed
      {opener closer : Char}
      {inside cs : List Char}
      (hOpener : closerOf? opener = some closer)
      (hInside : Balanced inside)
      (hRest : Unbroken sep cs) :
      Unbroken sep (opener :: (inside ++ closer :: cs))

variable {sep : Char} {cs : List Char}

/- A plain character is no quote and no opening bracket. -/
theorem of_isPlain
    {c : Char}
    (hPlain : isPlain c = true) :
    isQuote c = false ∧ closerOf? c = none := by
  simp only [isPlain, Bool.and_eq_true, Bool.not_eq_true',
    Option.isNone_iff_eq_none] at hPlain
  exact hPlain.1

/- Behind a balanced text the rest of a piece is a piece. -/
theorem IsPiece.of_append
    {front : List Char}
    (hPiece : IsPiece sep (front ++ cs))
    (hFront : Balanced front)
    (hRest : Balanced cs) :
    IsPiece sep cs where
  balanced := hRest
  uncut := by
    rintro early back rfl hEarly
    exact hPiece.uncut (front ++ early) back
      (List.append_assoc _ _ _).symm (hFront.append hEarly)

/- A piece is unbroken: there is no place to cut it. -/
theorem IsPiece.unbroken
    (hPiece : IsPiece sep cs) :
    Unbroken sep cs := by
  have hBalanced := hPiece.balanced
  induction hBalanced with
  | nil => exact .nil
  | @plain c cs hPlain hRest ih =>
      have hOther : c ≠ sep := by
        rintro rfl
        exact hPiece.uncut [] cs rfl .nil
      have hFront : Balanced [c] := .plain hPlain .nil
      exact .plain hPlain hOther (ih (hPiece.of_append hFront hRest))
  | @quoted q text cs hQuote hText hRest ih =>
      have hFront : Balanced (q :: (text ++ [q])) :=
        .quoted hQuote hText .nil
      refine .quoted hQuote hText (ih (IsPiece.of_append ?_ hFront hRest))
      simpa using hPiece
  | @bracketed opener closer inside cs hOpener hInside hRest _ ih =>
      have hFront : Balanced (opener :: (inside ++ [closer])) :=
        .bracketed hOpener hInside .nil
      refine .bracketed hOpener hInside
        (ih (IsPiece.of_append ?_ hFront hRest))
      simpa using hPiece

/- An unbroken text is read to its end without a cut. -/
theorem Unbroken.isUncut
    (hSep : isPlain sep = true)
    (hUnbroken : Unbroken sep cs) :
    isUncut sep .closed cs = true := by
  rcases of_isPlain hSep with ⟨hNoQuote, hNoOpener⟩
  induction hUnbroken with
  | nil => rfl
  | plain hPlain hOther _ ih =>
      exact isUncut_cons_iff.mpr ⟨fun hCut => hOther hCut.2, _,
        step_of_isPlain isSound_closed hPlain, ih⟩
  | @quoted q text cs hQuote hText _ ih =>
      have hOther : q ≠ sep := by
        rintro rfl
        rw [hNoQuote] at hQuote
        cases hQuote
      refine isUncut_cons_iff.mpr ⟨fun hCut => hOther hCut.2, _,
        step_quote hQuote [], ?_⟩
      rw [isUncut_quoted hText]
      exact ih
  | @bracketed opener closer inside cs hOpener hInside _ ih =>
      have hOther : opener ≠ sep := by
        rintro rfl
        rw [hNoOpener] at hOpener
        cases hOpener
      rw [isUncut_bracketed hOpener hOther (isBalanced_iff.mpr hInside)]
      exact ih

/- The pieces are the unbroken texts. -/
theorem isPiece_iff_unbroken
    (hSep : isPlain sep = true) :
    IsPiece sep cs ↔ Unbroken sep cs :=
  ⟨IsPiece.unbroken, fun hUnbroken =>
    isUncut_iff.mp (hUnbroken.isUncut hSep)⟩

------------------------------------------------------------
-- The Way to Cut a Text
------------------------------------------------------------

/- A text has pieces if it is balanced. -/
theorem exists_splitTop_iff
    (hSep : isPlain sep = true) :
    (∃ pieces, splitTop sep cs = some pieces) ↔ Balanced cs := by
  rw [← Option.isSome_iff_exists, isSome_splitTop hSep, isBalanced_iff]

/-
  At each of the four separators a text can be cut exactly if it is
  balanced.  The pieces joined by the separator are the text, all of
  them are balanced, and none has the separator outside its quotes
  and brackets.  No other pieces are like that; only the empty text
  is also what no pieces at all are joined to.
-/
theorem splitTop_only_way
    (hSep : sep ∈ [';', '|', ',', ':'])
    (cs : List Char) :
    ((∃ pieces, splitTop sep cs = some pieces) ↔ Balanced cs) ∧
    ∀ pieces, splitTop sep cs = some pieces →
      Text.joinWith [sep] pieces = cs ∧
      (∀ piece ∈ pieces, Balanced piece ∧ Unbroken sep piece) ∧
      ∀ others, Text.joinWith [sep] others = cs →
        (∀ piece ∈ others, Balanced piece ∧ Unbroken sep piece) →
        others = pieces ∨ others = [] ∧ cs = [] := by
  have hPlain : isPlain sep = true := by
    simp only [List.mem_cons, List.not_mem_nil, or_false] at hSep
    rcases hSep with rfl | rfl | rfl | rfl <;> rfl
  refine ⟨exists_splitTop_iff hPlain, ?_⟩
  intro pieces hSplit
  have hCut := splitTop_eq_some_iff_isCut.mp hSplit
  refine ⟨hCut.joined, ?_, ?_⟩
  · intro piece hMem
    have hPiece := hCut.piece piece hMem
    exact ⟨hPiece.balanced, hPiece.unbroken⟩
  · intro others hJoined hOthers
    by_cases hNone : others = []
    · subst hNone
      exact .inr ⟨rfl, hJoined.symm⟩
    · left
      have hPieces : ∀ piece ∈ others, IsPiece sep piece :=
        fun piece hMem =>
          (isPiece_iff_unbroken hPlain).mpr (hOthers piece hMem).2
      have hOther : splitTop sep cs = some others :=
        splitTop_eq_some_iff_isCut.mpr ⟨hNone, hJoined, hPieces⟩
      exact Option.some.inj (hOther.symm.trans hSplit)

/- A bar in brackets or in quotes is no place to cut. -/
theorem splitTop_only_way_sample :
    '|' ∈ [';', '|', ',', ':'] ∧
      splitTop '|' "div[lang|=en]|a[title='x]|y']".toList =
        some ["div[lang|=en]".toList, "a[title='x]|y']".toList] ∧
      Balanced "div[lang|=en]|a[title='x]|y']".toList ∧
      Unbroken '|' "a[title='x]|y']".toList := by
  have hBar : '|' ∈ [';', '|', ',', ':'] := by simp
  have hSplit :
      splitTop '|' "div[lang|=en]|a[title='x]|y']".toList =
        some ["div[lang|=en]".toList, "a[title='x]|y']".toList] := by
    decide +kernel
  rcases splitTop_only_way hBar "div[lang|=en]|a[title='x]|y']".toList with
    ⟨hBalanced, hPieces⟩
  rcases hPieces _ hSplit with ⟨_, hEach, _⟩
  exact ⟨hBar, hSplit, hBalanced.mp ⟨_, hSplit⟩, (hEach _ (by simp)).2⟩

end Selector

end Gleaner
