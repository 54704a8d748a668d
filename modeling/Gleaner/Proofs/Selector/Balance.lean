import Gleaner.Proofs.Selector.Cutting

/-
  Balanced texts as a grammar.  The reader that keeps the
  brackets that are due reads exactly these texts to the end,
  and it cuts exactly where the text in front is balanced.

  Main declarations:
    * `Selector.Balanced`
    * `Selector.IsCut`
    * `Selector.isBalanced_iff`
    * `Selector.isUncut_iff`
    * `Selector.splitTop_eq_some_iff_isCut`
-/

namespace Gleaner

namespace Selector

open Nesting

------------------------------------------------------------
-- The Grammar
------------------------------------------------------------

/-
  A text is balanced if it is empty, or if a balanced text
  follows a plain character, a text in quotes, or a balanced
  text in brackets.  Only the same quote ends a quoted text.
-/
inductive Balanced : List Char → Prop
  | nil : Balanced []
  | plain
      {c : Char}
      {cs : List Char}
      (hPlain : isPlain c = true)
      (hRest : Balanced cs) :
      Balanced (c :: cs)
  | quoted
      {q : Char}
      {text cs : List Char}
      (hQuote : isQuote q = true)
      (hText : q ∉ text)
      (hRest : Balanced cs) :
      Balanced (q :: (text ++ q :: cs))
  | bracketed
      {opener closer : Char}
      {inside cs : List Char}
      (hOpener : closerOf? opener = some closer)
      (hInside : Balanced inside)
      (hRest : Balanced cs) :
      Balanced (opener :: (inside ++ closer :: cs))

/- Balanced texts one behind the other are balanced. -/
theorem Balanced.append
    {cs ds : List Char}
    (hFirst : Balanced cs)
    (hSecond : Balanced ds) :
    Balanced (cs ++ ds) := by
  induction hFirst with
  | nil => exact hSecond
  | plain hPlain _ ih => exact .plain hPlain ih
  | quoted hQuote hText _ ih =>
      simpa using Balanced.quoted hQuote hText ih
  | bracketed hOpener hInside _ _ ih =>
      simpa using Balanced.bracketed hOpener hInside ih

/-
  A separator stands at the top level if the text in front of
  it is balanced.  A piece is balanced and has no separator at
  its top level.
-/
structure IsPiece (sep : Char) (cs : List Char) : Prop where
  balanced : Balanced cs
  uncut : ∀ front back, cs = front ++ sep :: back → ¬ Balanced front

/- Pieces that make up a text with separators between. -/
structure IsCut
    (sep : Char)
    (cs : List Char)
    (pieces : List (List Char)) : Prop where
  some : pieces ≠ []
  joined : Text.joinWith [sep] pieces = cs
  piece : ∀ piece ∈ pieces, IsPiece sep piece

------------------------------------------------------------
-- Balanced Texts Are Read
------------------------------------------------------------

/- A text is read piece by piece. -/
theorem run_append
    (n : Nesting)
    (cs ds : List Char) :
    n.run (cs ++ ds) = (n.run cs).bind fun m => m.run ds := by
  induction cs generalizing n with
  | nil => rfl
  | cons c cs ih =>
      rw [List.cons_append, run, run]
      cases n.step c with
      | none => rfl
      | some m => exact ih m

/- Inside quotes all is read but the quote itself. -/
theorem run_quoted
    {q : Char}
    {text : List Char}
    (hText : q ∉ text)
    (due : List Char) :
    (⟨some q, due⟩ : Nesting).run text = some ⟨some q, due⟩ := by
  induction text with
  | nil => rfl
  | cons c text ih =>
      have hDiffers : (c == q) = false := by
        rw [beq_eq_false_iff_ne]
        exact (List.ne_of_not_mem_cons hText).symm
      rw [run, step_quoted, hDiffers]
      exact ih (List.not_mem_of_not_mem_cons hText)

/- A balanced text leaves open what was open before. -/
theorem Balanced.run_eq
    {cs : List Char}
    (hBalanced : Balanced cs)
    (due : List Char) :
    (⟨none, due⟩ : Nesting).run cs = some ⟨none, due⟩ := by
  induction hBalanced generalizing due with
  | nil => rfl
  | @plain c cs hPlain _ ih =>
      have hSound : (⟨none, due⟩ : Nesting).IsSound := by
        intro r hr
        cases hr
      rw [run, step_of_isPlain hSound hPlain]
      exact ih due
  | @quoted q text cs hQuote hText _ ih =>
      rw [run, step_quote hQuote]
      simp only [run_append, run_quoted hText, Option.bind_some, run,
        step_quoted, beq_self_eq_true, if_true]
      exact ih due
  | @bracketed opener closer inside cs hOpener _ _ ihInside ih =>
      rcases of_closerOf?_eq_some hOpener with ⟨_, _, _, hCloser⟩
      rw [run, step_opener hOpener]
      simp only [run_append, ihInside, Option.bind_some, run,
        step_closer hCloser]
      exact ih due

------------------------------------------------------------
-- Texts That Are Read Are Balanced
------------------------------------------------------------

/-
  What is left to be read while brackets are due: a balanced
  text in front of each of them, and one at the end.
-/
inductive Closes : List Char → List Char → Prop
  | nil
      {cs : List Char}
      (hRest : Balanced cs) :
      Closes [] cs
  | cons
      {d : Char}
      {due inside cs : List Char}
      (hInside : Balanced inside)
      (hRest : Closes due cs) :
      Closes (d :: due) (inside ++ d :: cs)

/- A balanced text may come in front of what is left. -/
theorem Closes.prepend
    {due front cs : List Char}
    (hFront : Balanced front)
    (hCloses : Closes due cs) :
    Closes due (front ++ cs) := by
  cases hCloses with
  | nil hRest => exact .nil (hFront.append hRest)
  | cons hInside hRest =>
      rw [← List.append_assoc]
      exact .cons (hFront.append hInside) hRest

/-
  What is read to the end closes all that is due, behind the
  quote that is open, if there is one.
-/
theorem closes_of_run (cs : List Char) :
    (∀ due, (⟨none, due⟩ : Nesting).run cs = some .closed →
      Closes due cs) ∧
    (∀ q due, (⟨some q, due⟩ : Nesting).run cs = some .closed →
      ∃ text rest, cs = text ++ q :: rest ∧ q ∉ text ∧
        Closes due rest) := by
  induction cs with
  | nil =>
      constructor
      · intro due hRun
        cases hRun
        exact .nil .nil
      · intro q due hRun
        cases hRun
  | cons c cs ih =>
      rcases ih with ⟨ihOpen, ihQuoted⟩
      constructor
      · intro due hRun
        rw [run] at hRun
        split at hRun
        · rename_i m hStep
          rcases step_cases hStep with
            ⟨_, _, hOpen, _⟩ | ⟨_, hOpen, hQuote, rfl⟩ |
            ⟨d, _, hOpen, hOpener, rfl⟩ | ⟨rest, hOpen, _, rfl⟩ |
            ⟨_, hOpen, hPlain, rfl⟩
          · cases hOpen
          · cases hOpen
            rcases ihQuoted c due hRun with ⟨text, rest, rfl, hText, hRest⟩
            simpa using hRest.prepend (.quoted hQuote hText .nil)
          · cases hOpen
            cases ihOpen (d :: due) hRun with
            | @cons _ _ inside rest hInside hRest =>
                simpa using
                  hRest.prepend (.bracketed hOpener hInside .nil)
          · cases hOpen
            exact .cons .nil (ihOpen rest hRun)
          · cases hOpen
            exact (ihOpen due hRun).prepend (.plain hPlain .nil)
        · cases hRun
      · intro q due hRun
        rw [run, step_quoted] at hRun
        by_cases hSame : c = q
        · subst hSame
          rw [beq_self_eq_true] at hRun
          exact ⟨[], cs, rfl, List.not_mem_nil, ihOpen due hRun⟩
        · have hDiffers : (c == q) = false := by
            rw [beq_eq_false_iff_ne]
            exact hSame
          rw [hDiffers] at hRun
          rcases ihQuoted q due hRun with ⟨text, rest, rfl, hText, hRest⟩
          exact ⟨c :: text, rest, rfl,
            List.not_mem_cons_of_ne_of_not_mem (Ne.symm hSame) hText,
            hRest⟩

/- Reading ends with nothing open on the balanced texts. -/
theorem run_closed_iff {cs : List Char} :
    Nesting.closed.run cs = some .closed ↔ Balanced cs := by
  constructor
  · intro hRun
    cases (closes_of_run cs).1 [] hRun with
    | nil hBalanced => exact hBalanced
  · intro hBalanced
    exact hBalanced.run_eq []

/- The balanced texts are those of the grammar. -/
theorem isBalanced_iff {cs : List Char} :
    isBalanced cs = true ↔ Balanced cs := by
  rw [isBalanced, beq_iff_eq]
  exact run_closed_iff

------------------------------------------------------------
-- Cuts at the Top Level
------------------------------------------------------------

/-
  A text is not cut if it is read to its end, and something is
  open in front of every separator.
-/
theorem isUncut_iff_run
    {sep : Char}
    {n : Nesting}
    {cs : List Char} :
    isUncut sep n cs = true ↔
      n.run cs = some .closed ∧
        ∀ front back, cs = front ++ sep :: back →
          n.run front ≠ some .closed := by
  constructor
  · intro hUncut
    refine ⟨run_of_isUncut hUncut, ?_⟩
    intro front back hCut hRun
    induction front generalizing n cs with
    | nil =>
        subst hCut
        cases hRun
        rcases isUncut_cons_iff.mp hUncut with ⟨hNoCut, _⟩
        exact hNoCut ⟨rfl, rfl⟩
    | cons c front ih =>
        subst hCut
        rcases isUncut_cons_iff.mp hUncut with ⟨_, m, hStep, hRest⟩
        rw [run, hStep] at hRun
        exact ih hRest rfl hRun
  · rintro ⟨hRun, hOpen⟩
    induction cs generalizing n with
    | nil =>
        cases hRun
        simp [isUncut]
    | cons c cs ih =>
        rw [run] at hRun
        split at hRun
        · rename_i m hStep
          refine isUncut_cons_iff.mpr ⟨?_, m, hStep, ih hRun ?_⟩
          · rintro ⟨rfl, rfl⟩
            exact hOpen [] cs rfl rfl
          · intro front back hCut hFront
            apply hOpen (c :: front) back (by rw [hCut]; rfl)
            rw [run, hStep]
            exact hFront
        · cases hRun

/- The texts that are not cut are the pieces. -/
theorem isUncut_iff
    {sep : Char}
    {cs : List Char} :
    isUncut sep .closed cs = true ↔ IsPiece sep cs := by
  rw [isUncut_iff_run]
  constructor
  · rintro ⟨hRun, hOpen⟩
    refine ⟨run_closed_iff.mp hRun, ?_⟩
    intro front back hCut hFront
    exact hOpen front back hCut (run_closed_iff.mpr hFront)
  · intro hPiece
    refine ⟨run_closed_iff.mpr hPiece.balanced, ?_⟩
    intro front back hCut hFront
    exact hPiece.uncut front back hCut (run_closed_iff.mp hFront)

/- Cutting finds exactly the pieces between the separators. -/
theorem splitTop_eq_some_iff_isCut
    {sep : Char}
    {cs : List Char}
    {pieces : List (List Char)} :
    splitTop sep cs = some pieces ↔ IsCut sep cs pieces := by
  rw [splitTop_eq_some_iff]
  constructor
  · rintro ⟨hSome, hUncut, hJoin⟩
    exact ⟨hSome, hJoin, fun piece hPiece =>
      isUncut_iff.mp (hUncut piece hPiece)⟩
  · intro hCut
    exact ⟨hCut.some, fun piece hPiece =>
      isUncut_iff.mpr (hCut.piece piece hPiece), hCut.joined⟩

end Selector

end Gleaner
