import Gleaner.Proofs.Text.Trimming
import Gleaner.Selector.Nesting

/-
  Cutting at the top level: the pieces make up the text again,
  and none of them can be cut any further.

  Main declarations:
    * `Nesting.isPlain`
    * `Selector.isUncut`
    * `Selector.splitFrom_eq_some`
    * `Selector.splitTop_joinWith`
    * `Selector.isSome_splitTop`
    * `Selector.isUncut_congr`
    * `Selector.isUncut_wrap`
-/

namespace Gleaner

namespace Nesting

------------------------------------------------------------
-- Plain Characters
------------------------------------------------------------

/- A character that is no quote and no bracket. -/
def isPlain (c : Char) : Bool :=
  !isQuote c && (closerOf? c).isNone && !isCloser c

/- Only a quote can be what ends a quoted text. -/
def IsSound (n : Nesting) : Prop :=
  ∀ q, n.quote = some q → isQuote q = true

theorem isSound_closed : closed.IsSound := by
  intro q hq
  cases hq

------------------------------------------------------------
-- Reading One Character
------------------------------------------------------------

/- Inside quotes only the same quote has a meaning. -/
theorem step_quoted
    (q : Char)
    (due : List Char)
    (c : Char) :
    (⟨some q, due⟩ : Nesting).step c =
      some ⟨if c == q then none else some q, due⟩ := by
  simp only [step]
  split <;> rfl

/- A quote outside quotes opens a quoted text. -/
theorem step_quote
    {c : Char}
    (hQuote : isQuote c = true)
    (due : List Char) :
    (⟨none, due⟩ : Nesting).step c = some ⟨some c, due⟩ := by
  simp [step, hQuote]

/- An opening bracket is no quote, no closing bracket and not plain. -/
theorem of_closerOf?_eq_some
    {c d : Char}
    (hOpener : closerOf? c = some d) :
    isQuote c = false ∧ isCloser c = false ∧ isPlain c = false ∧
      isCloser d = true := by
  unfold closerOf? at hOpener
  split at hOpener <;> cases hOpener <;> decide

/- A closing bracket is no quote and no opening bracket. -/
theorem of_isCloser
    {c : Char}
    (hCloser : isCloser c = true) :
    isQuote c = false ∧ closerOf? c = none := by
  simp only [isCloser, Bool.or_eq_true, beq_iff_eq] at hCloser
  rcases hCloser with (rfl | rfl) | rfl <;> decide

/- An opening bracket makes its closing bracket due. -/
theorem step_opener
    {c d : Char}
    (hOpener : closerOf? c = some d)
    (due : List Char) :
    (⟨none, due⟩ : Nesting).step c = some ⟨none, d :: due⟩ := by
  rcases of_closerOf?_eq_some hOpener with ⟨hQuote, _⟩
  simp [step, hQuote, hOpener]

/- A closing bracket that is due closes. -/
theorem step_closer
    {c : Char}
    (hCloser : isCloser c = true)
    (due : List Char) :
    (⟨none, c :: due⟩ : Nesting).step c = some ⟨none, due⟩ := by
  rcases of_isCloser hCloser with ⟨hQuote, hOpener⟩
  simp [step, hQuote, hOpener, hCloser]

/- A plain character leaves everything as it is. -/
theorem step_of_isPlain
    {n : Nesting}
    {c : Char}
    (hSound : n.IsSound)
    (hPlain : isPlain c = true) :
    n.step c = some n := by
  simp only [isPlain, Bool.and_eq_true, Bool.not_eq_true',
    Option.isNone_iff_eq_none] at hPlain
  rcases hPlain with ⟨⟨hQuote, hOpener⟩, hCloser⟩
  rcases n with ⟨quote, due⟩
  cases quote with
  | none => simp [step, hQuote, hOpener, hCloser]
  | some q =>
      have hOther : (c == q) = false := by
        rw [beq_eq_false_iff_ne]
        rintro rfl
        rw [hSound c rfl] at hQuote
        cases hQuote
      rw [step_quoted, hOther]
      rfl

/- All that reading a character can do. -/
theorem step_cases
    {n m : Nesting}
    {c : Char}
    (hStep : n.step c = some m) :
    (∃ q due, n = ⟨some q, due⟩ ∧
      m = ⟨if c == q then none else some q, due⟩) ∨
    (∃ due, n = ⟨none, due⟩ ∧ isQuote c = true ∧
      m = ⟨some c, due⟩) ∨
    (∃ d due, n = ⟨none, due⟩ ∧ closerOf? c = some d ∧
      m = ⟨none, d :: due⟩) ∨
    (∃ due, n = ⟨none, c :: due⟩ ∧ isCloser c = true ∧
      m = ⟨none, due⟩) ∨
    (∃ due, n = ⟨none, due⟩ ∧ isPlain c = true ∧ m = n) := by
  rcases n with ⟨quote, due⟩
  cases quote with
  | some q =>
      rw [step_quoted] at hStep
      exact .inl ⟨q, due, rfl, (Option.some.inj hStep).symm⟩
  | none =>
      cases hQuote : isQuote c with
      | true =>
          rw [step_quote hQuote] at hStep
          exact .inr (.inl
            ⟨due, rfl, rfl, (Option.some.inj hStep).symm⟩)
      | false =>
          cases hOpener : closerOf? c with
          | some d =>
              rw [step_opener hOpener] at hStep
              exact .inr (.inr (.inl
                ⟨d, due, rfl, rfl, (Option.some.inj hStep).symm⟩))
          | none =>
              cases hCloser : isCloser c with
              | true =>
                  cases due with
                  | nil => simp [step, hQuote, hOpener, hCloser] at hStep
                  | cons d due =>
                      simp only [step, hQuote, hOpener, hCloser,
                        Bool.false_eq_true, if_false, if_true] at hStep
                      split at hStep
                      · rename_i hSame
                        rw [beq_iff_eq] at hSame
                        subst hSame
                        exact .inr (.inr (.inr (.inl
                          ⟨due, rfl, rfl,
                            (Option.some.inj hStep).symm⟩)))
                      · cases hStep
              | false =>
                  have hPlain : isPlain c = true := by
                    simp [isPlain, hQuote, hOpener, hCloser]
                  simp only [step, hQuote, hOpener, hCloser,
                    Bool.false_eq_true, if_false] at hStep
                  exact .inr (.inr (.inr (.inr
                    ⟨due, rfl, hPlain, (Option.some.inj hStep).symm⟩)))

/- Reading a character keeps only quotes as ends of quotes. -/
theorem isSound_step
    {n m : Nesting}
    {c : Char}
    (hSound : n.IsSound)
    (hStep : n.step c = some m) :
    m.IsSound := by
  rcases step_cases hStep with
    ⟨q, due, rfl, rfl⟩ | ⟨due, rfl, hQuote, rfl⟩ |
    ⟨d, due, rfl, _, rfl⟩ | ⟨due, rfl, _, rfl⟩ | ⟨due, rfl, _, rfl⟩
  · intro r hr
    simp only at hr
    split at hr
    · cases hr
    · exact hSound r hr
  · intro r hr
    cases hr
    exact hQuote
  · exact hSound
  · exact hSound
  · exact hSound

------------------------------------------------------------
-- Reading inside Brackets
------------------------------------------------------------

/- The same with more brackets open around it. -/
def inside (n : Nesting) (due : List Char) : Nesting :=
  ⟨n.quote, n.due ++ due⟩

/- A character is read alike inside brackets. -/
theorem step_inside
    {n m : Nesting}
    {c : Char}
    (due : List Char)
    (hStep : n.step c = some m) :
    (n.inside due).step c = some (m.inside due) := by
  rcases step_cases hStep with
    ⟨q, open₀, rfl, rfl⟩ | ⟨open₀, rfl, hQuote, rfl⟩ |
    ⟨d, open₀, rfl, hOpener, rfl⟩ | ⟨open₀, rfl, hCloser, rfl⟩ |
    ⟨open₀, rfl, hPlain, rfl⟩
  · exact step_quoted q (open₀ ++ due) c
  · exact step_quote hQuote (open₀ ++ due)
  · exact step_opener hOpener (open₀ ++ due)
  · exact step_closer hCloser (open₀ ++ due)
  · have hSound : (⟨none, open₀ ++ due⟩ : Nesting).IsSound := by
      intro r hr
      cases hr
    exact step_of_isPlain hSound hPlain

/- What is open inside brackets is not nothing. -/
theorem inside_ne_closed
    (n : Nesting)
    (d : Char)
    (due : List Char) :
    n.inside (d :: due) ≠ closed := by
  intro hSame
  have hDue := congrArg Nesting.due hSame
  simp [inside, closed] at hDue

end Nesting

namespace Selector

open Nesting

------------------------------------------------------------
-- Pieces
------------------------------------------------------------

/-
  All brackets and quotes are closed at the end of the text, and
  no separator stands where nothing is open.
-/
def isUncut (sep : Char) (n : Nesting) : List Char → Bool
  | [] => n = .closed
  | c :: rest =>
      if n = .closed ∧ c = sep then false
      else
        match n.step c with
        | some m => isUncut sep m rest
        | none => false

variable {sep : Char} {n : Nesting} {cs ds : List Char}

/- All that it takes for a text not to be cut. -/
theorem isUncut_cons_iff {c : Char} :
    isUncut sep n (c :: cs) = true ↔
      ¬ (n = .closed ∧ c = sep) ∧
        ∃ m, n.step c = some m ∧ isUncut sep m cs = true := by
  rw [isUncut]
  split
  · rename_i hCut
    simp [hCut]
  · rename_i hCut
    cases n.step c with
    | none => simp
    | some m => simp [hCut]

/- A text that is not cut is read to its end. -/
theorem run_of_isUncut
    (hUncut : isUncut sep n cs = true) :
    n.run cs = some .closed := by
  induction cs generalizing n with
  | nil => simpa [isUncut, run] using hUncut
  | cons c cs ih =>
      rcases isUncut_cons_iff.mp hUncut with ⟨_, m, hStep, hRest⟩
      rw [run, hStep]
      exact ih hRest

/- A text that is not cut is balanced. -/
theorem isBalanced_of_isUncut
    (hUncut : isUncut sep .closed cs = true) :
    isBalanced cs = true := by
  rw [isBalanced, run_of_isUncut hUncut]
  rfl

/- A text that is not cut is its only piece. -/
theorem splitFrom_of_isUncut
    (hUncut : isUncut sep n cs = true) :
    splitFrom sep n cs = some [cs] := by
  induction cs generalizing n with
  | nil =>
      have hClosed : n = .closed := by simpa [isUncut] using hUncut
      rw [splitFrom, if_pos hClosed]
  | cons c cs ih =>
      rcases isUncut_cons_iff.mp hUncut with ⟨hCut, m, hStep, hRest⟩
      rw [splitFrom, if_neg hCut, hStep]
      simp [ih hRest, addToFirst]

/- A separator behind a text that is not cut ends a piece. -/
theorem splitFrom_append
    (hUncut : isUncut sep n cs = true)
    (rest : List Char) :
    splitFrom sep n (cs ++ sep :: rest) =
      (splitTop sep rest).map (cs :: ·) := by
  induction cs generalizing n with
  | nil =>
      have hClosed : n = .closed := by simpa [isUncut] using hUncut
      rw [List.nil_append, splitFrom, if_pos ⟨hClosed, rfl⟩, hClosed]
      rfl
  | cons c cs ih =>
      rcases isUncut_cons_iff.mp hUncut with ⟨hCut, m, hStep, hRest⟩
      rw [List.cons_append, splitFrom, if_neg hCut, hStep]
      simp [ih hRest, Option.map_map, Function.comp_def, addToFirst]

/- Pieces that are not cut are found again in the joined text. -/
theorem splitTop_joinWith
    {pieces : List (List Char)}
    (hSome : pieces ≠ [])
    (hUncut : ∀ piece ∈ pieces, isUncut sep .closed piece = true) :
    splitTop sep (Text.joinWith [sep] pieces) = some pieces := by
  induction pieces with
  | nil => exact absurd rfl hSome
  | cons piece pieces ih =>
      have hPiece := hUncut piece List.mem_cons_self
      cases pieces with
      | nil => exact splitFrom_of_isUncut hPiece
      | cons next pieces =>
          have hRest :=
            ih (List.cons_ne_nil _ _) fun p hp =>
              hUncut p (List.mem_cons_of_mem _ hp)
          rw [Text.joinWith_cons_cons, splitTop,
            splitFrom_append hPiece, hRest]
          rfl

/-
  The pieces of a text make it up again, and no piece is cut:
  the first starts with what is open before, the others with
  nothing open.
-/
theorem splitFrom_eq_some
    {pieces : List (List Char)}
    (hSplit : splitFrom sep n cs = some pieces) :
    ∃ first rest, pieces = first :: rest ∧
      isUncut sep n first = true ∧
      (∀ piece ∈ rest, isUncut sep .closed piece = true) ∧
      Text.joinWith [sep] pieces = cs := by
  induction cs generalizing n pieces with
  | nil =>
      rw [splitFrom] at hSplit
      split at hSplit
      · rename_i hClosed
        cases hSplit
        exact ⟨[], [], rfl, by simp [isUncut, hClosed], by simp, rfl⟩
      · cases hSplit
  | cons c cs ih =>
      rw [splitFrom] at hSplit
      split at hSplit
      · rename_i hCut
        rcases Option.map_eq_some_iff.mp hSplit with
          ⟨pieces, hRest, rfl⟩
        rcases ih hRest with ⟨first, rest, rfl, hFirst, hOthers, hJoin⟩
        refine ⟨[], first :: rest, rfl, ?_, ?_, ?_⟩
        · simp [isUncut, hCut.1]
        · intro piece hPiece
          rcases List.mem_cons.mp hPiece with rfl | hPiece
          · rw [hCut.1] at hFirst
            exact hFirst
          · exact hOthers piece hPiece
        · rw [Text.joinWith_cons_cons, hJoin, hCut.2]
          rfl
      · rename_i hCut
        cases hStep : n.step c with
        | none =>
            rw [hStep] at hSplit
            cases hSplit
        | some m =>
            rw [hStep] at hSplit
            rcases Option.map_eq_some_iff.mp hSplit with
              ⟨pieces, hRest, rfl⟩
            rcases ih hRest with
              ⟨first, rest, rfl, hFirst, hOthers, hJoin⟩
            refine ⟨c :: first, rest, rfl, ?_, hOthers, ?_⟩
            · exact isUncut_cons_iff.mpr ⟨hCut, m, hStep, hFirst⟩
            · rw [← hJoin]
              cases rest with
              | nil => rfl
              | cons next rest =>
                  simp [addToFirst, Text.joinWith_cons_cons]

/- The pieces of a text are the one way to cut it. -/
theorem splitTop_eq_some_iff
    {pieces : List (List Char)} :
    splitTop sep cs = some pieces ↔
      pieces ≠ [] ∧
        (∀ piece ∈ pieces, isUncut sep .closed piece = true) ∧
        Text.joinWith [sep] pieces = cs := by
  constructor
  · intro hSplit
    rcases splitFrom_eq_some hSplit with
      ⟨first, rest, rfl, hFirst, hOthers, hJoin⟩
    refine ⟨List.cons_ne_nil _ _, ?_, hJoin⟩
    intro piece hPiece
    rcases List.mem_cons.mp hPiece with rfl | hPiece
    · exact hFirst
    · exact hOthers piece hPiece
  · rintro ⟨hSome, hUncut, rfl⟩
    exact splitTop_joinWith hSome hUncut

/- A text can be cut where it can be read to its end. -/
theorem isSome_splitFrom
    (hPlain : isPlain sep = true) :
    (splitFrom sep n cs).isSome = true ↔ n.run cs = some .closed := by
  induction cs generalizing n with
  | nil =>
      rw [splitFrom, run]
      split
      · rename_i hClosed
        simp [hClosed]
      · rename_i hOpen
        simp [hOpen]
  | cons c cs ih =>
      rw [splitFrom, run]
      split
      · rename_i hCut
        rcases hCut with ⟨rfl, rfl⟩
        rw [step_of_isPlain isSound_closed hPlain, Option.isSome_map]
        exact ih
      · cases n.step c with
        | none => simp
        | some m =>
            rw [Option.isSome_map]
            exact ih

/- A text can be cut if it is balanced. -/
theorem isSome_splitTop
    (hPlain : isPlain sep = true) :
    (splitTop sep cs).isSome = true ↔ isBalanced cs = true := by
  rw [splitTop, isSome_splitFrom hPlain, isBalanced, beq_iff_eq]

/- What is cut is balanced. -/
theorem isBalanced_of_splitTop_eq_some
    {pieces : List (List Char)}
    (hPlain : isPlain sep = true)
    (hSplit : splitTop sep cs = some pieces) :
    isBalanced cs = true := by
  rw [← isSome_splitTop hPlain, hSplit]
  rfl

------------------------------------------------------------
-- What Cutting Looks At
------------------------------------------------------------

/- What decides where a text is cut. -/
def isMark (sep c : Char) : Bool :=
  !isPlain c || c == sep

/- Nothing else decides whether a text is cut. -/
theorem isUncut_filter
    (hSound : n.IsSound) :
    isUncut sep n (cs.filter (isMark sep)) = isUncut sep n cs := by
  induction cs generalizing n with
  | nil => rfl
  | cons c cs ih =>
      cases hMark : isMark sep c with
      | true =>
          rw [List.filter_cons_of_pos hMark, isUncut, isUncut]
          split
          · rfl
          · cases hStep : n.step c with
            | none => rfl
            | some m => exact ih (isSound_step hSound hStep)
      | false =>
          simp only [isMark, Bool.or_eq_false_iff, Bool.not_eq_false',
            beq_eq_false_iff_ne] at hMark
          rcases hMark with ⟨hPlain, hOther⟩
          rw [List.filter_cons_of_neg (by simp [isMark, hPlain, hOther]),
            ih hSound, isUncut, if_neg (by simp [hOther]),
            step_of_isPlain hSound hPlain]

/- Texts with the same marks are cut alike. -/
theorem isUncut_congr
    (hMarks : cs.filter (isMark sep) = ds.filter (isMark sep)) :
    isUncut sep .closed cs = isUncut sep .closed ds := by
  rw [← isUncut_filter isSound_closed, hMarks,
    isUncut_filter isSound_closed]

------------------------------------------------------------
-- Texts in Quotes and in Brackets
------------------------------------------------------------

/- Inside quotes nothing is cut. -/
theorem isUncut_quoted
    {q : Char}
    {text : List Char}
    (hText : q ∉ text)
    (rest : List Char) :
    isUncut sep ⟨some q, []⟩ (text ++ q :: rest) =
      isUncut sep .closed rest := by
  have hOpen : (⟨some q, []⟩ : Nesting) ≠ .closed := by
    rintro ⟨⟩
  induction text with
  | nil =>
      rw [List.nil_append, isUncut, if_neg fun hCut => hOpen hCut.1,
        step_quoted, beq_self_eq_true]
      rfl
  | cons c text ih =>
      have hDiffers : (c == q) = false := by
        rw [beq_eq_false_iff_ne]
        exact (List.ne_of_not_mem_cons hText).symm
      rw [List.cons_append, isUncut, if_neg fun hCut => hOpen hCut.1,
        step_quoted, hDiffers]
      exact ih (List.not_mem_of_not_mem_cons hText)

/- Inside a bracket nothing is cut. -/
theorem isUncut_inside
    {m : Nesting}
    (d : Char)
    (due : List Char)
    (hRun : n.run cs = some m)
    (rest : List Char) :
    isUncut sep (n.inside (d :: due)) (cs ++ rest) =
      isUncut sep (m.inside (d :: due)) rest := by
  induction cs generalizing n with
  | nil =>
      cases hRun
      rfl
  | cons c cs ih =>
      rw [run] at hRun
      cases hStep : n.step c with
      | none =>
          rw [hStep] at hRun
          cases hRun
      | some k =>
          rw [hStep] at hRun
          rw [List.cons_append, isUncut,
            if_neg fun hCut => inside_ne_closed n d due hCut.1,
            step_inside (d :: due) hStep]
          exact ih hRun

/- Behind a balanced text in brackets it matters what follows. -/
theorem isUncut_bracketed
    {opener closer : Char}
    (hOpener : closerOf? opener = some closer)
    (hSep : opener ≠ sep)
    (hBalanced : isBalanced cs = true)
    (rest : List Char) :
    isUncut sep .closed (opener :: (cs ++ closer :: rest)) =
      isUncut sep .closed rest := by
  rcases of_closerOf?_eq_some hOpener with ⟨_, _, _, hCloser⟩
  have hOpen : closed.inside [closer] ≠ closed :=
    inside_ne_closed closed closer []
  rw [isBalanced, beq_iff_eq] at hBalanced
  calc
    isUncut sep .closed (opener :: (cs ++ closer :: rest)) =
        isUncut sep (closed.inside [closer]) (cs ++ closer :: rest) := by
      rw [isUncut, if_neg fun hCut => hSep hCut.2]
      simp only [closed, step_opener hOpener]
      rfl
    _ = isUncut sep (closed.inside [closer]) (closer :: rest) :=
      isUncut_inside closer [] hBalanced (closer :: rest)
    _ = isUncut sep .closed rest := by
      rw [isUncut, if_neg fun hCut => hOpen hCut.1]
      simp only [inside, closed, List.nil_append, step_closer hCloser]

/- A balanced text in brackets is not cut. -/
theorem isUncut_wrap
    {opener closer : Char}
    (hOpener : closerOf? opener = some closer)
    (hSep : opener ≠ sep)
    (hBalanced : isBalanced cs = true) :
    isUncut sep .closed (opener :: (cs ++ [closer])) = true := by
  rw [isUncut_bracketed hOpener hSep hBalanced]
  rfl

end Selector

end Gleaner
