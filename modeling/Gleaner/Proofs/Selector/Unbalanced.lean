import Gleaner.Proofs.Selector.Acceptance

/-
  Which texts are refused for their brackets: those that are not
  balanced, and balanced ones in which the two ends of a last
  segment look like a group but are brackets of different groups.

  Main declarations:
    * `Selector.IsTorn`
    * `Selector.IsTornLevel`
    * `Selector.IsTornTail`
    * `Selector.IsTornText`
    * `Selector.readLevel_eq_unbalanced_iff`
    * `Selector.readTail_eq_unbalanced_iff`
    * `Selector.parse_eq_unbalanced_iff`
-/

namespace Gleaner

namespace Selector

open Nesting

------------------------------------------------------------
-- Torn Segments
------------------------------------------------------------

/-
  A piece begins and ends with the brackets of a group, but what
  stands between them is not balanced.
-/
def IsTorn (opener closer : Char) (piece : List Char) : Prop :=
  ∃ inside, IsBetween opener closer inside piece ∧ ¬ Balanced inside

/- A piece is written neither as a style pair nor as a list. -/
def IsUnenclosed (piece : List Char) : Prop :=
  ∀ inside, ¬ IsBetween '{' '}' inside piece ∧
    ¬ IsBetween '(' ')' inside piece

/- A level whose last piece is torn where a style pair may stand. -/
def IsTornLevel (cs : List Char) : Prop :=
  ∃ leading last, IsCascade cs (leading ++ [last]) ∧
    (∀ piece ∈ leading, IsUnenclosed piece) ∧ IsTorn '{' '}' last

/- A tail whose last piece is torn where a pair or a list may stand. -/
def IsTornTail (cs : List Char) : Prop :=
  ∃ leading last, IsCascade cs (leading ++ [last]) ∧
    (∀ piece ∈ leading, IsUnenclosed piece) ∧
    (IsTorn '{' '}' last ∨ IsTorn '(' ')' last)

/-
  A text that is torn in one of its parts, where all parts before
  that one are levels.
-/
structure IsTornText (cs : List Char) : Prop where
  filled : ¬ Text.AllBlank cs
  parts : ∃ front last, IsCut ';' cs (front ++ [last]) ∧
    ((∃ early part late, front = early ++ part :: late ∧
        (∀ other ∈ early, IsLevelText (unmarked other)) ∧
        IsTornLevel (unmarked part)) ∨
      ((∀ part ∈ front, IsLevelText (unmarked part)) ∧
        IsTornTail (unmarked last)))

variable {cs segment : List Char}

------------------------------------------------------------
-- Segments and Paths
------------------------------------------------------------

/- A text can be cut at a plain separator if it is balanced. -/
theorem splitTop_eq_none_iff
    (sep : Char)
    (hPlain : isPlain sep = true) :
    splitTop sep cs = none ↔ ¬ Balanced cs := by
  rw [← isBalanced_iff, ← isSome_splitTop hPlain, Bool.not_eq_true,
    Option.isSome_eq_false_iff, Option.isNone_iff_eq_none]

/- Segments are refused for brackets only if the text is unbalanced. -/
theorem readSegments_eq_unbalanced_iff :
    readSegments cs = .error .unbalanced ↔ ¬ Balanced cs := by
  rw [← splitTop_eq_none_iff '|' (by decide), readSegments]
  cases splitTop '|' cs with
  | none => simp
  | some pieces =>
      dsimp only
      split <;> simp

/- So is a path. -/
theorem readPath_eq_unbalanced_iff :
    readPath cs = .error .unbalanced ↔ ¬ Balanced cs := by
  rw [← readSegments_eq_unbalanced_iff, readPath, bind_eq_error_iff]
  simp [pure, Except.pure]

/- The pieces of a cut are balanced, and so is what they make up. -/
theorem balanced_joinWith
    {sep : Char}
    (hPlain : isPlain sep = true)
    {pieces : List (List Char)}
    (hSome : pieces ≠ [])
    (hPieces : ∀ piece ∈ pieces, IsPiece sep piece) :
    Balanced (Text.joinWith [sep] pieces) := by
  have hSplit : splitTop sep (Text.joinWith [sep] pieces) = some pieces :=
    splitTop_eq_some_iff_isCut.mpr ⟨hSome, rfl, hPieces⟩
  exact isBalanced_iff.mp (isBalanced_of_splitTop_eq_some hPlain hSplit)

------------------------------------------------------------
-- Style Pairs and Lists
------------------------------------------------------------

/- A style pair is refused for brackets if its inside is unbalanced. -/
theorem readStyle_eq_unbalanced_iff :
    readStyle segment = .error .unbalanced ↔
      ¬ Balanced (inner segment) := by
  rw [← splitTop_eq_none_iff ':' (by decide)]
  unfold readStyle
  split
  · rename_i hNone
    simp [hNone]
  · rename_i key value more hSplit
    rcases splitTop_eq_some_iff_isCut.mp hSplit with ⟨_, _, hPieces⟩
    rw [List.forall_mem_cons] at hPieces
    have hKey : Balanced key := hPieces.1.balanced
    have hValue : Balanced (Text.joinWith [':'] (value :: more)) :=
      balanced_joinWith (by decide) (List.cons_ne_nil _ _) hPieces.2
    simp only [hSplit, reduceCtorEq, iff_false]
    rw [bind_eq_error_iff, readPath_eq_unbalanced_iff]
    rintro (hNo | ⟨_, _, hRest⟩)
    · exact hNo hKey
    · rw [bind_eq_error_iff, readPath_eq_unbalanced_iff] at hRest
      rcases hRest with hNo | ⟨_, _, hDone⟩
      · exact hNo hValue
      · cases hDone
  · rename_i pieces _ hSplit
    simp [hSplit]

/- A list is refused for brackets if its inside is unbalanced. -/
theorem readAlternatives_eq_unbalanced_iff :
    readAlternatives segment = .error .unbalanced ↔
      ¬ Balanced (inner segment) := by
  rw [← splitTop_eq_none_iff ',' (by decide)]
  unfold readAlternatives
  split
  · rename_i hNone
    simp [hNone]
  · rename_i pieces hSplit
    rcases splitTop_eq_some_iff_isCut.mp hSplit with ⟨_, _, hPieces⟩
    simp only [hSplit, reduceCtorEq, iff_false]
    rw [mapM_eq_error_iff]
    rintro ⟨early, piece, late, rfl, _, hFails⟩
    exact readPath_eq_unbalanced_iff.mp hFails
      (hPieces piece (by simp)).balanced

------------------------------------------------------------
-- Forms of a Piece
------------------------------------------------------------

/- A piece is torn if its segment is enclosed and not balanced inside. -/
theorem isTorn_iff
    {opener closer : Char}
    (hOther : opener ≠ closer)
    {piece : List Char} :
    IsTorn opener closer piece ↔
      isEnclosed opener closer (Text.trim piece) = true ∧
        ¬ Balanced (inner (Text.trim piece)) := by
  constructor
  · rintro ⟨inside, hBetween, hTorn⟩
    rw [IsBetween] at hBetween
    rw [hBetween, inner_enclosed]
    exact ⟨(isEnclosed_iff hOther).mpr ⟨inside, rfl⟩, hTorn⟩
  · rintro ⟨hEnclosed, hTorn⟩
    exact ⟨_, eq_of_isEnclosed hOther hEnclosed, hTorn⟩

/- A piece is not enclosed if its segment is neither pair nor list. -/
theorem isUnenclosed_iff {piece : List Char} :
    IsUnenclosed piece ↔
      isStyle (Text.trim piece) = false ∧
        isMulti (Text.trim piece) = false := by
  rw [IsUnenclosed, forall_and, forall_not_isBetween_iff (by decide),
    forall_not_isBetween_iff (by decide)]
  rfl

/- A style pair is no list. -/
theorem isMulti_eq_false_of_isStyle
    (hStyle : isStyle segment = true) :
    isMulti segment = false := by
  rw [eq_of_isEnclosed (by decide) hStyle, isMulti, isEnclosed_enclosed]
  rfl

/- Of some items the first is the last one, or it leads the others. -/
theorem exists_concat_cons_iff
    {α : Type}
    {P Q : α → Prop}
    {first : α}
    {rest : List α} :
    (∃ leading last, first :: rest = leading ++ [last] ∧
        (∀ item ∈ leading, P item) ∧ Q last) ↔
      rest = [] ∧ Q first ∨
        P first ∧ ∃ leading last, rest = leading ++ [last] ∧
          (∀ item ∈ leading, P item) ∧ Q last := by
  constructor
  · rintro ⟨leading, last, hSame, hLeading, hLast⟩
    cases leading with
    | nil =>
        cases hSame
        exact .inl ⟨rfl, hLast⟩
    | cons item leading =>
        cases hSame
        rw [List.forall_mem_cons] at hLeading
        exact .inr ⟨hLeading.1, leading, last, rfl, hLeading.2, hLast⟩
  · rintro (⟨rfl, hLast⟩ | ⟨hFirst, leading, last, rfl, hLeading, hLast⟩)
    · exact ⟨[], first, rfl, by simp, hLast⟩
    · refine ⟨first :: leading, last, rfl, ?_, hLast⟩
      rw [List.forall_mem_cons]
      exact ⟨hFirst, hLeading⟩

/- A cascade in terms of its segments: all before the last, and it. -/
theorem exists_concat_map_trim_iff
    {pieces : List (List Char)}
    {P Q : List Char → Prop} :
    (∃ leading last, pieces = leading ++ [last] ∧
        (∀ piece ∈ leading, P (Text.trim piece)) ∧
        Q (Text.trim last)) ↔
      ∃ leading last, pieces.map Text.trim = leading ++ [last] ∧
        (∀ segment ∈ leading, P segment) ∧ Q last := by
  constructor
  · rintro ⟨leading, last, rfl, hLeading, hLast⟩
    refine ⟨leading.map Text.trim, Text.trim last, by simp, ?_, hLast⟩
    rw [List.forall_mem_map]
    exact hLeading
  · rintro ⟨leading, last, hSame, hLeading, hLast⟩
    rcases List.map_eq_append_iff.mp hSame with
      ⟨front, back, rfl, rfl, hBack⟩
    rcases List.map_eq_singleton_iff.mp hBack with ⟨piece, rfl, rfl⟩
    rw [List.forall_mem_map] at hLeading
    exact ⟨front, piece, rfl, hLeading, hLast⟩

------------------------------------------------------------
-- Levels
------------------------------------------------------------

/-
  A scope is refused for brackets if its last segment is, as a
  style pair, and the scope is read up to there.
-/
theorem readScope_eq_unbalanced_iff
    {segments : List (List Char)} :
    readScope segments = .error .unbalanced ↔
      ∃ leading last, segments = leading ++ [last] ∧
        (∀ segment ∈ leading,
          isStyle segment = false ∧ isMulti segment = false) ∧
        isStyle last = true ∧ ¬ Balanced (inner last) := by
  induction segments with
  | nil => simp [readScope]
  | cons segment rest ih =>
      rw [exists_concat_cons_iff, ← ih, readScope]
      cases hMulti : isMulti segment with
      | true =>
          have hNoStyle : isStyle segment = false := by
            by_contra hStyle
            rw [Bool.not_eq_false] at hStyle
            rw [isMulti_eq_false_of_isStyle hStyle] at hMulti
            cases hMulti
          simp [hNoStyle]
      | false =>
          cases hStyle : isStyle segment with
          | true =>
              cases rest with
              | nil =>
                  simp only [Bool.false_eq_true, if_false, if_true,
                    List.isEmpty_nil, bind_eq_error_iff,
                    readStyle_eq_unbalanced_iff]
                  simp [pure, Except.pure]
              | cons next rest => simp
          | false =>
              simp only [Bool.false_eq_true, if_false,
                bind_eq_error_iff]
              simp [pure, Except.pure]

/- A part of a text is balanced without its marks. -/
theorem balanced_unmarked
    (hPiece : IsPiece ';' cs) :
    Balanced (unmarked cs) := by
  have hMarks :
      (unmarked cs).filter (isMark ';') = cs.filter (isMark ';') :=
    filter_stripMapping (by decide) 0 cs
  have hUncut : isUncut ';' .closed (unmarked cs) = true := by
    rw [isUncut_congr hMarks]
    exact isUncut_iff.mpr hPiece
  exact isBalanced_iff.mp (isBalanced_of_isUncut hUncut)

/- A part is refused as a level for brackets if it is torn. -/
theorem readLevel_eq_unbalanced_iff
    (hPiece : IsPiece ';' cs) :
    readLevel cs = .error .unbalanced ↔ IsTornLevel (unmarked cs) := by
  have hBalanced := balanced_unmarked hPiece
  unfold readLevel
  unfold unmarked at hBalanced ⊢
  rcases hStrip : stripMapping 0 cs with ⟨mapping, kept⟩
  rw [hStrip] at hBalanced
  dsimp only at hBalanced ⊢
  rw [bind_eq_error_iff, readSegments_eq_unbalanced_iff]
  simp only [hBalanced, not_true_eq_false, false_or]
  constructor
  · rintro ⟨segments, hSegments, hRest⟩
    rcases readSegments_eq_ok_iff.mp hSegments with
      ⟨pieces, hCascade, rfl⟩
    rcases bind_eq_error_iff.mp hRest with hScope | ⟨_, _, hDone⟩
    · rcases exists_concat_map_trim_iff.mpr
          (readScope_eq_unbalanced_iff.mp hScope) with
        ⟨leading, last, rfl, hLeading, hLast⟩
      exact ⟨leading, last, hCascade,
        fun piece hMem => isUnenclosed_iff.mpr (hLeading piece hMem),
        (isTorn_iff (by decide)).mpr hLast⟩
    · cases hDone
  · rintro ⟨leading, last, hCascade, hLeading, hLast⟩
    refine ⟨_, readSegments_eq_ok_iff.mpr ⟨_, hCascade, rfl⟩, ?_⟩
    refine bind_eq_error_iff.mpr (.inl ?_)
    refine readScope_eq_unbalanced_iff.mpr
      (exists_concat_map_trim_iff.mp ⟨leading, last, rfl, ?_,
        (isTorn_iff (by decide)).mp hLast⟩)
    exact fun piece hMem => isUnenclosed_iff.mp (hLeading piece hMem)

------------------------------------------------------------
-- Tails
------------------------------------------------------------

/- The check of leading segments has faults of its own. -/
theorem checkLeading_ne_unbalanced (segments : List (List Char)) :
    checkLeading segments ≠ .error .unbalanced := by
  induction segments with
  | nil => simp [checkLeading]
  | cons segment rest ih =>
      rw [checkLeading]
      split
      · simp
      · split
        · simp
        · exact ih

/- The last segment of a tail is refused for brackets if it is torn. -/
theorem readTail_eq_unbalanced_of_segments_iff
    {levels : List Level}
    {leading : List (List Char)}
    {last : List Char}
    (hBlank : Text.trim (unmarked cs) ≠ [])
    (hSegments : readSegments (unmarked cs) = .ok (leading ++ [last]))
    (hLeading : checkLeading leading = .ok ()) :
    readTail levels cs = .error .unbalanced ↔
      (isStyle last = true ∨ isMulti last = true) ∧
        ¬ Balanced (inner last) := by
  rw [readTail_of_segments hBlank hSegments hLeading]
  split
  · rename_i hStyle
    rw [← readStyle_eq_unbalanced_iff]
    cases readStyle last <;> simp [hStyle, Except.map]
  · rename_i hNoStyle
    split
    · rename_i hMulti
      rw [← readAlternatives_eq_unbalanced_iff]
      cases readAlternatives last <;> simp [hMulti, Except.map]
    · rename_i hNoMulti
      simp [hNoStyle, hNoMulti]

/-
  A tail that is refused for brackets has been read up to its last
  segment.
-/
theorem exists_segments_of_readTail_unbalanced
    {levels : List Level}
    (hPiece : IsPiece ';' cs)
    (hBlank : Text.trim (unmarked cs) ≠ [])
    (hRead : readTail levels cs = .error .unbalanced) :
    ∃ leading last, IsCascade (unmarked cs) (leading ++ [last]) ∧
      checkLeading (leading.map Text.trim) = .ok () := by
  have hFilled : (Text.trim (unmarked cs)).isEmpty = false := by
    simpa using hBlank
  rw [unmarked] at hFilled
  simp only [readTail, hFilled, Bool.false_eq_true, if_false] at hRead
  rcases bind_eq_error_iff.mp hRead with hNo | ⟨_, hSegments, hRest⟩
  · exact absurd (balanced_unmarked hPiece)
      (readSegments_eq_unbalanced_iff.mp hNo)
  · rcases readSegments_eq_ok_iff.mp hSegments with
      ⟨pieces, hCascade, rfl⟩
    rcases List.eq_nil_or_concat' pieces with
      rfl | ⟨leading, last, rfl⟩
    · exact absurd rfl hCascade.cut.some
    · refine ⟨leading, last, hCascade, ?_⟩
      rw [List.map_append, List.map_singleton, List.dropLast_concat]
        at hRest
      rcases bind_eq_error_iff.mp hRest with hNo | ⟨_, hCheck, _⟩
      · exact absurd hNo (checkLeading_ne_unbalanced _)
      · exact hCheck

/- A part is refused as a tail for brackets if it is torn. -/
theorem readTail_eq_unbalanced_iff
    {levels : List Level}
    (hPiece : IsPiece ';' cs) :
    readTail levels cs = .error .unbalanced ↔
      IsTornTail (unmarked cs) := by
  have hBalanced := balanced_unmarked hPiece
  by_cases hBlank : Text.trim (unmarked cs) = []
  · have hNotTorn : ¬ IsTornTail (unmarked cs) := by
      rintro ⟨leading, last, hCascade, _⟩
      exact IsPathText.not_allBlank ⟨_, hCascade⟩
        (Text.trim_eq_nil_iff.mp hBlank)
    unfold unmarked at hBlank
    simp only [hNotTorn, iff_false, readTail, hBlank, List.isEmpty_nil,
      if_true]
    split <;> simp [pure, Except.pure]
  · constructor
    · intro hRead
      rcases exists_segments_of_readTail_unbalanced hPiece hBlank hRead with
        ⟨leading, last, hCascade, hCheck⟩
      have hSegments :=
        readSegments_eq_ok_iff.mpr ⟨_, hCascade, rfl⟩
      rw [List.map_append, List.map_singleton] at hSegments
      rw [readTail_eq_unbalanced_of_segments_iff hBlank hSegments hCheck,
        or_and_right] at hRead
      rw [checkLeading_eq_ok_iff, List.forall_mem_map] at hCheck
      refine ⟨leading, last, hCascade,
        fun piece hMem => isUnenclosed_iff.mpr (hCheck piece hMem), ?_⟩
      exact hRead.imp (isTorn_iff (by decide)).mpr
        (isTorn_iff (by decide)).mpr
    · rintro ⟨leading, last, hCascade, hLeading, hLast⟩
      have hSegments :=
        readSegments_eq_ok_iff.mpr ⟨_, hCascade, rfl⟩
      rw [List.map_append, List.map_singleton] at hSegments
      have hCheck : checkLeading (leading.map Text.trim) = .ok () := by
        rw [checkLeading_eq_ok_iff, List.forall_mem_map]
        exact fun piece hMem => isUnenclosed_iff.mp (hLeading piece hMem)
      rw [readTail_eq_unbalanced_of_segments_iff hBlank hSegments hCheck,
        or_and_right]
      rcases hLast with hPair | hList
      · exact .inl ((isTorn_iff (by decide)).mp hPair)
      · exact .inr ((isTorn_iff (by decide)).mp hList)

------------------------------------------------------------
-- Whole Expressions
------------------------------------------------------------

/- White space is balanced. -/
theorem balanced_of_allBlank
    (hBlank : Text.AllBlank cs) :
    Balanced cs := by
  induction cs with
  | nil => exact .nil
  | cons c cs ih =>
      have hMark : isMark ';' c = false :=
        isMark_of_isBlank (by decide) (hBlank c List.mem_cons_self)
      simp only [isMark, Bool.or_eq_false_iff, Bool.not_eq_false']
        at hMark
      exact .plain hMark.1
        (ih fun d hd => hBlank d (List.mem_cons_of_mem _ hd))

/- The parts of a text are refused for brackets if one is torn. -/
theorem parts_eq_unbalanced_iff
    {front : List (List Char)}
    {last : List Char}
    (hPieces : ∀ part ∈ front ++ [last], IsPiece ';' part) :
    (do
        let levels ← front.mapM readLevel
        readTail levels last) = .error .unbalanced ↔
      (∃ early part late, front = early ++ part :: late ∧
          (∀ other ∈ early, IsLevelText (unmarked other)) ∧
          IsTornLevel (unmarked part)) ∨
        ((∀ part ∈ front, IsLevelText (unmarked part)) ∧
          IsTornTail (unmarked last)) := by
  have hFront :
      (∃ levels, front.mapM readLevel = .ok levels) ↔
        ∀ part ∈ front, IsLevelText (unmarked part) := by
    rw [exists_mapM_eq_ok_iff]
    exact forall₂_congr fun part _ => exists_readLevel_iff
  have hTail : ∀ levels, readTail levels last = .error .unbalanced ↔
      IsTornTail (unmarked last) :=
    fun levels => readTail_eq_unbalanced_iff (hPieces last (by simp))
  rw [bind_eq_error_iff, mapM_eq_error_iff, ← hFront]
  simp only [hTail, exists_and_right, exists_readLevel_iff]
  refine or_congr_left ?_
  refine exists_congr fun early => exists_congr fun part => ?_
  refine and_congr_right fun ⟨late, hSame⟩ => and_congr_right fun _ => ?_
  exact readLevel_eq_unbalanced_iff
    (hPieces part (by rw [hSame]; simp))

/-
  A text is refused for its brackets exactly if it is not balanced
  or if one of its parts is torn: the last segment of the part
  begins and ends with the brackets of a group, and what stands
  between them is not balanced.
-/
theorem parse_eq_unbalanced_iff (source : String) :
    parse source = .error ⟨.unbalanced, source⟩ ↔
      ¬ Balanced source.toList ∨ IsTornText source.toList := by
  have hParts : parse source = .error ⟨.unbalanced, source⟩ ↔
      readParts source.toList = .error .unbalanced := by
    rw [parse]
    cases readParts source.toList <;> simp
  rw [hParts]
  by_cases hBlank : Text.AllBlank source.toList
  · have hTrim : Text.trim source.toList = [] :=
      Text.trim_eq_nil_iff.mpr hBlank
    have hNotTorn : ¬ IsTornText source.toList :=
      fun hTorn => hTorn.filled hBlank
    simp [readParts, hTrim, balanced_of_allBlank hBlank, hNotTorn]
  · have hFilled : (Text.trim source.toList).isEmpty = false := by
      simpa [Text.trim_eq_nil_iff] using hBlank
    rw [readParts, hFilled, if_neg Bool.false_ne_true]
    cases hSplit : splitTop ';' source.toList with
    | none =>
        simp [(splitTop_eq_none_iff ';' (by decide)).mp hSplit]
    | some parts =>
        have hCut := splitTop_eq_some_iff_isCut.mp hSplit
        have hBalanced : Balanced source.toList :=
          isBalanced_iff.mp
            (isBalanced_of_splitTop_eq_some (by decide) hSplit)
        rcases List.eq_nil_or_concat' parts with
          rfl | ⟨front, last, rfl⟩
        · exact absurd rfl hCut.some
        · dsimp only
          rw [List.dropLast_concat, List.getLastD_concat,
            parts_eq_unbalanced_iff hCut.piece]
          simp only [hBalanced, not_true_eq_false, false_or]
          constructor
          · intro hTorn
            exact ⟨hBlank, front, last, hCut, hTorn⟩
          · rintro ⟨_, front', last', hCut', hTorn⟩
            have hSame :=
              hSplit.symm.trans (splitTop_eq_some_iff_isCut.mpr hCut')
            rcases List.append_inj' (Option.some.inj hSame) rfl with
              ⟨rfl, hLast⟩
            cases hLast
            exact hTorn

/-
  The two ends of a segment may be brackets of two groups: the text
  is balanced, and it is refused for its brackets.
-/
theorem two_groups_are_torn :
    Balanced "(a) b (c)".toList ∧
      parse "(a) b (c)" = .error ⟨.unbalanced, "(a) b (c)"⟩ :=
  ⟨isBalanced_iff.mp (by decide +kernel), by decide +kernel⟩

end Selector

end Gleaner
