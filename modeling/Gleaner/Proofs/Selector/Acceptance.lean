import Gleaner.Proofs.Selector.Balance
import Gleaner.Proofs.Selector.Canonical
import Mathlib.Data.List.Forall2

/-
  Which texts are expressions.  A grammar that speaks of
  balanced texts and of cuts at the top level describes exactly
  the texts that are read, with one lemma for each reader.

  Main declarations:
    * `Selector.IsPathText`
    * `Selector.IsPairText`
    * `Selector.IsListText`
    * `Selector.IsLevelText`
    * `Selector.IsTailText`
    * `Selector.IsExpressionText`
    * `Selector.exists_parse_iff`
-/

namespace Gleaner

namespace Selector

open Nesting

------------------------------------------------------------
-- The Grammar of Expressions
------------------------------------------------------------

/- Pieces with bars between, none of them blank. -/
structure IsCascade
    (cs : List Char)
    (pieces : List (List Char)) : Prop where
  cut : IsCut '|' cs pieces
  filled : ∀ piece ∈ pieces, ¬ Text.AllBlank piece

/- A path is a cascade of any pieces. -/
def IsPathText (cs : List Char) : Prop :=
  ∃ pieces, IsCascade cs pieces

/-
  What stands in the braces of a style pair: a path, the first
  colon at the top level, and another path.
-/
structure IsPairText (cs : List Char) : Prop where
  balanced : Balanced cs
  halves : ∃ key value, cs = key ++ ':' :: value ∧
    IsPiece ':' key ∧ IsPathText key ∧ IsPathText value

/- What stands in parentheses: paths with commas between. -/
structure IsListText (cs : List Char) : Prop where
  balanced : Balanced cs
  alternatives : ∃ pieces, IsCut ',' cs pieces ∧
    ∀ piece ∈ pieces, IsPathText piece

/- A piece is, white space apart, a text between two characters. -/
def IsBetween
    (opener closer : Char)
    (inside piece : List Char) : Prop :=
  Text.trim piece = opener :: (inside ++ [closer])

/-
  The pieces of a level: none is a list, and only the last may
  be a style pair.
-/
structure IsLevelCascade (pieces : List (List Char)) : Prop where
  noList : ∀ piece ∈ pieces, ∀ inside,
    ¬ IsBetween '(' ')' inside piece
  leading : ∀ piece ∈ pieces.dropLast, ∀ inside,
    ¬ IsBetween '{' '}' inside piece
  pair : ∀ piece ∈ pieces, ∀ inside,
    IsBetween '{' '}' inside piece → IsPairText inside

/- The pieces of a tail: only the last may be a pair or a list. -/
structure IsTailCascade (pieces : List (List Char)) : Prop where
  leading : ∀ piece ∈ pieces.dropLast, ∀ inside,
    ¬ IsBetween '{' '}' inside piece ∧
      ¬ IsBetween '(' ')' inside piece
  pair : ∀ piece ∈ pieces, ∀ inside,
    IsBetween '{' '}' inside piece → IsPairText inside
  list : ∀ piece ∈ pieces, ∀ inside,
    IsBetween '(' ')' inside piece → IsListText inside

/- A level is a cascade of the pieces of a level. -/
def IsLevelText (cs : List Char) : Prop :=
  ∃ pieces, IsCascade cs pieces ∧ IsLevelCascade pieces

/- A tail is a cascade of the pieces of a tail. -/
def IsTailText (cs : List Char) : Prop :=
  ∃ pieces, IsCascade cs pieces ∧ IsTailCascade pieces

/- A part of an expression without its marks. -/
def unmarked (part : List Char) : List Char :=
  (stripMapping 0 part).2

/-
  An expression is not blank, it is balanced, and its
  semicolons cut it into levels and one more part, which is a
  tail, or blank behind some level.
-/
structure IsExpressionText (cs : List Char) : Prop where
  filled : ¬ Text.AllBlank cs
  balanced : Balanced cs
  parts : ∃ front last, IsCut ';' cs (front ++ [last]) ∧
    (∀ part ∈ front, IsLevelText (unmarked part)) ∧
    (front ≠ [] ∧ Text.AllBlank (unmarked last) ∨
      IsTailText (unmarked last))

variable {cs segment : List Char}

------------------------------------------------------------
-- Segments and Paths
------------------------------------------------------------

/- The segments of a text are the pieces of a cascade, trimmed. -/
theorem readSegments_eq_ok_iff
    {segments : List (List Char)} :
    readSegments cs = .ok segments ↔
      ∃ pieces, IsCascade cs pieces ∧
        segments = pieces.map Text.trim := by
  have hFilled : ∀ pieces : List (List Char),
      (pieces.map Text.trim).any List.isEmpty = false ↔
        ∀ piece ∈ pieces, ¬ Text.AllBlank piece := by
    intro pieces
    simp [List.any_eq_false, ← Text.trim_eq_nil_iff]
  unfold readSegments
  constructor
  · intro hRead
    split at hRead
    · cases hRead
    · rename_i pieces hSplit
      dsimp only at hRead
      split at hRead
      · cases hRead
      · rename_i hNone
        cases hRead
        rw [Bool.not_eq_true] at hNone
        exact ⟨pieces, ⟨splitTop_eq_some_iff_isCut.mp hSplit,
          (hFilled pieces).mp hNone⟩, rfl⟩
  · rintro ⟨pieces, hCascade, rfl⟩
    rw [splitTop_eq_some_iff_isCut.mpr hCascade.cut]
    dsimp only
    rw [if_neg]
    rw [Bool.not_eq_true]
    exact (hFilled pieces).mpr hCascade.filled

/- A text is read as a path if it is a cascade. -/
theorem exists_readPath_iff :
    (∃ p, readPath cs = .ok p) ↔ IsPathText cs := by
  rw [readPath, exists_bind_eq_ok_iff]
  constructor
  · rintro ⟨segments, hRead, _⟩
    rcases readSegments_eq_ok_iff.mp hRead with ⟨pieces, hCascade, _⟩
    exact ⟨pieces, hCascade⟩
  · rintro ⟨pieces, hCascade⟩
    exact ⟨_, readSegments_eq_ok_iff.mpr ⟨pieces, hCascade, rfl⟩, _, rfl⟩

/- A path is balanced, since it can be cut. -/
theorem IsPathText.isBalanced
    (hPath : IsPathText cs) :
    isBalanced cs = true := by
  rcases hPath with ⟨pieces, hCascade⟩
  have hSplit := splitTop_eq_some_iff_isCut.mpr hCascade.cut
  exact isBalanced_of_splitTop_eq_some (by decide) hSplit

------------------------------------------------------------
-- Style Pairs and Lists
------------------------------------------------------------

/- A text is enclosed if there is something between two ends. -/
theorem isEnclosed_iff
    {opener closer : Char}
    (hOther : opener ≠ closer) :
    isEnclosed opener closer segment = true ↔
      ∃ inside, segment = opener :: (inside ++ [closer]) := by
  constructor
  · intro hEnclosed
    exact ⟨inner segment, eq_of_isEnclosed hOther hEnclosed⟩
  · rintro ⟨inside, rfl⟩
    simp

/- What stands in braces is read if it is a pair. -/
theorem exists_readStyle_iff :
    (∃ s, readStyle segment = .ok s) ↔ IsPairText (inner segment) := by
  unfold readStyle
  constructor
  · rintro ⟨s, hRead⟩
    split at hRead
    · cases hRead
    · rename_i key value more hSplit
      rcases splitTop_eq_some_iff_isCut.mp hSplit with
        ⟨_, hJoin, hPieces⟩
      rcases exists_bind_eq_ok_iff.mp ⟨s, hRead⟩ with
        ⟨keyPath, hKey, hMore⟩
      rcases exists_bind_eq_ok_iff.mp hMore with ⟨valuePath, hValue, _⟩
      have hBalanced : isBalanced (inner segment) = true :=
        isBalanced_of_splitTop_eq_some (by decide) hSplit
      rw [Text.joinWith_cons_cons] at hJoin
      exact ⟨isBalanced_iff.mp hBalanced, key, _, hJoin.symm,
        hPieces key List.mem_cons_self,
        exists_readPath_iff.mp ⟨keyPath, hKey⟩,
        exists_readPath_iff.mp ⟨valuePath, hValue⟩⟩
    · cases hRead
  · rintro ⟨_, key, value, hCut, hPiece, hKey, hValue⟩
    have hFound : (splitTop ':' value).isSome = true :=
      (isSome_splitTop (by decide)).mpr hValue.isBalanced
    rcases Option.isSome_iff_exists.mp hFound with ⟨pieces, hPieces⟩
    rcases splitTop_eq_some_iff_isCut.mp hPieces with ⟨hSome, hJoin, _⟩
    cases pieces with
    | nil => exact absurd rfl hSome
    | cons next more =>
        have hSplit :
            splitTop ':' (inner segment) = some (key :: next :: more) := by
          rw [hCut, splitTop, splitFrom_append (isUncut_iff.mpr hPiece),
            hPieces]
          rfl
        rcases exists_readPath_iff.mpr hKey with ⟨keyPath, hKeyRead⟩
        rcases exists_readPath_iff.mpr hValue with
          ⟨valuePath, hValueRead⟩
        rw [hSplit]
        dsimp only
        rw [exists_bind_eq_ok_iff, hJoin]
        refine ⟨keyPath, hKeyRead, ?_⟩
        rw [exists_bind_eq_ok_iff]
        exact ⟨valuePath, hValueRead, _, rfl⟩

/- What stands in parentheses is read if it is a list. -/
theorem exists_readAlternatives_iff :
    (∃ found, readAlternatives segment = .ok found) ↔
      IsListText (inner segment) := by
  unfold readAlternatives
  constructor
  · rintro ⟨found, hRead⟩
    split at hRead
    · cases hRead
    · rename_i pieces hSplit
      have hBalanced : isBalanced (inner segment) = true :=
        isBalanced_of_splitTop_eq_some (by decide) hSplit
      have hEach := exists_mapM_eq_ok_iff.mp ⟨found, hRead⟩
      exact ⟨isBalanced_iff.mp hBalanced, pieces,
        splitTop_eq_some_iff_isCut.mp hSplit,
        fun piece hPiece => exists_readPath_iff.mp (hEach piece hPiece)⟩
  · rintro ⟨_, pieces, hCut, hEach⟩
    rw [splitTop_eq_some_iff_isCut.mpr hCut]
    apply exists_mapM_eq_ok_iff.mpr
    intro piece hPiece
    exact exists_readPath_iff.mpr (hEach piece hPiece)

------------------------------------------------------------
-- Levels
------------------------------------------------------------

/-
  A scope is read if it has no list and no pair but a last one,
  which is read.
-/
theorem exists_readScope_iff
    {segments : List (List Char)} :
    (∃ found, readScope segments = .ok found) ↔
      (∀ segment ∈ segments, isMulti segment = false) ∧
      (∀ segment ∈ segments.dropLast, isStyle segment = false) ∧
      ∀ segment ∈ segments, isStyle segment = true →
        ∃ s, readStyle segment = .ok s := by
  induction segments with
  | nil => simp [readScope]
  | cons segment rest ih =>
      rw [readScope, List.forall_mem_cons, List.forall_mem_cons]
      split
      · rename_i hMulti
        simp [hMulti]
      · rename_i hNoMulti
        rw [Bool.not_eq_true] at hNoMulti
        split
        · rename_i hStyle
          cases rest with
          | nil =>
              rw [List.isEmpty_nil, if_pos rfl, exists_bind_eq_ok_iff]
              simp [hNoMulti, hStyle, pure, Except.pure]
          | cons next rest => simp [hStyle]
        · rename_i hNoStyle
          rw [Bool.not_eq_true] at hNoStyle
          rw [exists_bind_eq_ok_iff]
          simp only [pure, Except.pure, Except.ok.injEq, exists_eq',
            and_true]
          rw [ih]
          cases rest with
          | nil => simp [hNoMulti, hNoStyle]
          | cons next rest => simp [hNoMulti, hNoStyle]

/- What holds inside a piece of a form holds inside its segment. -/
theorem forall_isBetween_iff
    {opener closer : Char}
    (hOther : opener ≠ closer)
    {P : List Char → Prop}
    {piece : List Char} :
    (∀ inside, IsBetween opener closer inside piece → P inside) ↔
      (isEnclosed opener closer (Text.trim piece) = true →
        P (inner (Text.trim piece))) := by
  constructor
  · intro hAll hEnclosed
    exact hAll _ (eq_of_isEnclosed hOther hEnclosed)
  · intro hInner inside hBetween
    have hEnclosed :
        isEnclosed opener closer (Text.trim piece) = true :=
      (isEnclosed_iff hOther).mpr ⟨inside, hBetween⟩
    have hInside := hInner hEnclosed
    rw [IsBetween] at hBetween
    rw [hBetween, inner_enclosed] at hInside
    exact hInside

/- A piece has no form if its segment is not enclosed. -/
theorem forall_not_isBetween_iff
    {opener closer : Char}
    (hOther : opener ≠ closer)
    {piece : List Char} :
    (∀ inside, ¬ IsBetween opener closer inside piece) ↔
      isEnclosed opener closer (Text.trim piece) = false := by
  rw [← Bool.not_eq_true]
  exact forall_isBetween_iff (P := fun _ => False) hOther

/- Pieces in braces are pairs if their segments are read. -/
theorem forall_pair_iff
    {pieces : List (List Char)} :
    (∀ piece ∈ pieces, ∀ inside,
        IsBetween '{' '}' inside piece → IsPairText inside) ↔
      ∀ segment ∈ pieces.map Text.trim, isStyle segment = true →
        ∃ s, readStyle segment = .ok s := by
  rw [List.forall_mem_map]
  refine forall₂_congr fun piece _ => ?_
  rw [forall_isBetween_iff (by decide), exists_readStyle_iff, isStyle]

/- Pieces in parentheses are lists if their segments are read. -/
theorem forall_list_iff
    {pieces : List (List Char)} :
    (∀ piece ∈ pieces, ∀ inside,
        IsBetween '(' ')' inside piece → IsListText inside) ↔
      ∀ segment ∈ pieces.map Text.trim, isMulti segment = true →
        ∃ found, readAlternatives segment = .ok found := by
  rw [List.forall_mem_map]
  refine forall₂_congr fun piece _ => ?_
  rw [forall_isBetween_iff (by decide), exists_readAlternatives_iff,
    isMulti]

/- The pieces of a level are those whose segments are a scope. -/
theorem exists_readScope_trim_iff
    {pieces : List (List Char)} :
    (∃ found, readScope (pieces.map Text.trim) = .ok found) ↔
      IsLevelCascade pieces := by
  rw [exists_readScope_iff, ← forall_pair_iff, ← List.map_dropLast,
    List.forall_mem_map, List.forall_mem_map]
  constructor
  · rintro ⟨hNoMulti, hNoStyle, hPair⟩
    refine ⟨?_, ?_, hPair⟩
    · intro piece hPiece
      exact (forall_not_isBetween_iff (by decide)).mpr
        (hNoMulti piece hPiece)
    · intro piece hPiece
      exact (forall_not_isBetween_iff (by decide)).mpr
        (hNoStyle piece hPiece)
  · intro hLevel
    refine ⟨?_, ?_, hLevel.pair⟩
    · intro piece hPiece
      exact (forall_not_isBetween_iff (by decide)).mp
        (hLevel.noList piece hPiece)
    · intro piece hPiece
      exact (forall_not_isBetween_iff (by decide)).mp
        (hLevel.leading piece hPiece)

/- A text is read as a level if it is one without its marks. -/
theorem exists_readLevel_iff :
    (∃ l, readLevel cs = .ok l) ↔ IsLevelText (unmarked cs) := by
  unfold readLevel unmarked
  rcases stripMapping 0 cs with ⟨mapping, kept⟩
  dsimp only
  rw [exists_bind_eq_ok_iff]
  constructor
  · rintro ⟨segments, hSegments, hRest⟩
    rcases readSegments_eq_ok_iff.mp hSegments with
      ⟨pieces, hCascade, rfl⟩
    rcases exists_bind_eq_ok_iff.mp hRest with ⟨found, hScope, _⟩
    exact ⟨pieces, hCascade, exists_readScope_trim_iff.mp ⟨found, hScope⟩⟩
  · rintro ⟨pieces, hCascade, hLevel⟩
    rcases exists_readScope_trim_iff.mpr hLevel with ⟨found, hScope⟩
    refine ⟨_, readSegments_eq_ok_iff.mpr ⟨pieces, hCascade, rfl⟩, ?_⟩
    rw [exists_bind_eq_ok_iff]
    exact ⟨found, hScope, _, rfl⟩

------------------------------------------------------------
-- Tails
------------------------------------------------------------

/- A blank text is no cascade: its only piece would be blank. -/
theorem IsPathText.not_allBlank
    (hPath : IsPathText cs) :
    ¬ Text.AllBlank cs := by
  rcases hPath with ⟨pieces, hCascade⟩
  intro hBlank
  rcases List.exists_mem_of_ne_nil pieces hCascade.cut.some with
    ⟨piece, hPiece⟩
  apply hCascade.filled piece hPiece
  intro c hc
  apply hBlank c
  rw [← hCascade.cut.joined]
  exact Text.mem_joinWith hPiece hc

/-
  The pieces of a tail are those whose leading segments pass
  the check and whose last segment is read.
-/
theorem isTailCascade_iff
    {pieces : List (List Char)}
    {leading : List (List Char)}
    {last : List Char}
    (hSegments : pieces.map Text.trim = leading ++ [last]) :
    IsTailCascade pieces ↔
      checkLeading leading = .ok () ∧
        (isStyle last = true → ∃ s, readStyle last = .ok s) ∧
        (isMulti last = true →
          ∃ found, readAlternatives last = .ok found) := by
  have hLeading :
      (∀ piece ∈ pieces.dropLast, ∀ inside,
          ¬ IsBetween '{' '}' inside piece ∧
            ¬ IsBetween '(' ')' inside piece) ↔
        checkLeading leading = .ok () := by
    have hDrop : leading = pieces.dropLast.map Text.trim := by
      rw [List.map_dropLast, hSegments, List.dropLast_concat]
    rw [checkLeading_eq_ok_iff, hDrop, List.forall_mem_map]
    refine forall₂_congr fun piece _ => ?_
    rw [forall_and, forall_not_isBetween_iff (by decide),
      forall_not_isBetween_iff (by decide)]
    rfl
  constructor
  · intro hTail
    have hPair := forall_pair_iff.mp hTail.pair
    have hList := forall_list_iff.mp hTail.list
    rw [hSegments] at hPair hList
    exact ⟨hLeading.mp hTail.leading, hPair last (by simp),
      hList last (by simp)⟩
  · rintro ⟨hCheck, hStyle, hMulti⟩
    have hNone := checkLeading_eq_ok_iff.mp hCheck
    refine ⟨hLeading.mpr hCheck, forall_pair_iff.mpr ?_,
      forall_list_iff.mpr ?_⟩
    · rw [hSegments]
      intro segment hSegment hIs
      rcases List.mem_append.mp hSegment with hEarly | hLast
      · rw [(hNone segment hEarly).1] at hIs
        cases hIs
      · rw [List.mem_singleton.mp hLast] at hIs ⊢
        exact hStyle hIs
    · rw [hSegments]
      intro segment hSegment hIs
      rcases List.mem_append.mp hSegment with hEarly | hLast
      · rw [(hNone segment hEarly).2] at hIs
        cases hIs
      · rw [List.mem_singleton.mp hLast] at hIs ⊢
        exact hMulti hIs

/- The last segment of a tail is read as what it is written. -/
theorem exists_readTail_of_segments_iff
    {levels : List Level}
    {leading : List (List Char)}
    {last : List Char}
    (hBlank : Text.trim (unmarked cs) ≠ [])
    (hSegments : readSegments (unmarked cs) = .ok (leading ++ [last]))
    (hLeading : checkLeading leading = .ok ()) :
    (∃ found, readTail levels cs = .ok found) ↔
      (isStyle last = true → ∃ s, readStyle last = .ok s) ∧
        (isMulti last = true →
          ∃ found, readAlternatives last = .ok found) := by
  have hApart : isStyle last = true → isMulti last = false := by
    intro hStyle
    rw [eq_of_isEnclosed (by decide) hStyle, isMulti,
      isEnclosed_enclosed]
    rfl
  rw [readTail_of_segments hBlank hSegments hLeading]
  split
  · rename_i hStyle
    rw [hApart hStyle]
    simp only [hStyle, true_imp_iff, Bool.false_eq_true, false_imp_iff,
      and_true]
    cases readStyle last with
    | error e => simp [Except.map]
    | ok s => simp [Except.map]
  · rename_i hNoStyle
    split
    · rename_i hMulti
      simp only [hMulti, hNoStyle, true_imp_iff]
      cases readAlternatives last with
      | error e => simp [Except.map]
      | ok found => simp [Except.map]
    · rename_i hNoMulti
      simp [hNoStyle, hNoMulti]

/-
  A text is read as the last part of an expression if it is a
  tail without its marks, or blank behind some level.
-/
theorem exists_readTail_iff
    {levels : List Level} :
    (∃ found, readTail levels cs = .ok found) ↔
      levels ≠ [] ∧ Text.AllBlank (unmarked cs) ∨
        IsTailText (unmarked cs) := by
  by_cases hBlank : Text.trim (unmarked cs) = []
  · have hAll := Text.trim_eq_nil_iff.mp hBlank
    have hNoTail : ¬ IsTailText (unmarked cs) := by
      rintro ⟨pieces, hCascade, _⟩
      exact IsPathText.not_allBlank ⟨pieces, hCascade⟩ hAll
    rw [unmarked] at hBlank
    simp only [hAll, hNoTail, and_true, or_false, readTail, hBlank,
      List.isEmpty_nil, if_true]
    cases levels with
    | nil => simp
    | cons l levels => simp [pure, Except.pure]
  · have hFilled : ¬ Text.AllBlank (unmarked cs) := by
      rw [← Text.trim_eq_nil_iff]
      exact hBlank
    simp only [hFilled, and_false, false_or]
    constructor
    · rintro ⟨⟨levels', t⟩, hRead⟩
      rcases exists_segments_of_readTail_eq_ok hBlank hRead with
        ⟨leading, last, hSegments, hLeading⟩
      rcases readSegments_eq_ok_iff.mp hSegments with
        ⟨pieces, hCascade, hTrim⟩
      have hLast :=
        (exists_readTail_of_segments_iff hBlank hSegments hLeading).mp
          ⟨_, hRead⟩
      exact ⟨pieces, hCascade,
        (isTailCascade_iff hTrim.symm).mpr ⟨hLeading, hLast⟩⟩
    · rintro ⟨pieces, hCascade, hTail⟩
      have hSegments :=
        readSegments_eq_ok_iff.mpr ⟨pieces, hCascade, rfl⟩
      rcases List.eq_nil_or_concat' (pieces.map Text.trim) with
        hNone | ⟨leading, last, hConcat⟩
      · exact absurd (List.map_eq_nil_iff.mp hNone) hCascade.cut.some
      · rw [hConcat] at hSegments
        rcases (isTailCascade_iff hConcat).mp hTail with
          ⟨hLeading, hLast⟩
        exact (exists_readTail_of_segments_iff hBlank hSegments
          hLeading).mpr hLast

------------------------------------------------------------
-- Whole Expressions
------------------------------------------------------------

/- The parts of a text are read if they are levels and a last part. -/
theorem exists_readParts_of_cut_iff
    {front : List (List Char)}
    {last : List Char} :
    (∃ found, (do
        let levels ← front.mapM readLevel
        readTail levels last) = .ok found) ↔
      (∀ part ∈ front, IsLevelText (unmarked part)) ∧
        (front ≠ [] ∧ Text.AllBlank (unmarked last) ∨
          IsTailText (unmarked last)) := by
  have hFront :
      (∃ levels, front.mapM readLevel = .ok levels) ↔
        ∀ part ∈ front, IsLevelText (unmarked part) := by
    rw [exists_mapM_eq_ok_iff]
    exact forall₂_congr fun part _ => exists_readLevel_iff
  rw [exists_bind_eq_ok_iff, ← hFront]
  -- there are as many levels as parts, so both are none at once
  have hSome : ∀ levels, front.mapM readLevel = .ok levels →
      (levels ≠ [] ↔ front ≠ []) := by
    intro levels hLevels
    have hLength := (forall₂_of_mapM_eq_ok hLevels).length_eq
    rw [← List.length_pos_iff, ← List.length_pos_iff, hLength]
  constructor
  · rintro ⟨levels, hLevels, hTail⟩
    rw [exists_readTail_iff, hSome levels hLevels] at hTail
    exact ⟨⟨levels, hLevels⟩, hTail⟩
  · rintro ⟨⟨levels, hLevels⟩, hTail⟩
    refine ⟨levels, hLevels, ?_⟩
    rw [exists_readTail_iff, hSome levels hLevels]
    exact hTail

/- The texts that are read are the expressions of the grammar. -/
theorem exists_readParts_iff :
    (∃ found, readParts cs = .ok found) ↔ IsExpressionText cs := by
  have hBlank : (Text.trim cs).isEmpty = true ↔ Text.AllBlank cs := by
    rw [List.isEmpty_iff, Text.trim_eq_nil_iff]
  unfold readParts
  constructor
  · rintro ⟨found, hRead⟩
    split at hRead
    · cases hRead
    · rename_i hFilled
      split at hRead
      · cases hRead
      · rename_i parts hSplit
        have hCut := splitTop_eq_some_iff_isCut.mp hSplit
        have hBalanced : isBalanced cs = true :=
          isBalanced_of_splitTop_eq_some (by decide) hSplit
        rcases List.eq_nil_or_concat' parts with
          hNone | ⟨front, last, rfl⟩
        · exact absurd hNone hCut.some
        · rw [List.dropLast_concat, List.getLastD_concat] at hRead
          exact ⟨fun hAll => hFilled (hBlank.mpr hAll),
            isBalanced_iff.mp hBalanced, front, last, hCut,
            exists_readParts_of_cut_iff.mp ⟨found, hRead⟩⟩
  · rintro ⟨hFilled, _, front, last, hCut, hParts⟩
    rw [if_neg fun hAll => hFilled (hBlank.mp hAll),
      splitTop_eq_some_iff_isCut.mpr hCut]
    dsimp only
    rw [List.dropLast_concat, List.getLastD_concat]
    exact exists_readParts_of_cut_iff.mpr hParts

/- A text is read exactly if it is an expression of the grammar. -/
theorem exists_parse_iff (source : String) :
    (∃ s, parse source = .ok s) ↔ IsExpressionText source.toList := by
  rw [← exists_readParts_iff, parse]
  cases readParts source.toList with
  | error fault => simp
  | ok found => simp

/- A mark alone is no expression, but it may follow a level. -/
example : (parse "^").isOk = false ∧ (parse "a;^").isOk = true := by
  decide +kernel

end Selector

end Gleaner
