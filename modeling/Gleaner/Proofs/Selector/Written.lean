import Gleaner.Proofs.List.Reading
import Gleaner.Proofs.Selector.Cutting
import Gleaner.Selector.Parse

/-
  Paths, style pairs and alternatives as they are written in
  one way, which is read back as it was written.

  Main declarations:
    * `Selector.writePath`
    * `Selector.writeStyle`
    * `Selector.writeAlternatives`
    * `Selector.readPath_writePath`
    * `Selector.readStyle_writeStyle`
    * `Selector.readAlternatives_writeAlternatives`
-/

namespace Gleaner

namespace Selector

open Nesting

------------------------------------------------------------
-- Writing
------------------------------------------------------------

/- Labels with bars between. -/
def writePath (p : Path) : List Char :=
  Text.joinWith ['|'] (p.map String.toList)

/- Two paths in braces with a colon between. -/
def writeStyle (s : StylePair) : List Char :=
  '{' :: ((writePath s.key ++ ':' :: writePath s.value) ++ ['}'])

/- Paths in parentheses with commas between. -/
def writeAlternatives (alternatives : List Path) : List Char :=
  '(' :: (Text.joinWith [','] (alternatives.map writePath) ++ [')'])

------------------------------------------------------------
-- Marks
------------------------------------------------------------

/- The characters that are not plain. -/
theorem eq_of_not_isPlain
    {c : Char}
    (hc : isPlain c = false) :
    c ∈ ['"', '\'', '{', '(', '[', '}', ')', ']'] := by
  unfold isPlain isQuote closerOf? isCloser at hc
  split at hc
  · simp
  · simp
  · simp
  · simp only [Option.isNone_none, Bool.and_true, Bool.and_eq_false_iff,
      Bool.not_eq_false', Bool.or_eq_true, beq_iff_eq] at hc
    rcases hc with (rfl | rfl) | ((rfl | rfl) | rfl) <;> simp

/- White space decides nothing about where a text is cut. -/
theorem isMark_of_isBlank
    {sep c : Char}
    (hSep : Text.isBlank sep = false)
    (hBlank : Text.isBlank c = true) :
    isMark sep c = false := by
  have hPlain : isPlain c = true := by
    by_contra hNot
    have hMarks :
        (['"', '\'', '{', '(', '[', '}', ')', ']'].all
          fun d => !Text.isBlank d) = true := by
      decide
    have hMark := eq_of_not_isPlain (by simpa using hNot)
    have hNoBlank := List.all_eq_true.mp hMarks c hMark
    rw [hBlank] at hNoBlank
    cases hNoBlank
  have hOther : (c == sep) = false := by
    rw [beq_eq_false_iff_ne]
    rintro rfl
    rw [hSep] at hBlank
    cases hBlank
  simp [isMark, hPlain, hOther]

/-
  A text keeps all of another that is neither white space nor
  one of some separators.
-/
def Keeps (seps ds cs : List Char) : Prop :=
  ∀ f : Char → Bool,
    (∀ c, Text.isBlank c = true → f c = false) →
    (∀ sep ∈ seps, f sep = false) →
    ds.filter f = cs.filter f

/- A text that keeps more keeps less. -/
theorem Keeps.mono
    {few many ds cs : List Char}
    (hKeeps : Keeps few ds cs)
    (hMore : few ⊆ many) :
    Keeps many ds cs :=
  fun f hBlank hSeps =>
    hKeeps f hBlank fun sep hSep => hSeps sep (hMore hSep)

/- What keeps the rest of what keeps the rest keeps it. -/
theorem Keeps.trans
    {seps cs ds es : List Char}
    (hFirst : Keeps seps es ds)
    (hSecond : Keeps seps ds cs) :
    Keeps seps es cs :=
  fun f hBlank hSeps =>
    (hFirst f hBlank hSeps).trans (hSecond f hBlank hSeps)

/- A text that keeps all but some separators is cut alike. -/
theorem Keeps.isUncut_eq
    {seps ds cs : List Char}
    (hKeeps : Keeps seps ds cs)
    {sep : Char}
    (hBlank : Text.isBlank sep = false)
    (hOthers : seps.all (fun other => !isMark sep other) = true) :
    isUncut sep .closed ds = isUncut sep .closed cs := by
  apply isUncut_congr
  apply hKeeps (isMark sep) (fun _ => isMark_of_isBlank hBlank)
  intro other hOther
  simpa using List.all_eq_true.mp hOthers other hOther

------------------------------------------------------------
-- Segments
------------------------------------------------------------

/- A label is trimmed and not empty, and no bar cuts it. -/
structure IsLabel (label : List Char) : Prop where
  some : label ≠ []
  trimmed : Text.trim label = label
  uncut : isUncut '|' .closed label = true

/- Segments are labels, and they keep all that is not left out. -/
theorem readSegments_eq_ok
    {cs : List Char}
    {segments : List (List Char)}
    (hRead : readSegments cs = .ok segments) :
    segments ≠ [] ∧
      (∀ segment ∈ segments, IsLabel segment) ∧
      Keeps ['|'] (Text.joinWith ['|'] segments) cs := by
  unfold readSegments at hRead
  split at hRead
  · cases hRead
  · rename_i pieces hSplit
    dsimp only at hRead
    split at hRead
    · cases hRead
    · rename_i hFilled
      cases hRead
      rcases splitTop_eq_some_iff.mp hSplit with ⟨hSome, hUncut, rfl⟩
      refine ⟨by simpa using hSome, ?_, ?_⟩
      · intro segment hSegment
        rcases List.mem_map.mp hSegment with ⟨piece, hPiece, rfl⟩
        refine ⟨?_, Text.trim_trim piece, ?_⟩
        · intro hNone
          apply hFilled
          rw [List.any_eq_true]
          exact ⟨_, hSegment, by simp [hNone]⟩
        · have hKeeps : Keeps [] (Text.trim piece) piece :=
            fun f hBlank _ => Text.filter_trim hBlank piece
          rw [hKeeps.isUncut_eq (by decide) (by simp)]
          exact hUncut piece hPiece
      · intro f hBlank hSeps
        have hBar := hSeps '|' List.mem_cons_self
        rw [Text.filter_joinWith hBar, Text.filter_joinWith hBar,
          List.flatMap_map]
        congr 1
        funext piece
        exact Text.filter_trim hBlank piece

/- Labels with bars between are read as they are. -/
theorem readSegments_joinWith
    {segments : List (List Char)}
    (hSome : segments ≠ [])
    (hLabels : ∀ segment ∈ segments, IsLabel segment) :
    readSegments (Text.joinWith ['|'] segments) = .ok segments := by
  have hSplit :=
    splitTop_joinWith hSome fun segment hSegment =>
      (hLabels segment hSegment).uncut
  have hTrimmed : segments.map Text.trim = segments.map id :=
    List.map_congr_left fun segment hSegment =>
      (hLabels segment hSegment).trimmed
  have hFilled : segments.any List.isEmpty = false := by
    rw [List.any_eq_false]
    intro segment hSegment
    simpa using (hLabels segment hSegment).some
  rw [List.map_id] at hTrimmed
  simp [readSegments, hSplit, hTrimmed, hFilled]

------------------------------------------------------------
-- Paths
------------------------------------------------------------

/- There is a label, and all of them are labels. -/
structure IsPath (p : Path) : Prop where
  some : p ≠ []
  labels : ∀ label ∈ p, IsLabel label.toList

/- Labels as texts are the labels as they were read. -/
theorem map_toList_map_ofList (segments : List (List Char)) :
    (segments.map String.ofList).map String.toList = segments := by
  rw [List.map_map]
  have hSame : String.toList ∘ String.ofList = id := by
    funext cs
    exact String.toList_ofList
  rw [hSame, List.map_id]

/- Labels as they were read are the labels as texts. -/
theorem map_ofList_map_toList (p : Path) :
    (p.map String.toList).map String.ofList = p := by
  rw [List.map_map]
  have hSame : String.ofList ∘ String.toList = id := by
    funext s
    exact String.ofList_toList
  rw [hSame, List.map_id]

/- What is read as a path is one, and keeps all but bars. -/
theorem readPath_eq_ok
    {cs : List Char}
    {p : Path}
    (hRead : readPath cs = .ok p) :
    IsPath p ∧ Keeps ['|'] (writePath p) cs := by
  unfold readPath at hRead
  cases hSegments : readSegments cs with
  | error e =>
      rw [hSegments] at hRead
      cases hRead
  | ok segments =>
      rw [hSegments] at hRead
      cases hRead
      rcases readSegments_eq_ok hSegments with
        ⟨hSome, hLabels, hKeeps⟩
      refine ⟨⟨by simpa using hSome, ?_⟩, ?_⟩
      · intro label hLabel
        rcases List.mem_map.mp hLabel with ⟨segment, hSegment, rfl⟩
        rw [String.toList_ofList]
        exact hLabels segment hSegment
      · rw [writePath, map_toList_map_ofList]
        exact hKeeps

section Paths

variable {p : Path}

/- The labels of a path are labels as they are written. -/
theorem IsPath.segments
    (hPath : IsPath p) :
    ∀ segment ∈ p.map String.toList, IsLabel segment := by
  intro segment hSegment
  rcases List.mem_map.mp hSegment with ⟨label, hLabel, rfl⟩
  exact hPath.labels label hLabel

/- A path is read back. -/
theorem readPath_writePath
    (hPath : IsPath p) :
    readPath (writePath p) = .ok p := by
  have hSome : p.map String.toList ≠ [] := by
    simpa using hPath.some
  rw [readPath, writePath,
    readSegments_joinWith hSome hPath.segments]
  exact congrArg Except.ok (map_ofList_map_toList p)

/- A written path is balanced. -/
theorem isBalanced_writePath
    (hPath : IsPath p) :
    isBalanced (writePath p) = true := by
  have hSome : p.map String.toList ≠ [] := by
    simpa using hPath.some
  have hSplit :=
    splitTop_joinWith hSome fun segment hSegment =>
      (hPath.segments segment hSegment).uncut
  have hFound : (splitTop '|' (writePath p)).isSome = true := by
    rw [writePath, hSplit]
    rfl
  exact (isSome_splitTop (by decide)).mp hFound

end Paths

------------------------------------------------------------
-- Enclosed Texts
------------------------------------------------------------

/- A text is between its first and its last character. -/
theorem eq_of_isEnclosed
    {opener closer : Char}
    (hOther : opener ≠ closer)
    {segment : List Char}
    (hEnclosed : isEnclosed opener closer segment = true) :
    segment = opener :: (inner segment ++ [closer]) := by
  simp only [isEnclosed, Bool.and_eq_true, beq_iff_eq] at hEnclosed
  rcases hEnclosed with ⟨hFirst, hLast⟩
  cases segment with
  | nil => cases hFirst
  | cons c cs =>
      cases hFirst
      cases cs with
      | nil => exact absurd (Option.some.inj hLast) hOther
      | cons d ds =>
          rw [List.getLast?_cons_cons] at hLast
          have hEnd := List.dropLast_append_getLast? closer hLast
          rw [inner, List.tail_cons, hEnd]

section Enclosed

variable {opener closer : Char} (cs : List Char)

@[simp] theorem inner_enclosed :
    inner (opener :: (cs ++ [closer])) = cs := by
  simp [inner]

@[simp] theorem isEnclosed_enclosed (first last : Char) :
    isEnclosed first last (opener :: (cs ++ [closer])) =
      (opener == first && closer == last) := by
  have hLast : (opener :: (cs ++ [closer])).getLast? = some closer := by
    rw [← List.cons_append, List.getLast?_concat]
  simp [isEnclosed, hLast]

variable {cs}

/- A balanced text in brackets is a label. -/
theorem isLabel_enclosed
    (hOpener : closerOf? opener = some closer)
    (hBalanced : isBalanced cs = true) :
    IsLabel (opener :: (cs ++ [closer])) := by
  have hEnds :
      opener ≠ '|' ∧ Text.isBlank opener = false ∧
        Text.isBlank closer = false := by
    unfold closerOf? at hOpener
    split at hOpener <;> cases hOpener <;> decide
  rcases hEnds with ⟨hBar, hFirst, hLast⟩
  exact ⟨List.cons_ne_nil _ _, Text.trim_of_ends hFirst hLast cs,
    isUncut_wrap hOpener hBar hBalanced⟩

end Enclosed

------------------------------------------------------------
-- Style Pairs
------------------------------------------------------------

/- Two paths, the first of which no colon cuts. -/
structure IsPair (s : StylePair) : Prop where
  key : IsPath s.key
  value : IsPath s.value
  uncut : isUncut ':' .closed (writePath s.key) = true

/- What is read as a style pair is one, and keeps the rest. -/
theorem readStyle_eq_ok
    {segment : List Char}
    {s : StylePair}
    (hStyle : isStyle segment = true)
    (hRead : readStyle segment = .ok s) :
    IsPair s ∧ Keeps ['|', ':'] (writeStyle s) segment := by
  unfold readStyle at hRead
  split at hRead
  · cases hRead
  · rename_i key value more hSplit
    rcases splitTop_eq_some_iff.mp hSplit with ⟨_, hUncut, hJoin⟩
    cases hKey : readPath key with
    | error e =>
        rw [hKey] at hRead
        cases hRead
    | ok keyPath =>
        cases hValue :
            readPath (Text.joinWith [':'] (value :: more)) with
        | error e =>
            rw [hKey, hValue] at hRead
            cases hRead
        | ok valuePath =>
            rw [hKey, hValue] at hRead
            cases hRead
            rcases readPath_eq_ok hKey with ⟨hKeyPath, hKeyKeeps⟩
            rcases readPath_eq_ok hValue with
              ⟨hValuePath, hValueKeeps⟩
            refine ⟨⟨hKeyPath, hValuePath, ?_⟩, ?_⟩
            · rw [hKeyKeeps.isUncut_eq (by decide) (by decide)]
              exact hUncut key List.mem_cons_self
            · intro f hBlank hSeps
              have hBar : ∀ sep ∈ ['|'], f sep = false := by
                simpa using hSeps '|' (by decide)
              rw [eq_of_isEnclosed (by decide) hStyle, ← hJoin,
                Text.joinWith_cons_cons, writeStyle]
              simp only [List.filter_cons, List.filter_append,
                hKeyKeeps f hBlank hBar, hValueKeeps f hBlank hBar]
  · cases hRead

section Styles

variable {s : StylePair}

/- The text in the braces of a style pair is cut at its colon. -/
theorem splitTop_pair
    (hPair : IsPair s) :
    ∃ value more,
      splitTop ':' (writePath s.key ++ ':' :: writePath s.value) =
          some (writePath s.key :: value :: more) ∧
        Text.joinWith [':'] (value :: more) = writePath s.value := by
  have hFound :
      (splitTop ':' (writePath s.value)).isSome = true :=
    (isSome_splitTop (by decide)).mpr (isBalanced_writePath hPair.value)
  rcases Option.isSome_iff_exists.mp hFound with ⟨pieces, hSplit⟩
  rcases splitTop_eq_some_iff.mp hSplit with ⟨hSome, _, hJoin⟩
  cases pieces with
  | nil => exact absurd rfl hSome
  | cons value more =>
      refine ⟨value, more, ?_, hJoin⟩
      rw [splitTop, splitFrom_append hPair.uncut, hSplit]
      rfl

/- A style pair is read back. -/
theorem readStyle_writeStyle
    (hPair : IsPair s) :
    readStyle (writeStyle s) = .ok s := by
  rcases splitTop_pair hPair with ⟨value, more, hSplit, hJoin⟩
  rw [readStyle, writeStyle, inner_enclosed, hSplit]
  simp only [hJoin, readPath_writePath hPair.key,
    readPath_writePath hPair.value]
  rfl

/- A written style pair is a label of its own kind. -/
theorem isLabel_writeStyle
    (hPair : IsPair s) :
    IsLabel (writeStyle s) ∧ isStyle (writeStyle s) = true ∧
      isMulti (writeStyle s) = false := by
  rcases splitTop_pair hPair with ⟨value, more, hSplit, _⟩
  have hFound :
      (splitTop ':'
        (writePath s.key ++ ':' :: writePath s.value)).isSome =
          true := by
    rw [hSplit]
    rfl
  have hBalanced := (isSome_splitTop (by decide)).mp hFound
  refine ⟨isLabel_enclosed rfl hBalanced, ?_, ?_⟩
  · rw [isStyle, writeStyle, isEnclosed_enclosed]
    rfl
  · rw [isMulti, writeStyle, isEnclosed_enclosed]
    rfl

end Styles

------------------------------------------------------------
-- Alternatives
------------------------------------------------------------

/- There is a path, and no comma cuts any of the paths. -/
structure IsAlternatives (alternatives : List Path) : Prop where
  some : alternatives ≠ []
  paths : ∀ p ∈ alternatives, IsPath p
  uncut : ∀ p ∈ alternatives, isUncut ',' .closed (writePath p) = true

/- What is read as alternatives are some, and keep the rest. -/
theorem readAlternatives_eq_ok
    {segment : List Char}
    {alternatives : List Path}
    (hMulti : isMulti segment = true)
    (hRead : readAlternatives segment = .ok alternatives) :
    IsAlternatives alternatives ∧
      Keeps ['|', ','] (writeAlternatives alternatives) segment := by
  unfold readAlternatives at hRead
  split at hRead
  · cases hRead
  · rename_i pieces hSplit
    rcases splitTop_eq_some_iff.mp hSplit with ⟨hSome, hUncut, hJoin⟩
    have hEach := forall₂_of_mapM_eq_ok hRead
    have hPaths :
        ∀ p ∈ alternatives, IsPath p ∧
          isUncut ',' .closed (writePath p) = true := by
      intro p hp
      rcases exists_of_mem_mapM hRead hp with ⟨piece, hPiece, hOne⟩
      rcases readPath_eq_ok hOne with ⟨hPath, hKeeps⟩
      refine ⟨hPath, ?_⟩
      rw [hKeeps.isUncut_eq (by decide) (by decide)]
      exact hUncut piece hPiece
    refine ⟨⟨?_, fun p hp => (hPaths p hp).1,
      fun p hp => (hPaths p hp).2⟩, ?_⟩
    · rintro rfl
      cases hEach
      exact hSome rfl
    · intro f hBlank hSeps
      have hBar : ∀ sep ∈ ['|'], f sep = false := by
        simpa using hSeps '|' (by decide)
      have hComma : f ',' = false := hSeps ',' (by decide)
      have hItems :
          (alternatives.map writePath).flatMap (List.filter f) =
            pieces.flatMap (List.filter f) := by
        clear hJoin hUncut hSplit hSome hRead hPaths
        induction hEach with
        | nil => rfl
        | cons hOne _ ih =>
            rcases readPath_eq_ok hOne with ⟨_, hKeeps⟩
            rw [List.map_cons, List.flatMap_cons, List.flatMap_cons,
              hKeeps f hBlank hBar, ih]
      rw [eq_of_isEnclosed (by decide) hMulti, ← hJoin,
        writeAlternatives]
      simp only [List.filter_cons, List.filter_append,
        Text.filter_joinWith hComma, hItems]

section Alternatives

variable {alternatives : List Path}

/- The text in the parentheses is cut at its commas. -/
theorem splitTop_alternatives
    (hAlternatives : IsAlternatives alternatives) :
    splitTop ','
        (Text.joinWith [','] (alternatives.map writePath)) =
      some (alternatives.map writePath) := by
  apply splitTop_joinWith
  · simpa using hAlternatives.some
  · intro piece hPiece
    rcases List.mem_map.mp hPiece with ⟨p, hp, rfl⟩
    exact hAlternatives.uncut p hp

/- Alternatives are read back. -/
theorem readAlternatives_writeAlternatives
    (hAlternatives : IsAlternatives alternatives) :
    readAlternatives (writeAlternatives alternatives) =
      .ok alternatives := by
  rw [readAlternatives, writeAlternatives, inner_enclosed,
    splitTop_alternatives hAlternatives]
  exact mapM_map_eq_ok fun p hp =>
    readPath_writePath (hAlternatives.paths p hp)

/- Written alternatives are a label of their own kind. -/
theorem isLabel_writeAlternatives
    (hAlternatives : IsAlternatives alternatives) :
    IsLabel (writeAlternatives alternatives) ∧
      isStyle (writeAlternatives alternatives) = false ∧
      isMulti (writeAlternatives alternatives) = true := by
  have hFound :
      (splitTop ','
        (Text.joinWith [','] (alternatives.map writePath))).isSome =
          true := by
    rw [splitTop_alternatives hAlternatives]
    rfl
  have hBalanced := (isSome_splitTop (by decide)).mp hFound
  refine ⟨isLabel_enclosed rfl hBalanced, ?_, ?_⟩
  · rw [isStyle, writeAlternatives, isEnclosed_enclosed]
    rfl
  · rw [isMulti, writeAlternatives, isEnclosed_enclosed]
    rfl

end Alternatives

end Selector

end Gleaner
