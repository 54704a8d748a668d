import Gleaner.Proofs.Selector.Mapping
import Gleaner.Proofs.Selector.Written

/-
  The canonical text of an expression: whatever text an
  expression was read from, this text is read as the same
  levels and the same tail.

  Main declarations:
    * `Selector.writeLevel`
    * `Selector.writeTail`
    * `Selector.canonical`
    * `Selector.IsLevel`
    * `Selector.IsTail`
    * `Selector.readParts_canonical`
    * `Selector.parse_canonical`
-/

namespace Gleaner

namespace Selector

open Nesting

------------------------------------------------------------
-- Writing
------------------------------------------------------------

/- The segments of a level: its scope, and its style pair. -/
def scopeSegments (scope : Path) (style : Option StylePair) :
    List (List Char) :=
  scope.map String.toList ++ (style.map writeStyle).toList

/- The segments of a tail: its path, and its alternatives. -/
def tailSegments (t : Tail) : List (List Char) :=
  t.path.map String.toList ++ (t.multi.map writeAlternatives).toList

/- The segments of a level with bars between. -/
def writeScope (l : Level) : List Char :=
  Text.joinWith ['|'] (scopeSegments l.scope l.style)

/- The segments of a level behind a mark if it is a mapping. -/
def writeLevel (l : Level) : List Char :=
  if l.mapping then '^' :: writeScope l else writeScope l

/- The segments of a tail with bars between. -/
def writeTail (t : Tail) : List Char :=
  Text.joinWith ['|'] (tailSegments t)

/- Levels that end in semicolons, and the tail. -/
def canonical (levels : List Level) (tail : Tail) : String :=
  String.ofList
    (levels.flatMap (fun l => writeLevel l ++ [';']) ++
      writeTail tail)

------------------------------------------------------------
-- What Is Read
------------------------------------------------------------

/- A label that is no style pair and no list of alternatives. -/
structure IsStep (segment : List Char) : Prop where
  label : IsLabel segment
  noStyle : isStyle segment = false
  noMulti : isMulti segment = false

/- The scope and the style pair of a level. -/
structure IsScope (scope : Path) (style : Option StylePair) :
    Prop where
  scope : ∀ label ∈ scope, IsStep label.toList
  style : ∀ s, style = some s → IsPair s

/-
  A level: there is something in it, no semicolon cuts what is
  written of it, and there is no mark in it.
-/
structure IsLevel (l : Level) : Prop where
  parts : IsScope l.scope l.style
  some : scopeSegments l.scope l.style ≠ []
  uncut : isUncut ';' .closed (writeScope l) = true
  unmarked : stripMapping 0 (writeScope l) = (false, writeScope l)

/- A tail, likewise, in which there may be nothing. -/
structure IsTail (t : Tail) : Prop where
  path : ∀ label ∈ t.path, IsStep label.toList
  multi : ∀ alternatives, t.multi = some alternatives →
    IsAlternatives alternatives
  uncut : isUncut ';' .closed (writeTail t) = true
  unmarked : stripMapping 0 (writeTail t) = (false, writeTail t)

------------------------------------------------------------
-- Scopes
------------------------------------------------------------

/- The segments of a scope are labels. -/
theorem IsScope.segments
    {scope : Path}
    {style : Option StylePair}
    (hScope : IsScope scope style) :
    ∀ segment ∈ scopeSegments scope style, IsLabel segment := by
  intro segment hSegment
  rcases List.mem_append.mp hSegment with hLabel | hStyle
  · rcases List.mem_map.mp hLabel with ⟨label, hMem, rfl⟩
    exact (hScope.scope label hMem).label
  · rw [Option.mem_toList, Option.map_eq_some_iff] at hStyle
    rcases hStyle with ⟨s, hSome, rfl⟩
    exact (isLabel_writeStyle (hScope.style s hSome)).1

/- All that a scope that is read can start with. -/
theorem readScope_cons_cases
    {segment : List Char}
    {rest : List (List Char)}
    {scope : Path}
    {style : Option StylePair}
    (hRead : readScope (segment :: rest) = .ok (scope, style)) :
    (∃ s, rest = [] ∧ isStyle segment = true ∧
      readStyle segment = .ok s ∧ scope = [] ∧ style = some s) ∨
    (∃ more, isStyle segment = false ∧ isMulti segment = false ∧
      readScope rest = .ok (more, style) ∧
      scope = String.ofList segment :: more) := by
  rw [readScope] at hRead
  split at hRead
  · cases hRead
  · rename_i hNoMulti
    split at hRead
    · rename_i hStyle
      split at hRead
      · rename_i hLast
        cases hPair : readStyle segment with
        | error e =>
            rw [hPair] at hRead
            cases hRead
        | ok s =>
            rw [hPair] at hRead
            cases hRead
            exact .inl
              ⟨s, List.isEmpty_iff.mp hLast, hStyle, rfl, rfl, rfl⟩
      · cases hRead
    · rename_i hNoStyle
      cases hMore : readScope rest with
      | error e =>
          rw [hMore] at hRead
          cases hRead
      | ok found =>
          rcases found with ⟨more, last⟩
          rw [hMore] at hRead
          cases hRead
          exact .inr
            ⟨more, by simpa using hNoStyle, by simpa using hNoMulti,
              rfl, rfl⟩

/- What is read as a scope is one, and keeps the rest. -/
theorem readScope_eq_ok
    {segments : List (List Char)}
    {scope : Path}
    {style : Option StylePair}
    (hLabels : ∀ segment ∈ segments, IsLabel segment)
    (hRead : readScope segments = .ok (scope, style)) :
    IsScope scope style ∧
      (segments ≠ [] → scopeSegments scope style ≠ []) ∧
      Keeps ['|', ':']
        (Text.joinWith ['|'] (scopeSegments scope style))
        (Text.joinWith ['|'] segments) := by
  induction segments generalizing scope style with
  | nil =>
      cases hRead
      exact ⟨⟨by simp, by simp⟩, by simp, fun _ _ _ => rfl⟩
  | cons segment rest ih =>
      rcases readScope_cons_cases hRead with
        ⟨s, rfl, hStyle, hPair, rfl, rfl⟩ |
        ⟨more, hNoStyle, hNoMulti, hMore, rfl⟩
      · rcases readStyle_eq_ok hStyle hPair with ⟨hs, hKeeps⟩
        refine ⟨⟨by simp, ?_⟩, by simp [scopeSegments], hKeeps⟩
        intro t ht
        cases ht
        exact hs
      · have hSegment := hLabels segment List.mem_cons_self
        have hRest :=
          fun other hOther =>
            hLabels other (List.mem_cons_of_mem _ hOther)
        rcases ih hRest hMore with ⟨hScope, _, hKeeps⟩
        refine ⟨⟨?_, hScope.style⟩, by simp [scopeSegments], ?_⟩
        · intro label hLabel
          rcases List.mem_cons.mp hLabel with rfl | hLabel
          · rw [String.toList_ofList]
            exact ⟨hSegment, hNoStyle, hNoMulti⟩
          · exact hScope.scope label hLabel
        · intro f hBlank hSeps
          have hBar : f '|' = false := hSeps '|' (by decide)
          have hTail := hKeeps f hBlank hSeps
          rw [Text.filter_joinWith hBar,
            Text.filter_joinWith hBar] at hTail ⊢
          rw [List.flatMap_cons, ← hTail]
          simp [scopeSegments]

/- A scope is read back from its segments. -/
theorem readScope_scopeSegments
    {scope : Path}
    {style : Option StylePair}
    (hScope : IsScope scope style) :
    readScope (scopeSegments scope style) = .ok (scope, style) := by
  induction scope with
  | nil =>
      cases style with
      | none => rfl
      | some s =>
          have hPair := hScope.style s rfl
          rcases isLabel_writeStyle hPair with ⟨_, hStyle, hNoMulti⟩
          simp [scopeSegments, readScope, hStyle, hNoMulti,
            readStyle_writeStyle hPair]
  | cons label scope ih =>
      have hLabel := hScope.scope label List.mem_cons_self
      have hRest : readScope (scopeSegments scope style) =
          .ok (scope, style) :=
        ih ⟨fun l hl => hScope.scope l (List.mem_cons_of_mem _ hl),
          hScope.style⟩
      have hCons :
          scopeSegments (label :: scope) style =
            label.toList :: scopeSegments scope style :=
        rfl
      rw [hCons, readScope, hLabel.noMulti, hLabel.noStyle, hRest]
      simp

------------------------------------------------------------
-- Levels
------------------------------------------------------------

/- A mark is no matter to where a semicolon cuts. -/
theorem isUncut_cons_mark (cs : List Char) :
    isUncut ';' .closed ('^' :: cs) = isUncut ';' .closed cs := by
  apply isUncut_congr
  rw [List.filter_cons_of_neg (by decide)]

/-
  A text that keeps the rest of one without its marks is not
  cut where that is not, and has no mark itself.
-/
theorem Keeps.uncut_and_unmarked
    {cs ds : List Char}
    (hKeeps : Keeps ['|', ':', ','] ds (stripMapping 0 cs).2)
    (hUncut : isUncut ';' .closed cs = true) :
    isUncut ';' .closed ds = true ∧ stripMapping 0 ds = (false, ds) := by
  constructor
  · have hMarks :
        (stripMapping 0 cs).2.filter (isMark ';') =
          cs.filter (isMark ';') :=
      filter_stripMapping (by decide) 0 cs
    rw [hKeeps.isUncut_eq (by decide) (by decide),
      isUncut_congr hMarks]
    exact hUncut
  · apply stripMapping_of_filter_eq
    exact hKeeps isDepthMark (fun _ => isDepthMark_of_isBlank)
      (by simp [isDepthMark])

/- A level that keeps the rest of a text is one. -/
theorem isLevel_of_keeps
    {cs : List Char}
    {l : Level}
    (hParts : IsScope l.scope l.style)
    (hSome : scopeSegments l.scope l.style ≠ [])
    (hKeeps : Keeps ['|', ':', ','] (writeScope l) (stripMapping 0 cs).2)
    (hUncut : isUncut ';' .closed cs = true) :
    IsLevel l := by
  rcases hKeeps.uncut_and_unmarked hUncut with ⟨hCut, hMark⟩
  exact ⟨hParts, hSome, hCut, hMark⟩

/- What is read as a level is one. -/
theorem readLevel_eq_ok
    {cs : List Char}
    {l : Level}
    (hUncut : isUncut ';' .closed cs = true)
    (hRead : readLevel cs = .ok l) :
    IsLevel l := by
  unfold readLevel at hRead
  cases hSegments : readSegments (stripMapping 0 cs).2 with
  | error e =>
      simp only [hSegments] at hRead
      cases hRead
  | ok segments =>
      cases hScope : readScope segments with
      | error e =>
          simp only [hSegments] at hRead
          simp only [bind, Except.bind, hScope] at hRead
          cases hRead
      | ok found =>
          rcases found with ⟨scope, style⟩
          simp only [hSegments] at hRead
          simp only [bind, Except.bind, hScope] at hRead
          cases hRead
          rcases readSegments_eq_ok hSegments with
            ⟨hSome, hLabels, hInner⟩
          rcases readScope_eq_ok hLabels hScope with
            ⟨hParts, hStill, hOuter⟩
          apply isLevel_of_keeps hParts (hStill hSome) _ hUncut
          exact (hOuter.mono (by decide)).trans (hInner.mono (by decide))

section Levels

variable {l : Level}

/- A level is read back. -/
theorem readLevel_writeLevel
    (hLevel : IsLevel l) :
    readLevel (writeLevel l) = .ok l := by
  have hStrip :
      stripMapping 0 (writeLevel l) = (l.mapping, writeScope l) := by
    unfold writeLevel
    split
    · rename_i hMapping
      rw [stripMapping_cons, if_pos ⟨rfl, rfl⟩, hLevel.unmarked,
        hMapping]
    · rename_i hMapping
      rw [hLevel.unmarked]
      simpa using hMapping
  have hSegments :
      readSegments (writeScope l) =
        .ok (scopeSegments l.scope l.style) :=
    readSegments_joinWith hLevel.some hLevel.parts.segments
  have hScope := readScope_scopeSegments hLevel.parts
  simp only [readLevel, hStrip, hSegments]
  simp only [bind, Except.bind, hScope]
  rfl

/- No semicolon cuts a written level. -/
theorem isUncut_writeLevel
    (hLevel : IsLevel l) :
    isUncut ';' .closed (writeLevel l) = true := by
  unfold writeLevel
  split
  · rw [isUncut_cons_mark]
    exact hLevel.uncut
  · exact hLevel.uncut

end Levels

------------------------------------------------------------
-- Tails
------------------------------------------------------------

/- A check that succeeds finds no pair and no list. -/
theorem checkLeading_eq_ok_iff
    {segments : List (List Char)} :
    checkLeading segments = .ok () ↔
      ∀ segment ∈ segments,
        isStyle segment = false ∧ isMulti segment = false := by
  induction segments with
  | nil => simp [checkLeading]
  | cons segment segments ih =>
      rw [checkLeading]
      split
      · rename_i hMulti
        simp [hMulti]
      · split
        · rename_i hStyle
          simp [hStyle]
        · rename_i hNoMulti hNoStyle
          rw [ih]
          simp [hNoMulti, hNoStyle]

/- The last segment decides what a tail is. -/
theorem readTail_of_segments
    {levels : List Level}
    {cs : List Char}
    {leading : List (List Char)}
    {last : List Char}
    (hBlank : Text.trim (stripMapping 0 cs).2 ≠ [])
    (hSegments :
      readSegments (stripMapping 0 cs).2 = .ok (leading ++ [last]))
    (hLeading : checkLeading leading = .ok ()) :
    readTail levels cs =
      if isStyle last then
        (readStyle last).map fun s =>
          (levels ++ [⟨false, leading.map String.ofList, some s⟩],
            ⟨[], none⟩)
      else if isMulti last then
        (readAlternatives last).map fun alternatives =>
          (levels, ⟨leading.map String.ofList, some alternatives⟩)
      else
        .ok (levels, ⟨(leading ++ [last]).map String.ofList, none⟩) := by
  have hFilled : (Text.trim (stripMapping 0 cs).2).isEmpty = false := by
    simpa using hBlank
  simp only [readTail, hFilled, Bool.false_eq_true, if_false, hSegments]
  simp only [bind, Except.bind, pure, Except.pure, List.dropLast_concat,
    List.getLastD_concat, hLeading]
  split
  · cases readStyle last <;> rfl
  · split
    · cases readAlternatives last <;> rfl
    · rfl

/- A tail that is read has segments, unless it is blank. -/
theorem exists_segments_of_readTail_eq_ok
    {levels levels' : List Level}
    {cs : List Char}
    {t : Tail}
    (hBlank : Text.trim (stripMapping 0 cs).2 ≠ [])
    (hRead : readTail levels cs = .ok (levels', t)) :
    ∃ leading last,
      readSegments (stripMapping 0 cs).2 = .ok (leading ++ [last]) ∧
      checkLeading leading = .ok () := by
  have hFilled : (Text.trim (stripMapping 0 cs).2).isEmpty = false := by
    simpa using hBlank
  simp only [readTail, hFilled, Bool.false_eq_true, if_false] at hRead
  cases hSegments : readSegments (stripMapping 0 cs).2 with
  | error e =>
      rw [hSegments] at hRead
      cases hRead
  | ok segments =>
      rcases readSegments_eq_ok hSegments with ⟨hSome, _, _⟩
      rcases List.eq_nil_or_concat' segments with hNone | hLast
      · exact absurd hNone hSome
      · rcases hLast with ⟨leading, last, rfl⟩
        refine ⟨leading, last, rfl, ?_⟩
        cases hLeading : checkLeading leading with
        | error e =>
            rw [hSegments] at hRead
            simp [bind, Except.bind, hLeading] at hRead
        | ok done => rfl

/- All that a text can be as a tail. -/
theorem readTail_cases
    {levels levels' : List Level}
    {cs : List Char}
    {t : Tail}
    (hRead : readTail levels cs = .ok (levels', t)) :
    (levels ≠ [] ∧ levels' = levels ∧ t = ⟨[], none⟩) ∨
    ∃ leading last,
      readSegments (stripMapping 0 cs).2 = .ok (leading ++ [last]) ∧
      checkLeading leading = .ok () ∧
      ((∃ s, isStyle last = true ∧ readStyle last = .ok s ∧
        levels' =
          levels ++ [⟨false, leading.map String.ofList, some s⟩] ∧
        t = ⟨[], none⟩) ∨
      (∃ alternatives, isMulti last = true ∧
        readAlternatives last = .ok alternatives ∧
        levels' = levels ∧
        t = ⟨leading.map String.ofList, some alternatives⟩) ∨
      (isStyle last = false ∧ isMulti last = false ∧
        levels' = levels ∧
        t = ⟨(leading ++ [last]).map String.ofList, none⟩)) := by
  by_cases hBlank : Text.trim (stripMapping 0 cs).2 = []
  · simp only [readTail, hBlank, List.isEmpty_nil, if_true] at hRead
    split at hRead
    · cases hRead
    · rename_i hLevels
      cases hRead
      exact .inl ⟨by simpa using hLevels, rfl, rfl⟩
  · refine .inr ?_
    rcases exists_segments_of_readTail_eq_ok hBlank hRead with
      ⟨leading, last, hSegments, hLeading⟩
    refine ⟨leading, last, hSegments, hLeading, ?_⟩
    rw [readTail_of_segments hBlank hSegments hLeading] at hRead
    split at hRead
    · rename_i hStyle
      cases hPair : readStyle last with
      | error e =>
          rw [hPair] at hRead
          cases hRead
      | ok s =>
          rw [hPair] at hRead
          cases hRead
          exact .inl ⟨s, hStyle, rfl, rfl, rfl⟩
    · rename_i hNoStyle
      refine .inr ?_
      split at hRead
      · rename_i hMulti
        cases hAll : readAlternatives last with
        | error e =>
            rw [hAll] at hRead
            cases hRead
        | ok alternatives =>
            rw [hAll] at hRead
            cases hRead
            exact .inl ⟨alternatives, hMulti, rfl, rfl, rfl⟩
      · rename_i hNoMulti
        cases hRead
        exact .inr ⟨by simpa using hNoStyle, by simpa using hNoMulti,
          rfl, rfl⟩

/- Another last segment that keeps the rest of the last keeps all. -/
theorem Keeps.concat
    {seps : List Char}
    (hBar : '|' ∈ seps)
    {last other : List Char}
    (hKeeps : Keeps seps other last)
    (leading : List (List Char)) :
    Keeps seps (Text.joinWith ['|'] (leading ++ [other]))
      (Text.joinWith ['|'] (leading ++ [last])) := by
  intro f hBlank hSeps
  rw [Text.filter_joinWith (hSeps '|' hBar),
    Text.filter_joinWith (hSeps '|' hBar), List.flatMap_append,
    List.flatMap_append, List.flatMap_singleton,
    List.flatMap_singleton, hKeeps f hBlank hSeps]

/- A tail that keeps the rest of a text is one. -/
theorem isTail_of_keeps
    {cs : List Char}
    {t : Tail}
    (hPath : ∀ label ∈ t.path, IsStep label.toList)
    (hMulti : ∀ alternatives, t.multi = some alternatives →
      IsAlternatives alternatives)
    (hKeeps : Keeps ['|', ':', ','] (writeTail t) (stripMapping 0 cs).2)
    (hUncut : isUncut ';' .closed cs = true) :
    IsTail t := by
  rcases hKeeps.uncut_and_unmarked hUncut with ⟨hCut, hMark⟩
  exact ⟨hPath, hMulti, hCut, hMark⟩

/- Segments that are labels and no more are steps as labels. -/
theorem isStep_of_mem_map
    {segments : List (List Char)}
    (hSteps : ∀ segment ∈ segments, IsStep segment) :
    ∀ label ∈ segments.map String.ofList, IsStep label.toList := by
  intro label hLabel
  rcases List.mem_map.mp hLabel with ⟨segment, hSegment, rfl⟩
  rw [String.toList_ofList]
  exact hSteps segment hSegment

/- What is read as a tail is one, and so are the levels before. -/
theorem readTail_eq_ok
    {levels levels' : List Level}
    {cs : List Char}
    {t : Tail}
    (hLevels : ∀ l ∈ levels, IsLevel l)
    (hUncut : isUncut ';' .closed cs = true)
    (hRead : readTail levels cs = .ok (levels', t)) :
    (∀ l ∈ levels', IsLevel l) ∧ IsTail t ∧
      (levels' = [] → t ≠ ⟨[], none⟩) := by
  have hNothing : IsTail ⟨[], none⟩ :=
    ⟨by simp, by simp, rfl, rfl⟩
  rcases readTail_cases hRead with
    ⟨hSome, rfl, rfl⟩ | ⟨leading, last, hSegments, hLeading, hLast⟩
  · exact ⟨hLevels, hNothing, fun hNone => absurd hNone hSome⟩
  rcases readSegments_eq_ok hSegments with ⟨_, hLabels, hKept⟩
  have hInner :
      Keeps ['|', ':', ','] (Text.joinWith ['|'] (leading ++ [last]))
        (stripMapping 0 cs).2 :=
    hKept.mono (by decide)
  have hSteps : ∀ segment ∈ leading, IsStep segment := by
    intro segment hSegment
    rcases checkLeading_eq_ok_iff.mp hLeading segment hSegment with
      ⟨hNoStyle, hNoMulti⟩
    exact ⟨hLabels segment (List.mem_append_left _ hSegment),
      hNoStyle, hNoMulti⟩
  rcases hLast with
    ⟨s, hStyle, hPair, rfl, rfl⟩ |
    ⟨alternatives, hMulti, hAll, rfl, rfl⟩ |
    ⟨hNoStyle, hNoMulti, rfl, rfl⟩
  · rcases readStyle_eq_ok hStyle hPair with ⟨hs, hOuter⟩
    refine ⟨?_, hNothing, by simp⟩
    intro l hl
    rcases List.mem_append.mp hl with hOld | hNew
    · exact hLevels l hOld
    · rw [List.mem_singleton.mp hNew]
      have hParts :
          IsScope (leading.map String.ofList) (some s) :=
        ⟨isStep_of_mem_map hSteps, fun t ht => by cases ht; exact hs⟩
      apply isLevel_of_keeps hParts (by simp [scopeSegments]) _ hUncut
      rw [writeScope, scopeSegments, map_toList_map_ofList]
      exact ((hOuter.mono (by decide)).concat (by decide) leading).trans
        hInner
  · rcases readAlternatives_eq_ok hMulti hAll with
      ⟨hAlternatives, hOuter⟩
    refine ⟨hLevels, ?_, by simp⟩
    apply isTail_of_keeps (isStep_of_mem_map hSteps) _ _ hUncut
    · intro others hOthers
      cases hOthers
      exact hAlternatives
    · rw [writeTail, tailSegments, map_toList_map_ofList]
      exact ((hOuter.mono (by decide)).concat (by decide) leading).trans
        hInner
  · have hAllSteps : ∀ segment ∈ leading ++ [last], IsStep segment := by
      intro segment hSegment
      rcases List.mem_append.mp hSegment with hOld | hNew
      · exact hSteps segment hOld
      · rw [List.mem_singleton.mp hNew]
        exact ⟨hLabels last (by simp), hNoStyle, hNoMulti⟩
    refine ⟨hLevels, ?_, by simp⟩
    apply isTail_of_keeps (isStep_of_mem_map hAllSteps) (by simp) _ hUncut
    rw [writeTail, tailSegments, map_toList_map_ofList]
    simpa using hInner

/- Labels with bars between are not blank. -/
theorem trim_joinWith_ne_nil
    {segments : List (List Char)}
    (hSome : segments ≠ [])
    (hLabels : ∀ segment ∈ segments, IsLabel segment) :
    Text.trim (Text.joinWith ['|'] segments) ≠ [] := by
  intro hNone
  have hBlank := Text.trim_eq_nil_iff.mp hNone
  rcases List.exists_mem_of_ne_nil segments hSome with
    ⟨segment, hSegment⟩
  have hLabel := hLabels segment hSegment
  have hSegmentBlank : Text.AllBlank segment :=
    fun c hc => hBlank c (Text.mem_joinWith hSegment hc)
  apply hLabel.some
  rw [← hLabel.trimmed]
  exact Text.trim_eq_nil_iff.mpr hSegmentBlank

section Tails

variable {levels : List Level} {t : Tail}

/- The segments of a tail are labels. -/
theorem IsTail.segments
    (hTail : IsTail t) :
    ∀ segment ∈ tailSegments t, IsLabel segment := by
  intro segment hSegment
  rcases List.mem_append.mp hSegment with hLabel | hMulti
  · rcases List.mem_map.mp hLabel with ⟨label, hMem, rfl⟩
    exact (hTail.path label hMem).label
  · rw [Option.mem_toList, Option.map_eq_some_iff] at hMulti
    rcases hMulti with ⟨alternatives, hSome, rfl⟩
    exact (isLabel_writeAlternatives
      (hTail.multi alternatives hSome)).1

/- A path without pairs and lists leads to the last segment. -/
theorem checkLeading_map
    {path : Path}
    (hPath : ∀ label ∈ path, IsStep label.toList) :
    checkLeading (path.map String.toList) = .ok () := by
  rw [checkLeading_eq_ok_iff]
  intro segment hSegment
  rcases List.mem_map.mp hSegment with ⟨label, hLabel, rfl⟩
  exact ⟨(hPath label hLabel).noStyle, (hPath label hLabel).noMulti⟩

/- A tail that is some is read back as its segments. -/
theorem IsTail.readSegments_writeTail
    (hTail : IsTail t)
    (hSegments : tailSegments t ≠ []) :
    Text.trim (stripMapping 0 (writeTail t)).2 ≠ [] ∧
      readSegments (stripMapping 0 (writeTail t)).2 =
        .ok (tailSegments t) := by
  have hKept : (stripMapping 0 (writeTail t)).2 = writeTail t :=
    congrArg Prod.snd hTail.unmarked
  rw [hKept]
  exact ⟨trim_joinWith_ne_nil hSegments hTail.segments,
    readSegments_joinWith hSegments hTail.segments⟩

/- Behind levels, nothing is read as nothing. -/
theorem readTail_writeTail_nil
    (hTail : IsTail ⟨[], none⟩)
    (hLevels : levels ≠ []) :
    readTail levels (writeTail ⟨[], none⟩) =
      .ok (levels, ⟨[], none⟩) := by
  simp only [readTail, hTail.unmarked]
  simp [writeTail, tailSegments, Text.joinWith, Text.trim,
    Text.trimStart, Text.trimEnd, hLevels]
  rfl

/- A path is read back. -/
theorem readTail_writeTail_path
    {path : Path}
    {label : String}
    (hTail : IsTail ⟨path ++ [label], none⟩) :
    readTail levels (writeTail ⟨path ++ [label], none⟩) =
      .ok (levels, ⟨path ++ [label], none⟩) := by
  have hCut :
      tailSegments ⟨path ++ [label], none⟩ =
        path.map String.toList ++ [label.toList] := by
    simp [tailSegments]
  rcases hTail.readSegments_writeTail (by simp [hCut]) with
    ⟨hBlank, hRead⟩
  have hPath : ∀ other ∈ path, IsStep other.toList :=
    fun other hOther =>
      hTail.path other (List.mem_append_left _ hOther)
  have hLast := hTail.path label (by simp)
  refine (readTail_of_segments hBlank (hRead.trans (congrArg _ hCut))
    (checkLeading_map hPath)).trans ?_
  rw [hLast.noStyle, hLast.noMulti, List.map_append,
    map_ofList_map_toList]
  simp

/- A path with alternatives at its end is read back. -/
theorem readTail_writeTail_alternatives
    {path : Path}
    {alternatives : List Path}
    (hTail : IsTail ⟨path, some alternatives⟩) :
    readTail levels (writeTail ⟨path, some alternatives⟩) =
      .ok (levels, ⟨path, some alternatives⟩) := by
  have hAlternatives := hTail.multi alternatives rfl
  rcases isLabel_writeAlternatives hAlternatives with
    ⟨_, hNoStyle, hMulti⟩
  rcases hTail.readSegments_writeTail (by simp [tailSegments]) with
    ⟨hBlank, hRead⟩
  refine (readTail_of_segments hBlank hRead
    (checkLeading_map hTail.path)).trans ?_
  rw [hNoStyle, hMulti, readAlternatives_writeAlternatives hAlternatives,
    map_ofList_map_toList]
  rfl

/- A tail is read back behind levels, and alone if it is some. -/
theorem readTail_writeTail
    (hTail : IsTail t)
    (hSome : levels = [] → t ≠ ⟨[], none⟩) :
    readTail levels (writeTail t) = .ok (levels, t) := by
  rcases t with ⟨path, _ | alternatives⟩
  · rcases List.eq_nil_or_concat' path with rfl | ⟨start, label, rfl⟩
    · exact readTail_writeTail_nil hTail fun hNone => hSome hNone rfl
    · exact readTail_writeTail_path hTail
  · exact readTail_writeTail_alternatives hTail

end Tails

------------------------------------------------------------
-- Whole Expressions
------------------------------------------------------------

/- What levels and a tail are that are read from a text. -/
structure IsExpression (levels : List Level) (tail : Tail) : Prop where
  isLevel : ∀ l ∈ levels, IsLevel l
  isTail : IsTail tail
  some : levels = [] → tail ≠ ⟨[], none⟩

/- What is read as an expression is one. -/
theorem readParts_eq_ok
    {cs : List Char}
    {levels : List Level}
    {tail : Tail}
    (hRead : readParts cs = .ok (levels, tail)) :
    IsExpression levels tail := by
  unfold readParts at hRead
  split at hRead
  · cases hRead
  · split at hRead
    · cases hRead
    · rename_i parts hSplit
      rcases splitTop_eq_some_iff.mp hSplit with ⟨hSome, hUncut, _⟩
      rcases List.eq_nil_or_concat' parts with hNone | hLast
      · exact absurd hNone hSome
      · rcases hLast with ⟨front, last, rfl⟩
        rw [List.dropLast_concat, List.getLastD_concat] at hRead
        cases hFront : front.mapM readLevel with
        | error e =>
            rw [hFront] at hRead
            cases hRead
        | ok before =>
            rw [hFront] at hRead
            have hBefore : ∀ l ∈ before, IsLevel l := by
              intro l hl
              rcases exists_of_mem_mapM hFront hl with
                ⟨part, hPart, hLevel⟩
              have hPartUncut :=
                hUncut part (List.mem_append_left _ hPart)
              exact readLevel_eq_ok hPartUncut hLevel
            have hLastUncut := hUncut last (by simp)
            rcases readTail_eq_ok hBefore hLastUncut hRead with
              ⟨hLevels, hTail, hAny⟩
            exact ⟨hLevels, hTail, hAny⟩

section Expressions

variable {levels : List Level} {tail : Tail}

/- The canonical text has its parts with semicolons between. -/
theorem toList_canonical (levels : List Level) (tail : Tail) :
    (canonical levels tail).toList =
      Text.joinWith [';'] (levels.map writeLevel ++ [writeTail tail]) := by
  rw [canonical, String.toList_ofList]
  induction levels with
  | nil => rfl
  | cons l levels ih =>
      rw [List.flatMap_cons, List.append_assoc, ih, List.map_cons,
        List.cons_append]
      cases levels with
      | nil => simp [Text.joinWith_cons_cons, Text.joinWith]
      | cons next levels =>
          rw [List.map_cons, List.cons_append,
            Text.joinWith_cons_cons ';' (writeLevel l)]
          simp

/- The canonical text of an expression is not blank. -/
theorem trim_canonical_ne_nil
    (hExpression : IsExpression levels tail) :
    Text.trim (canonical levels tail).toList ≠ [] := by
  intro hNone
  have hBlank := Text.trim_eq_nil_iff.mp hNone
  rw [canonical, String.toList_ofList] at hBlank
  cases levels with
  | nil =>
      have hTail : Text.trim (writeTail tail) = [] :=
        Text.trim_eq_nil_iff.mpr hBlank
      have hRead :=
        readTail_writeTail hExpression.isTail hExpression.some
      rw [readTail, hExpression.isTail.unmarked] at hRead
      simp [hTail] at hRead
  | cons l levels =>
      have hMark : Text.isBlank ';' = true := hBlank ';' (by simp)
      cases hMark

/- The canonical text of an expression is read as it. -/
theorem readParts_canonical
    (hExpression : IsExpression levels tail) :
    readParts (canonical levels tail).toList = .ok (levels, tail) := by
  have hBlank : (Text.trim (canonical levels tail).toList).isEmpty =
      false := by
    simpa using trim_canonical_ne_nil hExpression
  have hSplit :
      splitTop ';' (canonical levels tail).toList =
        some (levels.map writeLevel ++ [writeTail tail]) := by
    rw [toList_canonical]
    apply splitTop_joinWith (by simp)
    intro piece hPiece
    rcases List.mem_append.mp hPiece with hLevel | hTail
    · rcases List.mem_map.mp hLevel with ⟨l, hl, rfl⟩
      exact isUncut_writeLevel (hExpression.isLevel l hl)
    · rw [List.mem_singleton.mp hTail]
      exact hExpression.isTail.uncut
  have hLevels :
      (levels.map writeLevel).mapM readLevel = .ok levels :=
    mapM_map_eq_ok fun l hl =>
      readLevel_writeLevel (hExpression.isLevel l hl)
  simp only [readParts, hBlank, hSplit, List.dropLast_concat,
    List.getLastD_concat, Bool.false_eq_true, if_false, hLevels]
  exact readTail_writeTail hExpression.isTail hExpression.some

end Expressions

/- All labels of levels and a tail. -/
def labelsOf (levels : List Level) (tail : Tail) : List String :=
  levels.flatMap (fun l =>
    l.scope ++ l.style.toList.flatMap fun s => s.key ++ s.value) ++
    tail.path ++ tail.multi.toList.flatMap List.flatten

/-
  What holds of all levels and tails that are read: no path of
  a pair or of an alternative is empty, no level and no whole
  expression is empty, and all labels are trimmed, balanced
  and not empty.
-/
structure IsWellFormed (levels : List Level) (tail : Tail) : Prop where
  pairs :
    ∀ l ∈ levels, ∀ s, l.style = some s → s.key ≠ [] ∧ s.value ≠ []
  alternatives :
    ∀ alternatives, tail.multi = some alternatives →
      alternatives ≠ [] ∧ ∀ p ∈ alternatives, p ≠ []
  scopes : ∀ l ∈ levels, l.style = none → l.scope ≠ []
  some : levels = [] → tail.path ≠ [] ∨ tail.multi ≠ none
  labels :
    ∀ label ∈ labelsOf levels tail,
      label ≠ "" ∧ Text.strip label = label ∧
        isBalanced label.toList = true

/- A label is what all labels are. -/
theorem IsLabel.wellFormed
    {label : String}
    (hLabel : IsLabel label.toList) :
    label ≠ "" ∧ Text.strip label = label ∧
      isBalanced label.toList = true := by
  refine ⟨?_, ?_, isBalanced_of_isUncut hLabel.uncut⟩
  · rintro rfl
    exact hLabel.some rfl
  · rw [Text.strip, hLabel.trimmed, String.ofList_toList]

/- An expression is well formed. -/
theorem IsExpression.wellFormed
    {levels : List Level}
    {tail : Tail}
    (hExpression : IsExpression levels tail) :
    IsWellFormed levels tail where
  pairs := by
    intro l hl s hs
    have hPair := (hExpression.isLevel l hl).parts.style s hs
    exact ⟨hPair.key.some, hPair.value.some⟩
  alternatives := by
    intro alternatives hMulti
    have hAll := hExpression.isTail.multi alternatives hMulti
    exact ⟨hAll.some, fun p hp => (hAll.paths p hp).some⟩
  scopes := by
    intro l hl hNone hEmpty
    apply (hExpression.isLevel l hl).some
    simp [scopeSegments, hNone, hEmpty]
  some := by
    intro hNone
    have hSome := hExpression.some hNone
    by_contra hNeither
    apply hSome
    rcases tail with ⟨path, multi⟩
    simpa [not_or] using hNeither
  labels := by
    intro label hLabel
    apply IsLabel.wellFormed
    rcases List.mem_append.mp hLabel with hFront | hMulti
    · rcases List.mem_append.mp hFront with hLevel | hPath
      · rcases List.mem_flatMap.mp hLevel with ⟨l, hl, hIn⟩
        have hParts := (hExpression.isLevel l hl).parts
        rcases List.mem_append.mp hIn with hScope | hStyle
        · exact (hParts.scope label hScope).label
        · rcases List.mem_flatMap.mp hStyle with ⟨s, hs, hPair⟩
          rw [Option.mem_toList] at hs
          rcases List.mem_append.mp hPair with hKey | hValue
          · exact (hParts.style s hs).key.labels label hKey
          · exact (hParts.style s hs).value.labels label hValue
      · exact (hExpression.isTail.path label hPath).label
    · rcases List.mem_flatMap.mp hMulti with ⟨alternatives, hs, hIn⟩
      rw [Option.mem_toList] at hs
      rcases List.mem_flatten.mp hIn with ⟨p, hp, hLabel⟩
      have hAll := hExpression.isTail.multi alternatives hs
      exact (hAll.paths p hp).labels label hLabel

/-
  The canonical text of whatever was read is read again, as the
  same levels and the same tail, and these are well formed.
-/
theorem parse_canonical
    {source : String}
    {s : Selector}
    (hParse : parse source = .ok s) :
    parse (canonical s.levels s.tail) =
        .ok ⟨canonical s.levels s.tail, s.levels, s.tail⟩ ∧
      IsWellFormed s.levels s.tail := by
  unfold parse at hParse
  split at hParse
  · rename_i levels tail hRead
    cases hParse
    have hExpression := readParts_eq_ok hRead
    refine ⟨?_, hExpression.wellFormed⟩
    rw [parse, readParts_canonical hExpression]
  · cases hParse

/-
  Marks and blanks go, quotes keep a bracket, and a pair at the
  end of the tail becomes a level.
-/
theorem parse_canonical_sample :
    parse "a|b^ ; \"(\" | \x7b k | x : v :w \x7d" =
        .ok
          ⟨"a|b^ ; \"(\" | \x7b k | x : v :w \x7d",
            [⟨true, ["a", "b"], none⟩,
              ⟨false, ["\"(\""], some ⟨["k", "x"], ["v :w"]⟩⟩],
            ⟨[], none⟩⟩ ∧
      parse "^a|b;\"(\"|\x7bk|x:v :w\x7d;" =
        .ok
          ⟨"^a|b;\"(\"|\x7bk|x:v :w\x7d;",
            [⟨true, ["a", "b"], none⟩,
              ⟨false, ["\"(\""], some ⟨["k", "x"], ["v :w"]⟩⟩],
            ⟨[], none⟩⟩ := by
  have hParse :
      parse "a|b^ ; \"(\" | \x7b k | x : v :w \x7d" =
        .ok
          ⟨"a|b^ ; \"(\" | \x7b k | x : v :w \x7d",
            [⟨true, ["a", "b"], none⟩,
              ⟨false, ["\"(\""], some ⟨["k", "x"], ["v :w"]⟩⟩],
            ⟨[], none⟩⟩ := by
    decide +kernel
  refine ⟨hParse, ?_⟩
  have hCanonical := (parse_canonical hParse).1
  have hText :
      canonical
          [⟨true, ["a", "b"], none⟩,
            ⟨false, ["\"(\""], some ⟨["k", "x"], ["v :w"]⟩⟩]
          ⟨[], none⟩ =
        "^a|b;\"(\"|\x7bk|x:v :w\x7d;" := by
    decide +kernel
  rw [hText] at hCanonical
  exact hCanonical

end Selector

end Gleaner
