import Gleaner.Proofs.Markup.StartTags

/-
  End tags inside the body: the end tag of the innermost element
  closes it, and where nothing is open an end tag is lost.

  Main declarations:
    * `Markup.Listed.tail`
    * `Markup.Stands.bodyEnd_open`
    * `Markup.Stands.bodyEnd_lost`
-/

namespace Gleaner

namespace Markup

open Build

------------------------------------------------------------
-- Lists of Formatting Elements
------------------------------------------------------------

namespace Listed

variable {id : Nat}
variable {ids : List Nat}
variable {tag : Tag}
variable {tags : List Tag}
variable {entries : List Formatting}

/- An element that is neither listed nor marked is left. -/
theorem tail
    (h : Listed (id :: ids) (tag :: tags) entries)
    (hFormatting : isFormatting tag = false)
    (hKeeps : keepsFormatting tag = false) :
    Listed ids tags entries := by
  cases h with
  | skip _ hRest => exact hRest
  | entry hKind _ _ =>
      rw [hFormatting] at hKind
      cases hKind
  | marker hKind _ =>
      rw [hKeeps] at hKind
      cases hKind

/- The list of an element that keeps the formatting ends with it. -/
theorem dropMarker
    (h : Listed (id :: ids) (tag :: tags) entries)
    (hKeeps : keepsFormatting tag = true) :
    Listed ids tags ((entries.dropWhile (· != .marker)).drop 1) := by
  cases h with
  | skip hKind _ =>
      rw [hKeeps] at hKind
      cases hKind
  | entry hKind _ _ =>
      rw [keepsFormatting_of_isFormatting hKind] at hKeeps
      cases hKeeps
  | marker _ hRest => exact hRest

/- What is open no more is not listed. -/
theorem filter_eq_self
    (h : Listed ids tags entries)
    (hOld : id ∉ ids) :
    entries.filter (!Formatting.holds id ·) = entries := by
  rw [List.filter_eq_self]
  intro e he
  rw [Bool.not_eq_true', Bool.eq_false_iff]
  exact fun hHolds => hOld (h.mem ⟨e, he, hHolds⟩)

theorem any_eq_false
    (h : Listed ids tags entries)
    (hOld : id ∉ ids) :
    entries.any (Formatting.holds id) = false := by
  rw [List.any_eq_false]
  exact fun e he hHolds => hOld (h.mem ⟨e, he, hHolds⟩)

end Listed

------------------------------------------------------------
-- The Innermost Element
------------------------------------------------------------

namespace Stands

variable {b : Builder}
variable {phase : Phase}
variable {level outer : Level}
variable {levels : List Level}

/- The operation closes the innermost element. -/
def Closes
    (x : Build Outcome)
    (b : Builder)
    (phase : Phase)
    (level outer : Level)
    (levels : List Level) : Prop :=
  ∃ c, x.run b = (.done, c) ∧
    Stands c phase
      (⟨outer.tag, outer.nodes ++ [.element level.tag level.nodes]⟩ ::
        levels)

/- Elements are closed back to the innermost one. -/
theorem run_popUntil
    (h : Stands b phase (level :: levels))
    {stop : Tag → Bool}
    (hStop : stop level.tag = true) :
    (popUntil stop).run b =
      ((), { b with openIds := b.openIds.tail }) := by
  rcases h.exists_openIds with ⟨id, ids, hIds⟩
  have hHead := h.tagOf_head
  rw [hIds] at hHead
  change b.arena.tagOf id = level.tag at hHead
  rw [popUntil, run_modify, hIds, dropUntil, hHead, if_pos hStop]
  rfl

theorem isHtml_of_name
    (h : Stands b phase (level :: levels))
    {name : String}
    (hName : level.tag.name = name) :
    level.tag.isHtml name = true := by
  rw [Tag.isHtml, h.html _ List.mem_cons_self, hName]
  simp

theorem run_closeInScope
    (h : Stands b phase (level :: levels))
    {name : String}
    (hName : level.tag.name = name)
    {implied : List String}
    (hImplied : name ∉ implied)
    (scope : Tag → Bool) :
    (Rules.closeInScope scope name implied).run b =
      (true, { b with openIds := b.openIds.tail }) := by
  have hTag := h.isHtml_of_name hName
  have hScope : reaches scope (·.isHtml name)
      ((level :: levels).map (·.tag)) = true := by
    rw [List.map_cons, reaches, hTag, Bool.true_or]
  have hKept : level.tag.isHtmlIn implied = false := by
    rw [Tag.isHtmlIn, hName]
    simp [hImplied]
  rw [Rules.closeInScope, inScopeNamed, run_bind, h.run_inScope, hScope]
  dsimp only
  rw [if_pos rfl, run_bind, h.run_closeImplied hKept, run_bind,
    popUntilNamed, h.run_popUntil hTag]
  rfl

/- The innermost element is left, and it was not listed. -/
theorem closePlain
    (h : Stands b phase (level :: outer :: levels))
    (hFormatting : isFormatting level.tag = false)
    (hKeeps : keepsFormatting level.tag = false) :
    Stands { b with openIds := b.openIds.tail } phase
      (⟨outer.tag, outer.nodes ++ [.element level.tag level.nodes]⟩ ::
        levels) := by
  rcases h.exists_openIds with ⟨id, ids, hIds⟩
  have hListed := h.listed
  rw [hIds] at hListed
  have hTail := hListed.tail hFormatting hKeeps
  exact h.close b.formatting (by rw [hIds]; exact hTail)

theorem closes_inScope
    (h : Stands b phase (level :: outer :: levels))
    {name : String}
    (hName : level.tag.name = name)
    {implied : List String}
    (hImplied : name ∉ implied)
    (hPlain : name ∉ formattingLike)
    (hKeeps : keepsFormatting level.tag = false)
    (scope : Tag → Bool) :
    Closes
      (do let _ ← Rules.closeInScope scope name implied; return .done)
      b phase level outer levels := by
  have hFormatting : isFormatting level.tag = false := by
    rw [isFormatting, Tag.isHtmlIn, hName, Bool.and_eq_false_iff]
    exact .inr (by simpa [formattingLike] using hPlain)
  refine ⟨_, ?_, h.closePlain hFormatting hKeeps⟩
  rw [run_bind, h.run_closeInScope hName hImplied]
  rfl

/- No element that is open further out has the same number. -/
theorem notMem_tail
    (h : Stands b phase levels)
    {id : Nat}
    {ids : List Nat}
    (hIds : b.openIds = id :: ids) :
    id ∉ ids := by
  have hPairwise := h.spine.pairwise_gt
  rw [hIds] at hPairwise
  exact fun hIn =>
    Nat.lt_irrefl id ((List.pairwise_cons.mp hPairwise).1 id hIn)

/- The latest entry is the first one that is found. -/
theorem find?_sinceMarker_head
    (id : Nat)
    (t : StartTag)
    (entries : List Formatting) :
    ((sinceMarker (.element id t :: entries)).find? fun (_, tag) =>
      tag.name == t.name) = some (id, t) := by
  rw [sinceMarker, List.find?_cons]
  simp

/- The innermost formatting element is closed if it is listed. -/
theorem run_adoptOnce
    {id : Nat}
    {ids : List Nat}
    {t : StartTag}
    {entries : List Formatting}
    (hIds : b.openIds = id :: ids)
    (hEntries : b.formatting = .element id t :: entries) :
    (adoptOnce t.name).run b =
      (.finished,
        { b with
          openIds := ids
          formatting :=
            b.formatting.filter (!Formatting.holds id ·) }) := by
  have hOpen : b.openIds.contains id = true := by
    rw [hIds]
    simp
  have hScope : (inScopeId id).run b = (true, b) := by
    rw [inScopeId, run_bind, run_get]
    simp only [run_pure, hIds, findInScope]
    simp
  have hInside : b.openIds.takeWhile (· != id) = [] := by
    rw [hIds]
    simp
  have hOutside : (b.openIds.dropWhile (· != id)).drop 1 = ids := by
    rw [hIds]
    simp
  rw [adoptOnce, run_bind, run_get]
  dsimp only
  rw [hEntries, find?_sinceMarker_head]
  dsimp only
  rw [hOpen, hInside, hOutside]
  simp only [Bool.not_true, Bool.false_eq_true, if_false, run_bind, hScope]
  rfl

/- A formatting element is closed, and it is listed no more. -/
theorem run_adopt
    (h : Stands b phase (level :: outer :: levels))
    {name : String}
    (hName : level.tag.name = name)
    (hKind : isFormatting level.tag = true) :
    ∃ c, (adopt name).run b = ((), c) ∧
      Stands c phase
        (⟨outer.tag, outer.nodes ++ [.element level.tag level.nodes]⟩ ::
          levels) := by
  rcases h.exists_openIds with ⟨id, ids, hIds⟩
  have hNew := h.notMem_tail hIds
  have hTag := h.tagOf_head
  have hHtml := h.isHtml_of_name hName
  have hListed := h.listed
  rw [hIds] at hListed
  rw [adopt, run_bind, run_get, run_bind]
  change ∃ c, (StateT.run (if (b.arena.tagOf (b.openIds.headD 0)).isHtml
    name && !b.formatting.any (Formatting.holds (b.openIds.headD 0))
    then pop else adoptWithin name 8) b) = ((), c) ∧ _
  rw [hTag, hHtml, hIds, List.headD_cons]
  generalize hEntries : b.formatting = entries at hListed
  cases hListed with
  | skip _ hRest =>
      rw [hRest.any_eq_false hNew]
      refine ⟨_, rfl, ?_⟩
      apply h.close b.formatting
      rw [hIds, hEntries]
      exact hRest
  | @entry _ _ _ _ entries t _ hEntry hRest =>
      have hKnown : (Formatting.element id t :: entries).any
          (Formatting.holds id) = true := by
        simp [Formatting.holds]
      have hOnce := run_adoptOnce hIds hEntries
      rw [hEntry, hName] at hOnce
      rw [hKnown, adoptWithin]
      simp only [Bool.not_true, Bool.and_false, Bool.false_eq_true,
        if_false, run_bind, hOnce]
      refine ⟨_, rfl, ?_⟩
      have hFilter : b.formatting.filter (!Formatting.holds id ·) =
          entries := by
        rw [hEntries, List.filter_cons, hRest.filter_eq_self hNew]
        simp [Formatting.holds]
      have hClosed := h.close entries (by rw [hIds]; exact hRest)
      rw [hFilter]
      rw [hIds] at hClosed
      exact hClosed
  | marker hOther _ =>
      rw [keepsFormatting_of_isFormatting hKind] at hOther
      cases hOther

/- An element without rules of its own is closed. -/
theorem run_closeOrdinary
    (h : Stands b phase (level :: levels))
    {name : String}
    (hName : level.tag.name = name) :
    (closeOrdinary name).run b =
      ((), { b with openIds := b.openIds.tail }) := by
  rcases h.exists_openIds with ⟨id, ids, hIds⟩
  have hHead := h.tagOf_head
  have hTag := h.isHtml_of_name hName
  rw [hIds] at hHead
  change b.arena.tagOf id = level.tag at hHead
  have hStop :
      dropUntil (fun t => t.isHtml name || isSpecial t) b.arena
        b.openIds = id :: ids := by
    rw [hIds, dropUntil, if_pos]
    rw [hHead, hTag, Bool.true_or]
  rw [closeOrdinary, run_bind, run_get]
  dsimp only
  rw [hStop]
  dsimp only
  rw [hHead, hTag, hIds]
  rfl

/- The end tags with rules of their own inside the body. -/
def ruledEnds : List String :=
  ["template", "body", "html", "form", "p", "li", "dd", "dt", "a",
    "nobr", "applet", "marquee", "object", "br"]

/- An end tag without a rule of its own goes by the kind of its name. -/
theorem bodyEnd_of_not_ruled
    {name : String}
    (hName : name ∉ ruledEnds) :
    Rules.bodyEnd name =
      if Rules.closingNames.contains name then do
        let _ ← Rules.closeInScope defaultScope name impliedNames
        return .done
      else if Rules.headingNames.contains name then do
        if ← inScope defaultScope (·.isHtmlIn Rules.headingNames) then
          closeImplied impliedNames
          popUntil (·.isHtmlIn Rules.headingNames)
        return .done
      else if Rules.formattingNames.contains name then do
        adopt name
        return .done
      else do
        closeOrdinary name
        return .done := by
  unfold Rules.bodyEnd
  split
  all_goals
    first
      | rfl
      | exact absurd (by decide) hName

/- An item of a list is closed in a scope that its name decides. -/
theorem bodyEnd_of_item
    {name : String}
    (hItem : name ∈ ["li", "dd", "dt"]) :
    ∃ scope, (scope = listScope ∨ scope = defaultScope) ∧
      Rules.bodyEnd name = (do
        let _ ← Rules.closeInScope scope name
          (impliedNames.filter (· != name))
        return .done) := by
  rw [List.mem_cons, List.mem_cons, List.mem_singleton] at hItem
  rcases hItem with rfl | rfl | rfl
  · exact ⟨listScope, .inl rfl, by unfold Rules.bodyEnd; rfl⟩
  · exact ⟨defaultScope, .inr rfl, by unfold Rules.bodyEnd; rfl⟩
  · exact ⟨defaultScope, .inr rfl, by unfold Rules.bodyEnd; rfl⟩

theorem bodyEnd_of_link
    {name : String}
    (hLink : name ∈ ["a", "nobr"]) :
    Rules.bodyEnd name = (do adopt name; return .done) := by
  rw [List.mem_cons, List.mem_singleton] at hLink
  rcases hLink with rfl | rfl <;>
    (unfold Rules.bodyEnd
     rfl)

theorem bodyEnd_of_object
    {name : String}
    (hObject : name ∈ objectNames) :
    Rules.bodyEnd name = (do
      if ← Rules.closeInScope defaultScope name impliedNames then
        clearToMarker
      return .done) := by
  rw [objectNames, List.mem_cons, List.mem_cons,
    List.mem_singleton] at hObject
  rcases hObject with rfl | rfl | rfl <;>
    (unfold Rules.bodyEnd
     rfl)

/- A heading is closed. -/
theorem closes_heading
    (h : Stands b phase (level :: outer :: levels))
    {name : String}
    (hName : level.tag.name = name)
    (hHeading : name ∈ Rules.headingNames) :
    Closes
      (do
        if ← inScope defaultScope (·.isHtmlIn Rules.headingNames) then
          closeImplied impliedNames
          popUntil (·.isHtmlIn Rules.headingNames)
        return .done)
      b phase level outer levels := by
  have hAll : ∀ n ∈ Rules.headingNames,
      n ∉ impliedNames ∧ n ∉ formattingLike ∧
        n ∉ ["applet", "caption", "marquee", "object", "td", "th"] := by
    decide
  rcases hAll _ hHeading with ⟨hImplied, hPlain, hKeeps⟩
  have hTag : level.tag.isHtmlIn Rules.headingNames = true := by
    rw [Tag.isHtmlIn, h.html _ List.mem_cons_self, hName]
    simp [hHeading]
  have hScope : reaches defaultScope (·.isHtmlIn Rules.headingNames)
      ((level :: outer :: levels).map (·.tag)) = true := by
    rw [List.map_cons, reaches, hTag, Bool.true_or]
  have hKept : level.tag.isHtmlIn impliedNames = false := by
    rw [Tag.isHtmlIn, hName]
    simp [hImplied]
  have hNot : isFormatting level.tag = false := by
    rw [isFormatting, Tag.isHtmlIn, hName, Bool.and_eq_false_iff]
    exact .inr (by simpa [formattingLike] using hPlain)
  have hOwn : keepsFormatting level.tag = false := by
    rw [keepsFormatting, Tag.isHtmlIn, hName, Bool.and_eq_false_iff]
    exact .inr (by simpa using hKeeps)
  refine ⟨_, ?_, h.closePlain hNot hOwn⟩
  rw [run_bind, h.run_inScope, hScope]
  dsimp only
  rw [if_pos rfl, run_bind, h.run_closeImplied hKept, run_bind,
    h.run_popUntil hTag]
  rfl

/- A paragraph is left, with nothing closed silently before. -/
theorem run_closeParagraph
    (h : Stands b phase (level :: levels))
    (hName : level.tag.name = "p") :
    closeParagraph.run b = ((), { b with openIds := b.openIds.tail }) := by
  have hKept :
      level.tag.isHtmlIn (impliedNames.filter (· != "p")) = false := by
    rw [Tag.isHtmlIn, hName]
    simp [impliedNames]
  rw [closeParagraph, closeImpliedExcept, run_bind,
    h.run_closeImplied hKept, popUntilNamed,
    h.run_popUntil (h.isHtml_of_name hName)]

theorem plain_of_name_p
    {t : Tag}
    (hName : t.name = "p") :
    isFormatting t = false ∧ keepsFormatting t = false :=
  ⟨by simp [isFormatting, Tag.isHtmlIn, hName, Rules.formattingNames],
    by simp [keepsFormatting, Tag.isHtmlIn, hName]⟩

theorem bodyEnd_p :
    Rules.bodyEnd "p" = (do
      if !(← inScopeNamed buttonScope "p") then
        let _ ← insertImplied "p"
      closeParagraph
      return .done) := by
  unfold Rules.bodyEnd
  rfl

/- A paragraph is closed. -/
theorem closes_paragraph
    (h : Stands b phase (level :: outer :: levels))
    (hName : level.tag.name = "p") :
    Closes (Rules.bodyEnd "p") b phase level outer levels := by
  have hScope : reaches buttonScope (·.isHtml "p")
      ((level :: outer :: levels).map (·.tag)) = true := by
    rw [List.map_cons, reaches, h.isHtml_of_name hName, Bool.true_or]
  rcases plain_of_name_p hName with ⟨hNot, hOwn⟩
  refine ⟨_, ?_, h.closePlain hNot hOwn⟩
  rw [bodyEnd_p, inScopeNamed, run_bind, h.run_inScope, hScope]
  dsimp only
  rw [if_neg (by simp), run_bind, h.run_closeParagraph hName]
  rfl

/- An object is closed, and the list of what is inside it ends. -/
theorem closes_object
    (h : Stands b phase (level :: outer :: levels))
    {name : String}
    (hName : level.tag.name = name)
    (hObject : name ∈ objectNames) :
    Closes
      (do
        if ← Rules.closeInScope defaultScope name impliedNames then
          clearToMarker
        return .done)
      b phase level outer levels := by
  have hAll : ∀ n ∈ objectNames,
      n ∉ impliedNames ∧
        n ∈ ["applet", "caption", "marquee", "object", "td", "th"] := by
    decide
  rcases hAll _ hObject with ⟨hImplied, hIn⟩
  have hKeeps : keepsFormatting level.tag = true := by
    rw [keepsFormatting, Tag.isHtmlIn, h.html _ List.mem_cons_self, hName]
    simpa using hIn
  rcases h.exists_openIds with ⟨id, ids, hIds⟩
  have hListed := h.listed
  rw [hIds] at hListed
  have hTail := hListed.dropMarker hKeeps
  refine ⟨_, ?_, h.close _ (by rw [hIds]; exact hTail)⟩
  rw [run_bind, h.run_closeInScope hName hImplied]
  rfl

/- A formatting element is closed. -/
theorem closes_formatting
    (h : Stands b phase (level :: outer :: levels))
    {name : String}
    (hName : level.tag.name = name)
    (hKind : name ∈ formattingLike) :
    Closes (do adopt name; return .done) b phase level outer levels := by
  have hFormatting : isFormatting level.tag = true := by
    rw [isFormatting, Tag.isHtmlIn, h.html _ List.mem_cons_self, hName]
    rw [formattingLike] at hKind
    simpa using hKind
  rcases h.run_adopt hName hFormatting with ⟨c, hRun, hc⟩
  refine ⟨c, ?_, hc⟩
  rw [run_bind, hRun]
  rfl

/- The element keeps no formatting if its name is none of some. -/
theorem keepsFormatting_eq_false
    (hOpen : isOpenable level.tag.name = true)
    (hObject : level.tag.name ∉ objectNames) :
    keepsFormatting level.tag = false := by
  have hParts : ∀ n ∈ ["caption", "td", "th"], isOpenable n = false := by
    decide
  have hNone : level.tag.name ∉ ["caption", "td", "th"] := by
    intro hPart
    rw [hParts _ hPart] at hOpen
    cases hOpen
  simp only [objectNames, List.mem_cons, List.not_mem_nil, or_false,
    not_or] at hObject hNone
  rw [keepsFormatting, Tag.isHtmlIn, Bool.and_eq_false_iff]
  exact .inr (by simp [hObject, hNone])

/- An item of a list is closed. -/
theorem closes_item
    (h : Stands b phase (level :: outer :: levels))
    {name : String}
    (hName : level.tag.name = name)
    (hItem : name ∈ ["li", "dd", "dt"]) :
    Closes (Rules.bodyEnd name) b phase level outer levels := by
  have hAll : ∀ n ∈ ["li", "dd", "dt"],
      n ∉ impliedNames.filter (· != n) ∧ n ∉ formattingLike ∧
        n ∉ objectNames ∧ isOpenable n = true := by
    decide
  rcases hAll _ hItem with ⟨hImplied, hPlain, hObject, hOpen⟩
  rcases bodyEnd_of_item hItem with ⟨scope, _, hEnd⟩
  rw [hEnd]
  rw [← hName] at hOpen hObject
  exact h.closes_inScope hName hImplied hPlain
    (keepsFormatting_eq_false hOpen hObject) scope

/- An element without rules of its own is closed. -/
theorem closes_ordinary
    (h : Stands b phase (level :: outer :: levels))
    {name : String}
    (hName : level.tag.name = name)
    (hPlain : name ∉ formattingLike)
    (hKeeps : keepsFormatting level.tag = false) :
    Closes (do closeOrdinary name; return .done) b phase level outer
      levels := by
  have hNot : isFormatting level.tag = false := by
    rw [isFormatting, Tag.isHtmlIn, hName, Bool.and_eq_false_iff]
    exact .inr (by simpa [formattingLike] using hPlain)
  refine ⟨_, ?_, h.closePlain hNot hKeeps⟩
  rw [run_bind, h.run_closeOrdinary hName]
  rfl

/- The end tag of the innermost element closes it. -/
theorem bodyEnd_open
    (h : Stands b phase (level :: outer :: levels))
    {name : String}
    (hName : level.tag.name = name)
    (hOpen : isOpenable name = true) :
    Closes (Rules.bodyEnd name) b phase level outer levels := by
  by_cases hRuled : name ∈ ruledEnds
  · have hSplit : ∀ n ∈ ruledEnds, isOpenable n = true →
        n = "p" ∨ n ∈ ["li", "dd", "dt"] ∨ n ∈ ["a", "nobr"] ∨
          n ∈ objectNames := by
      decide
    rcases hSplit _ hRuled hOpen with hKind | hKind | hKind | hKind
    · subst hKind
      exact h.closes_paragraph hName
    · exact h.closes_item hName hKind
    · have hAll : ∀ n ∈ ["a", "nobr"], n ∈ formattingLike := by decide
      rw [bodyEnd_of_link hKind]
      exact h.closes_formatting hName (hAll _ hKind)
    · rw [bodyEnd_of_object hKind]
      exact h.closes_object hName hKind
  · have hOther : ∀ n ∈ "a" :: "nobr" :: objectNames, n ∈ ruledEnds := by
      decide
    have hObject : level.tag.name ∉ objectNames := by
      rw [hName]
      exact fun hIn => hRuled (hOther _ (by simp [hIn]))
    have hKeeps :=
      keepsFormatting_eq_false (by rw [hName]; exact hOpen) hObject
    rw [bodyEnd_of_not_ruled hRuled]
    split
    · rename_i hClosing
      rw [List.contains_iff_mem] at hClosing
      have hAll : ∀ n ∈ Rules.closingNames,
          n ∉ impliedNames ∧ n ∉ formattingLike := by
        decide
      rcases hAll _ hClosing with ⟨hImplied, hPlain⟩
      exact h.closes_inScope hName hImplied hPlain hKeeps _
    · split
      · rename_i hHeading
        rw [List.contains_iff_mem] at hHeading
        exact h.closes_heading hName hHeading
      · split
        · rename_i hKind
          rw [List.contains_iff_mem] at hKind
          exact h.closes_formatting hName (by simp [formattingLike, hKind])
        · rename_i hKind
          rw [List.contains_iff_mem] at hKind
          refine h.closes_ordinary hName ?_ hKeeps
          rw [formattingLike, List.mem_cons, List.mem_cons]
          rintro (hA | hNobr | hIn)
          · exact hRuled (hOther _ (by simp [hA]))
          · exact hRuled (hOther _ (by simp [hNobr]))
          · exact hKind hIn

------------------------------------------------------------
-- End Tags Where Nothing Is Open
------------------------------------------------------------

variable {root : Level}

/- The operation closes nothing and shows nothing. -/
def Loses
    (x : Build Outcome)
    (b : Builder)
    (phase : Phase)
    (root : Level) : Prop :=
  ∃ c nodes, x.run b = (.done, c) ∧
    Stands c phase [⟨root.tag, root.nodes ++ nodes⟩] ∧
    Node.Alike nodes []

theorem Loses.of_run
    (h : Stands b phase [root])
    {x : Build Outcome}
    (hRun : x.run b = (.done, b)) :
    Loses x b phase root :=
  ⟨b, [], hRun, by rw [List.append_nil]; exact h, .refl []⟩

theorem name_root
    (h : Stands b phase [root]) :
    root.tag.name = "html" := by
  have hRoot := h.root
  simpa using hRoot

theorem isHtml_root
    (h : Stands b phase [root])
    {name : String}
    (hName : name ≠ "html") :
    root.tag.isHtml name = false := by
  rw [Tag.isHtml, h.name_root, beq_eq_false_iff_ne.mpr hName.symm,
    Bool.and_false]

theorem reaches_root
    {scope wanted : Tag → Bool}
    (hWanted : wanted root.tag = false)
    (hScope : scope root.tag = true) :
    reaches scope wanted ([root].map (·.tag)) = false := by
  rw [List.map_cons, reaches, hWanted, hScope]
  rfl

/- Nothing of another name is in a scope. -/
theorem run_closeInScope_root
    (h : Stands b phase [root])
    {scope : Tag → Bool}
    {name : String}
    (hName : name ≠ "html")
    (hScope : scope root.tag = true)
    (implied : List String) :
    (Rules.closeInScope scope name implied).run b = (false, b) := by
  have hWanted := h.isHtml_root hName
  rw [Rules.closeInScope, inScopeNamed, run_bind, h.run_inScope,
    reaches_root hWanted hScope]
  rfl

/- Nothing of another name is closed. -/
theorem run_closeOrdinary_root
    (h : Stands b phase [root])
    {name : String}
    (hName : name ≠ "html") :
    (closeOrdinary name).run b = ((), b) := by
  rcases h.exists_openIds with ⟨id, ids, hIds⟩
  have hHead := h.tagOf_head
  rw [hIds] at hHead
  change b.arena.tagOf id = root.tag at hHead
  have hWanted := h.isHtml_root hName
  have hSpecial : isSpecial root.tag = true := by
    rw [isSpecial, Tag.isHtmlIn, h.html _ List.mem_cons_self, h.name_root]
    rfl
  have hStop :
      dropUntil (fun t => t.isHtml name || isSpecial t) b.arena
        b.openIds = id :: ids := by
    rw [hIds, dropUntil, if_pos]
    rw [hHead, hSpecial, Bool.or_true]
  rw [closeOrdinary, run_bind, run_get]
  dsimp only
  rw [hStop]
  dsimp only
  rw [hHead, hWanted]
  rfl

/- No formatting element is closed. -/
theorem run_adopt_root
    (h : Stands b phase [root])
    {name : String}
    (hName : name ≠ "html") :
    (adopt name).run b = ((), b) := by
  rcases h.exists_openIds with ⟨id, ids, hIds⟩
  have hHead := h.tagOf_head
  have hWanted := h.isHtml_root hName
  have hNone : b.formatting = [] := by
    have hListed := h.listed
    have hNot : isFormatting root.tag = false := by
      rw [isFormatting, Tag.isHtmlIn, h.name_root]
      simp [Rules.formattingNames]
    have hOwn : keepsFormatting root.tag = false := by
      rw [keepsFormatting, Tag.isHtmlIn, h.name_root]
      simp
    rw [hIds] at hListed
    have hRest := hListed.tail hNot hOwn
    generalize b.formatting = entries at hRest
    cases hRest
    rfl
  have hOnce : (adoptOnce name).run b = (.ordinary, b) := by
    rw [adoptOnce, run_bind, run_get]
    dsimp only
    rw [hNone]
    rfl
  rw [adopt, run_bind, run_get, run_bind]
  change (StateT.run (if (b.arena.tagOf (b.openIds.headD 0)).isHtml
    name && !b.formatting.any (Formatting.holds (b.openIds.headD 0))
    then pop else adoptWithin name 8) b) = _
  rw [hHead, hWanted, Bool.false_and, if_neg Bool.false_ne_true,
    adoptWithin, run_bind, hOnce]
  exact h.run_closeOrdinary_root hName

/- The outermost element ends every scope. -/
theorem scopes_root
    (h : Stands b phase [root]) :
    defaultScope root.tag = true ∧ listScope root.tag = true ∧
      buttonScope root.tag = true := by
  have hScope : root.tag.isHtmlIn scopeNames = true := by
    rw [Tag.isHtmlIn, h.html _ List.mem_cons_self, h.name_root]
    rfl
  simp [defaultScope, listScope, buttonScope, hScope]

/- The end tag of a paragraph makes an empty one. -/
theorem loses_paragraph
    (h : Stands b phase [root]) :
    Loses (Rules.bodyEnd "p") b phase root := by
  have hScope : reaches buttonScope (·.isHtml "p")
      ([root].map (·.tag)) = false :=
    reaches_root (h.isHtml_root (by decide)) h.scopes_root.2.2
  have hOpen : Stands (Build.enter b (htmlTag ⟨"p", [], false⟩)) phase
      [⟨htmlTag ⟨"p", [], false⟩, []⟩, root] :=
    h.enterPlain rfl (by decide)
  rcases plain_of_name_p (t := htmlTag ⟨"p", [], false⟩) rfl with
    ⟨hNot, hOwn⟩
  refine ⟨_, [.element (htmlTag ⟨"p", [], false⟩) []], ?_,
    hOpen.closePlain hNot hOwn, ⟨rfl, by decide, by decide⟩⟩
  rw [bodyEnd_p, inScopeNamed, run_bind, h.run_inScope, hScope]
  dsimp only
  rw [if_pos (by simp), insertImplied, run_bind, h.run_insert, run_bind,
    hOpen.run_closeParagraph rfl]
  rfl

/- An end tag is lost where nothing is open. -/
theorem bodyEnd_lost
    (h : Stands b phase [root])
    {name : String}
    (hName : name ∉ ["template", "body", "html", "form", "br"]) :
    Loses (Rules.bodyEnd name) b phase root := by
  have hHtml : name ≠ "html" := by
    rintro rfl
    exact hName (by decide)
  rcases h.scopes_root with ⟨hDefault, hList, _⟩
  have hUnscoped : ∀ {scope : Tag → Bool} (implied : List String),
      scope root.tag = true →
        (Rules.closeInScope scope name implied).run b = (false, b) :=
    fun implied hScope => h.run_closeInScope_root hHtml hScope implied
  by_cases hRuled : name ∈ ruledEnds
  · have hSplit : ∀ n ∈ ruledEnds,
        n ∉ ["template", "body", "html", "form", "br"] →
          n = "p" ∨ n ∈ ["li", "dd", "dt"] ∨ n ∈ ["a", "nobr"] ∨
            n ∈ objectNames := by
      decide
    rcases hSplit _ hRuled hName with hKind | hKind | hKind | hKind
    · subst hKind
      exact h.loses_paragraph
    · apply Loses.of_run h
      rcases bodyEnd_of_item hKind with ⟨scope, hScope, hEnd⟩
      have hRoot : scope root.tag = true := by
        rcases hScope with rfl | rfl
        · exact hList
        · exact hDefault
      rw [hEnd, run_bind, hUnscoped _ hRoot]
      rfl
    · apply Loses.of_run h
      rw [bodyEnd_of_link hKind, run_bind, h.run_adopt_root hHtml]
      rfl
    · apply Loses.of_run h
      rw [bodyEnd_of_object hKind, run_bind, hUnscoped _ hDefault]
      rfl
  · apply Loses.of_run h
    rw [bodyEnd_of_not_ruled hRuled]
    split
    · rw [run_bind, hUnscoped _ hDefault]
      rfl
    · split
      · have hWanted : root.tag.isHtmlIn Rules.headingNames = false := by
          rw [Tag.isHtmlIn, h.name_root]
          simp [Rules.headingNames]
        rw [run_bind, h.run_inScope, reaches_root hWanted hDefault]
        rfl
      · split
        · rw [run_bind, h.run_adopt_root hHtml]
          rfl
        · rw [run_bind, h.run_closeOrdinary_root hHtml]
          rfl

end Stands

end Markup

end Gleaner
