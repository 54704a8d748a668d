import Gleaner.Proofs.Markup.Standing

/-
  Start tags inside the body that open or add one element and
  close none of the elements around it.

  Main declarations:
    * `Markup.isOpenable`
    * `Markup.barriers`
    * `Markup.nestsIn`
    * `Markup.Stands.bodyStart_open`
    * `Markup.Stands.bodyStart_void`
-/

namespace Gleaner

namespace Markup

open Build

------------------------------------------------------------
-- Names
------------------------------------------------------------

/- The names of elements with rules of their own inside the body. -/
def ruledNames : List String :=
  ["html", "base", "basefont", "bgsound", "link", "meta", "noframes",
    "script", "style", "template", "title", "body", "frameset", "pre",
    "listing", "form", "li", "dd", "dt", "plaintext", "button", "a",
    "nobr", "applet", "marquee", "object", "table", "area", "br",
    "embed", "img", "keygen", "wbr", "input", "param", "source",
    "track", "hr", "image", "textarea", "xmp", "iframe", "noembed",
    "noscript", "select", "optgroup", "option", "rb", "rtc", "rp",
    "rt", "math", "svg", "caption", "col", "colgroup", "frame", "head",
    "tbody", "td", "tfoot", "th", "thead", "tr"]

/- The names of blocks and headings, and of items of lists. -/
def blockLike : List String :=
  Rules.blockNames ++ Rules.headingNames ++
    ["pre", "listing", "li", "dd", "dt"]

/- The names of elements that end a paragraph. -/
def paragraphEnders : List String :=
  "hr" :: "xmp" :: blockLike

/- The names of formatting elements. -/
def formattingLike : List String :=
  "a" :: "nobr" :: Rules.formattingNames

/- The names of elements that keep the formatting inside them. -/
def objectNames : List String :=
  ["applet", "marquee", "object"]

/- The names of the parts of ruby texts. -/
def rubyNames : List String :=
  ["rb", "rp", "rt", "rtc"]

/- The element has no rules of its own inside the body. -/
def isOrdinary (name : String) : Bool :=
  !(ruledNames ++ Rules.blockNames ++ Rules.headingNames ++
    Rules.formattingNames).contains name

/- The start tag opens an element inside the body. -/
def isOpenable (name : String) : Bool :=
  isOrdinary name ||
    ("button" :: blockLike ++ formattingLike ++ objectNames ++
      rubyNames).contains name

/- The elements behind which no item of a list is looked for. -/
def itemScope (t : Tag) : Bool :=
  isSpecial t && !t.isHtmlIn ["address", "div", "p"]

/-
  The open elements that a start tag would close, each with the
  scope in which they are looked for.
-/
def barriers (name : String) : List ((Tag → Bool) × (Tag → Bool)) :=
  (if paragraphEnders.contains name then [(buttonScope, (·.isHtml "p"))]
    else []) ++
  (if Rules.headingNames.contains name then
      [(fun _ => true, (·.isHtmlIn Rules.headingNames))]
    else []) ++
  (if name == "li" then [(itemScope, (·.isHtmlIn ["li"]))] else []) ++
  (if name == "dd" || name == "dt" then
      [(itemScope, (·.isHtmlIn ["dd", "dt"]))]
    else []) ++
  (if name == "a" then [(keepsFormatting, (·.isHtml "a"))] else []) ++
  (if name == "nobr" then [(defaultScope, (·.isHtml "nobr"))] else []) ++
  (if name == "button" then [(defaultScope, (·.isHtml "button"))]
    else []) ++
  (if rubyNames.contains name then
      [(fun _ => true, (·.isHtmlIn impliedNames))]
    else [])

/- The start tag closes none of the elements around it. -/
def nestsIn (name : String) (above : List Tag) : Bool :=
  (barriers name).all fun (scope, wanted) => !reaches scope wanted above

/- Nothing that a start tag would close is called `html`. -/
theorem not_wanted_of_mem_barriers
    {name : String}
    {barrier : (Tag → Bool) × (Tag → Bool)}
    (hBarrier : barrier ∈ barriers name)
    {root : Tag}
    (hRoot : root.name = "html") :
    barrier.2 root = false := by
  simp only [barriers, List.mem_append] at hBarrier
  rcases hBarrier with
    ((((((h | h) | h) | h) | h) | h) | h) | h <;>
    split at h <;>
    first
      | (rw [List.mem_singleton] at h
         subst h
         simp [Tag.isHtml, Tag.isHtmlIn, hRoot, Rules.headingNames,
           impliedNames])
      | exact absurd h List.not_mem_nil

theorem reaches_concat
    {scope wanted : Tag → Bool}
    {above : List Tag}
    {root : Tag}
    (hRoot : wanted root = false) :
    reaches scope wanted (above ++ [root]) =
      reaches scope wanted above := by
  induction above with
  | nil => simp [reaches, hRoot]
  | cons t above ih => rw [List.cons_append, reaches, reaches, ih]

------------------------------------------------------------
-- Start Tags that Open an Element
------------------------------------------------------------

/- A start tag without a rule of its own goes by the kind of its name. -/
theorem bodyStart_of_not_ruled
    {t : StartTag}
    (hName : t.name ∉ ruledNames) :
    Rules.bodyStart t =
      if Rules.blockNames.contains t.name then do
        closeParagraphInScope
        let _ ← Build.insert t
        return .done
      else if Rules.headingNames.contains t.name then do
        closeParagraphInScope
        if ← currentIn Rules.headingNames then pop
        let _ ← Build.insert t
        return .done
      else if Rules.formattingNames.contains t.name then do
        reconstruct
        insertFormatting t
        return .done
      else do
        Rules.insertInline t
        return .done := by
  unfold Rules.bodyStart
  split
  all_goals
    first
      | rfl
      | (rename_i hRuled
         exact absurd (by rw [hRuled]; decide) hName)

/- Only some names belong to elements that keep the formatting. -/
theorem keepsFormatting_htmlTag
    {t : StartTag}
    (hName :
      t.name ∉ ["applet", "caption", "marquee", "object", "td", "th"]) :
    keepsFormatting (htmlTag t) = false := by
  simp only [keepsFormatting, Tag.isHtmlIn, htmlTag,
    Bool.and_eq_false_iff]
  exact .inr (by simpa using hName)

theorem mem_paragraphEnders
    {name : String}
    (hName : name ∈ blockLike) :
    name ∈ paragraphEnders :=
  List.mem_cons_of_mem _ (List.mem_cons_of_mem _ hName)

theorem keepsFormatting_of_blockLike
    {t : StartTag}
    (hName : t.name ∈ blockLike) :
    keepsFormatting (htmlTag t) = false := by
  have hAll : ∀ n ∈ blockLike,
      n ∉ ["applet", "caption", "marquee", "object", "td", "th"] := by
    decide
  exact keepsFormatting_htmlTag (hAll _ hName)

namespace Stands

variable {b : Builder}
variable {phase : Phase}
variable {level : Level}
variable {levels : List Level}
variable {t : StartTag}

/- What a barrier stands for is not in its scope. -/
theorem run_inScope_of_nestsIn
    (h : Stands b phase levels)
    (hNests : nestsIn t.name (levels.map (·.tag)) = true)
    {scope wanted : Tag → Bool}
    (hBarrier : (scope, wanted) ∈ barriers t.name) :
    (inScope scope wanted).run b = (false, b) := by
  rw [h.run_inScope]
  have hNone := List.all_eq_true.mp hNests _ hBarrier
  rw [Bool.not_eq_true'] at hNone
  exact congrArg (·, b) hNone

theorem run_closeParagraphInScope
    (h : Stands b phase levels)
    (hNests : nestsIn t.name (levels.map (·.tag)) = true)
    (hName : t.name ∈ paragraphEnders) :
    closeParagraphInScope.run b = ((), b) := by
  have hBarrier :
      (buttonScope, fun tag : Tag => tag.isHtml "p") ∈ barriers t.name := by
    simp [barriers, hName]
  have hScope := h.run_inScope_of_nestsIn hNests hBarrier
  simp only [closeParagraphInScope, inScopeNamed, run_bind, hScope]
  rfl

theorem run_insert
    (h : Stands b phase levels)
    (t : StartTag) :
    (Build.insert t).run b = (b.arena.size, Build.enter b (htmlTag t)) :=
  run_insertTag (htmlTag t) true h.fostering

theorem run_insertInline
    (h : Stands b phase levels)
    (t : StartTag) :
    (Rules.insertInline t).run b = ((), Build.enter b (htmlTag t)) := by
  simp only [Rules.insertInline, run_bind, h.run_reconstruct,
    h.run_insert, run_pure]

/- A formatting element is opened and listed. -/
theorem run_insertFormatting
    (h : Stands b phase levels)
    (hKind : isFormatting (htmlTag t) = true) :
    ∃ c, (insertFormatting t).run b = ((), c) ∧
      Stands c phase (⟨htmlTag t, []⟩ :: levels) := by
  have hOpen : ∀ {c : Builder}, Stands c phase levels →
      Stands
        { Build.enter c (htmlTag t) with
          formatting := .element c.arena.size t :: c.formatting } phase
        (⟨htmlTag t, []⟩ :: levels) :=
    fun hc => hc.enter rfl _ (.entry hKind rfl hc.listed)
  have hPlain :
      ∃ c, (do
          let id ← Build.insert t
          modify fun b =>
            { b with formatting := .element id t :: b.formatting } :
            Build Unit).run b = ((), c) ∧
        Stands c phase (⟨htmlTag t, []⟩ :: levels) := by
    refine ⟨_, ?_, hOpen h⟩
    rw [run_bind, h.run_insert]
    rfl
  rw [insertFormatting, run_bind, run_get]
  dsimp only
  split
  · split
    · rename_i old _ _
      have hFewer : Stands
          { b with
            formatting :=
              b.formatting.filter (!Formatting.holds old ·) }
          phase levels :=
        { h with listed := h.listed.filter old }
      refine ⟨_, ?_, hOpen hFewer⟩
      rw [run_bind, removeFormatting, run_modify, run_bind,
        hFewer.run_insert]
      rfl
    · exact hPlain
  · exact hPlain

/- The operation opens the element of a start tag. -/
def Opens
    (x : Build Outcome)
    (b : Builder)
    (t : StartTag)
    (phase : Phase)
    (levels : List Level) : Prop :=
  ∃ c, x.run b = (.done, c) ∧ Stands c phase (⟨htmlTag t, []⟩ :: levels)

/- An element is opened, and not listed. -/
theorem opens_insert
    (h : Stands b phase levels)
    (hKind : keepsFormatting (htmlTag t) = false) :
    Opens (do let _ ← Build.insert t; return .done) b t phase levels := by
  refine ⟨_, ?_, h.enterPlain rfl hKind⟩
  rw [run_bind, h.run_insert]
  rfl

theorem opens_insertInline
    (h : Stands b phase levels)
    (hKind : keepsFormatting (htmlTag t) = false) :
    Opens (do Rules.insertInline t; return .done) b t phase levels := by
  refine ⟨_, ?_, h.enterPlain rfl hKind⟩
  rw [run_bind, h.run_insertInline]
  rfl

theorem opens_insertFormatting
    (h : Stands b phase levels)
    (hKind : isFormatting (htmlTag t) = true) :
    Opens (do reconstruct; insertFormatting t; return .done) b t phase
      levels := by
  rcases h.run_insertFormatting hKind with ⟨c, hRun, hc⟩
  refine ⟨c, ?_, hc⟩
  rw [run_bind, h.run_reconstruct, run_bind, hRun]
  rfl

/- A block is opened behind the paragraph that it does not stand in. -/
theorem opens_block
    (h : Stands b phase levels)
    (hNests : nestsIn t.name (levels.map (·.tag)) = true)
    (hName : t.name ∈ blockLike) :
    Opens
      (do closeParagraphInScope; let _ ← Build.insert t; return .done)
      b t phase levels := by
  rcases h.opens_insert (keepsFormatting_of_blockLike hName) with ⟨c, hRun, hc⟩
  refine ⟨c, ?_, hc⟩
  rw [run_bind, h.run_closeParagraphInScope hNests
    (mem_paragraphEnders hName), hRun]

/- A heading is opened where no heading stands. -/
theorem opens_heading
    (h : Stands b phase (level :: levels))
    (hNests : nestsIn t.name ((level :: levels).map (·.tag)) = true)
    (hName : t.name ∈ Rules.headingNames) :
    Opens
      (do
        closeParagraphInScope
        if ← currentIn Rules.headingNames then pop
        let _ ← Build.insert t
        return .done)
      b t phase (level :: levels) := by
  have hBlock : t.name ∈ blockLike := by
    simp [blockLike, hName]
  have hCurrent : level.tag.isHtmlIn Rules.headingNames = false := by
    have hBarrier :
        (fun _ : Tag => true,
          fun tag : Tag => tag.isHtmlIn Rules.headingNames) ∈
          barriers t.name := by
      simp [barriers, hName]
    have hNone := List.all_eq_true.mp hNests _ hBarrier
    simpa [reaches] using hNone
  rcases h.opens_block hNests hBlock with ⟨c, hRun, hc⟩
  refine ⟨c, ?_, hc⟩
  rw [run_bind, h.run_closeParagraphInScope hNests
    (mem_paragraphEnders hBlock)] at hRun ⊢
  rw [run_bind, h.run_currentIn, hCurrent]
  exact hRun

/- No item of a list is closed. -/
theorem itemToClose?_eq_none
    (h : Stands b phase levels)
    {names : List String}
    (hNests : nestsIn t.name (levels.map (·.tag)) = true)
    (hBarrier :
      (itemScope, fun tag : Tag => tag.isHtmlIn names) ∈
        barriers t.name) :
    Rules.itemToClose? names b.arena b.openIds = none := by
  have hNone := List.all_eq_true.mp hNests _ hBarrier
  rw [Bool.not_eq_true', ← h.map_tagOf] at hNone
  generalize b.openIds = ids at hNone
  induction ids with
  | nil => rfl
  | cons id ids ih =>
      rw [List.map_cons, reaches, Bool.or_eq_false_iff,
        Bool.and_eq_false_iff, Bool.not_eq_false'] at hNone
      rw [Rules.itemToClose?]
      simp only [hNone.1, Bool.false_eq_true, if_false]
      split
      · rfl
      · rename_i hScope
        exact ih (hNone.2.resolve_left hScope)

theorem forbidFrameset
    (h : Stands b phase levels) :
    Stands { b with framesetOk := false } phase levels :=
  h.congr rfl

theorem run_forbidFrameset (b : Builder) :
    Build.forbidFrameset.run b = ((), { b with framesetOk := false }) :=
  rfl

/- What is opened stays open when framesets are ruled out. -/
theorem Opens.forbidFrameset
    {x : Build Unit}
    (hOpens : Opens (do x; return .done) b t phase levels) :
    Opens (do x; Build.forbidFrameset; return .done) b t phase levels := by
  rcases hOpens with ⟨c, hRun, hc⟩
  refine ⟨{ c with framesetOk := false }, ?_, hc.congr rfl⟩
  have hLast : (x.run b).2 = c := (Prod.ext_iff.mp hRun).2
  rw [run_bind, hLast]
  rfl

/- What the start tag of an item of a list does. -/
def itemStart (t : StartTag) : Build Outcome := do
  Build.forbidFrameset
  let names := if t.name == "li" then ["li"] else ["dd", "dt"]
  let b ← get
  match Rules.itemToClose? names b.arena b.openIds with
  | some name => do
      closeImpliedExcept name
      popUntilNamed name
  | none => pure ()
  closeParagraphInScope
  let _ ← Build.insert t
  return .done

/- An item of a list is opened where no item is closed. -/
theorem opens_item
    (h : Stands b phase levels)
    (hNests : nestsIn t.name (levels.map (·.tag)) = true)
    (hName : t.name ∈ ["li", "dd", "dt"]) :
    Opens (Rules.bodyStart t) b t phase levels := by
  have hBlock : t.name ∈ blockLike := by
    have hAll : ∀ n ∈ ["li", "dd", "dt"], n ∈ blockLike := by decide
    exact hAll _ hName
  have hStart : Rules.bodyStart t = itemStart t := by
    rw [List.mem_cons, List.mem_cons, List.mem_singleton] at hName
    rcases hName with hName | hName | hName <;>
      (unfold Rules.bodyStart itemStart
       rw [hName]
       rfl)
  have hBarrier :
      (itemScope, fun tag : Tag => tag.isHtmlIn
          (if t.name == "li" then ["li"] else ["dd", "dt"])) ∈
        barriers t.name := by
    rw [List.mem_cons, List.mem_cons, List.mem_singleton] at hName
    rcases hName with hName | hName | hName <;>
      simp [barriers, hName]
  have hFree := h.forbidFrameset
  rcases hFree.opens_block hNests hBlock with ⟨c, hRun, hc⟩
  refine ⟨c, ?_, hc⟩
  rw [hStart, itemStart, run_bind, run_forbidFrameset]
  simp only [run_bind, run_get]
  rw [hFree.itemToClose?_eq_none hNests hBarrier]
  exact hRun

/- The entries behind the latest marker are open elements. -/
theorem find?_sinceMarker_eq_none
    (h : Stands b phase levels)
    {wanted : Tag → Bool}
    (hNone :
      reaches keepsFormatting wanted (levels.map (·.tag)) = false) :
    ((sinceMarker b.formatting).find? fun (id, _) =>
      wanted (b.arena.tagOf id)) = none := by
  have hTags := h.map_tagOf
  have hListed := h.listed
  generalize levels.map (·.tag) = tags at hNone hTags hListed
  generalize b.openIds = ids at hTags hListed
  generalize b.formatting = entries at hListed
  induction hListed with
  | nil => rfl
  | skip hKind _ ih =>
      rw [reaches, hKind, Bool.or_eq_false_iff] at hNone
      exact ih (by simpa using hNone.2) (List.cons.inj hTags).2
  | entry hKind hName _ ih =>
      rw [reaches, keepsFormatting_of_isFormatting hKind,
        Bool.or_eq_false_iff] at hNone
      rw [sinceMarker, List.find?_cons]
      simp only [(List.cons.inj hTags).1, hNone.1]
      exact ih (by simpa using hNone.2) (List.cons.inj hTags).2
  | marker => rfl

/- A link is opened where no link is open. -/
theorem opens_link
    (h : Stands b phase levels)
    (hNests : nestsIn t.name (levels.map (·.tag)) = true)
    (hName : t.name = "a") :
    Opens (Rules.bodyStart t) b t phase levels := by
  have hBarrier :
      (keepsFormatting, fun tag : Tag => tag.isHtml "a") ∈
        barriers t.name := by
    simp [barriers, hName]
  have hNone := List.all_eq_true.mp hNests _ hBarrier
  rw [Bool.not_eq_true'] at hNone
  have hClose : Rules.closeOuterLink.run b = ((), b) := by
    rw [Rules.closeOuterLink, run_bind, run_get]
    dsimp only
    rw [h.find?_sinceMarker_eq_none hNone]
    rfl
  have hStart : Rules.bodyStart t = (do
      Rules.closeOuterLink
      reconstruct
      insertFormatting t
      return .done) := by
    unfold Rules.bodyStart
    rw [hName]
    rfl
  have hKind : isFormatting (htmlTag t) = true := by
    simp [isFormatting, Tag.isHtmlIn, htmlTag, hName]
  rcases h.opens_insertFormatting hKind with ⟨c, hRun, hc⟩
  refine ⟨c, ?_, hc⟩
  rw [hStart, run_bind, hClose, hRun]

/- Text that is not broken is opened where no such text is open. -/
theorem opens_nobr
    (h : Stands b phase levels)
    (hNests : nestsIn t.name (levels.map (·.tag)) = true)
    (hName : t.name = "nobr") :
    Opens (Rules.bodyStart t) b t phase levels := by
  have hBarrier :
      (defaultScope, fun tag : Tag => tag.isHtml "nobr") ∈
        barriers t.name := by
    simp [barriers, hName]
  have hScope := h.run_inScope_of_nestsIn hNests hBarrier
  have hStart : Rules.bodyStart t = (do
      reconstruct
      if ← inScopeNamed defaultScope "nobr" then do
        adopt "nobr"
        reconstruct
      insertFormatting t
      return .done) := by
    unfold Rules.bodyStart
    rw [hName]
    rfl
  have hKind : isFormatting (htmlTag t) = true := by
    simp [isFormatting, Tag.isHtmlIn, htmlTag, hName]
  rcases h.opens_insertFormatting hKind with ⟨c, hRun, hc⟩
  refine ⟨c, ?_, hc⟩
  rw [run_bind, h.run_reconstruct] at hRun
  rw [hStart, run_bind, h.run_reconstruct, inScopeNamed, run_bind, hScope]
  exact hRun

/- A button is opened where no button is open. -/
theorem opens_button
    (h : Stands b phase levels)
    (hNests : nestsIn t.name (levels.map (·.tag)) = true)
    (hName : t.name = "button") :
    Opens (Rules.bodyStart t) b t phase levels := by
  have hBarrier :
      (defaultScope, fun tag : Tag => tag.isHtml "button") ∈
        barriers t.name := by
    simp [barriers, hName]
  have hScope := h.run_inScope_of_nestsIn hNests hBarrier
  have hStart : Rules.bodyStart t = (do
      if ← inScopeNamed defaultScope "button" then do
        closeImplied impliedNames
        popUntilNamed "button"
      Rules.insertInline t
      Build.forbidFrameset
      return .done) := by
    unfold Rules.bodyStart
    rw [hName]
    rfl
  have hKind : keepsFormatting (htmlTag t) = false :=
    keepsFormatting_htmlTag (by simp [hName])
  rcases (h.opens_insertInline hKind).forbidFrameset with ⟨c, hRun, hc⟩
  refine ⟨c, ?_, hc⟩
  rw [hStart, inScopeNamed, run_bind, hScope]
  exact hRun

/- An object is opened and keeps the formatting inside it. -/
theorem opens_object
    (h : Stands b phase levels)
    (hName : t.name ∈ objectNames) :
    Opens (Rules.bodyStart t) b t phase levels := by
  have hStart : Rules.bodyStart t = (do
      Rules.insertInline t
      pushMarker
      Build.forbidFrameset
      return .done) := by
    rw [objectNames, List.mem_cons, List.mem_cons, List.mem_singleton]
      at hName
    rcases hName with hName | hName | hName <;>
      (unfold Rules.bodyStart
       rw [hName]
       rfl)
  have hKind : keepsFormatting (htmlTag t) = true := by
    rw [objectNames, List.mem_cons, List.mem_cons, List.mem_singleton]
      at hName
    rcases hName with hName | hName | hName <;>
      simp [keepsFormatting, Tag.isHtmlIn, htmlTag, hName]
  have hOpen : Stands
      { Build.enter b (htmlTag t) with
        formatting := .marker :: b.formatting } phase
      (⟨htmlTag t, []⟩ :: levels) :=
    h.enter rfl _ (.marker hKind h.listed)
  refine ⟨_, ?_, hOpen.forbidFrameset⟩
  rw [hStart, run_bind, h.run_insertInline]
  rfl

/- No element is closed silently. -/
theorem run_closeImplied
    (h : Stands b phase (level :: levels))
    {names : List String}
    (hTag : level.tag.isHtmlIn names = false) :
    (closeImplied names).run b = ((), b) := by
  rcases h.exists_openIds with ⟨id, ids, hIds⟩
  have hHead := h.tagOf_head
  rw [hIds] at hHead
  have hKeep :
      dropUntil (!·.isHtmlIn names) b.arena b.openIds = b.openIds := by
    rw [hIds, dropUntil, if_pos]
    change b.arena.tagOf id = level.tag at hHead
    rw [hHead, hTag]
    rfl
  rw [closeImplied, run_modify, hKeep]

/- The rule of the parts of a ruby text. -/
theorem bodyStart_of_ruby
    (hName : t.name ∈ rubyNames) :
    ∃ names ⊆ impliedNames,
      Rules.bodyStart t = (do
        if ← inScopeNamed defaultScope "ruby" then closeImplied names
        let _ ← Build.insert t
        return .done) := by
  have hFewer : impliedNames.filter (· != "rtc") ⊆ impliedNames :=
    List.filter_sublist.subset
  rw [rubyNames, List.mem_cons, List.mem_cons, List.mem_cons,
    List.mem_singleton] at hName
  rcases hName with hName | hName | hName | hName
  · refine ⟨_, List.Subset.refl _, ?_⟩
    unfold Rules.bodyStart
    rw [hName]
    rfl
  · refine ⟨_, hFewer, ?_⟩
    unfold Rules.bodyStart
    rw [hName]
    rfl
  · refine ⟨_, hFewer, ?_⟩
    unfold Rules.bodyStart
    rw [hName]
    rfl
  · refine ⟨_, List.Subset.refl _, ?_⟩
    unfold Rules.bodyStart
    rw [hName]
    rfl

/- A tag that is none of some names is none of fewer names. -/
theorem isHtmlIn_eq_false_of_subset
    {tag : Tag}
    {names more : List String}
    (hSubset : names ⊆ more)
    (hTag : tag.isHtmlIn more = false) :
    tag.isHtmlIn names = false := by
  rw [Tag.isHtmlIn, Bool.and_eq_false_iff] at hTag ⊢
  refine hTag.imp_right fun hNot => ?_
  rw [List.contains_eq_mem, decide_eq_false_iff_not] at hNot ⊢
  exact fun hIn => hNot (hSubset hIn)

/- A part of a ruby text is opened where nothing is closed for it. -/
theorem opens_ruby
    (h : Stands b phase (level :: levels))
    (hNests : nestsIn t.name ((level :: levels).map (·.tag)) = true)
    (hName : t.name ∈ rubyNames) :
    Opens (Rules.bodyStart t) b t phase (level :: levels) := by
  have hTag : level.tag.isHtmlIn impliedNames = false := by
    have hBarrier :
        (fun _ : Tag => true, fun tag : Tag => tag.isHtmlIn impliedNames) ∈
          barriers t.name := by
      simp [barriers, hName]
    have hNone := List.all_eq_true.mp hNests _ hBarrier
    simpa [reaches] using hNone
  have hKind : keepsFormatting (htmlTag t) = false := by
    apply keepsFormatting_htmlTag
    have hAll : ∀ n ∈ rubyNames,
        n ∉ ["applet", "caption", "marquee", "object", "td", "th"] := by
      decide
    exact hAll _ hName
  rcases bodyStart_of_ruby hName with ⟨names, hSubset, hStart⟩
  have hFree := isHtmlIn_eq_false_of_subset hSubset hTag
  rcases h.opens_insert hKind with ⟨c, hRun, hc⟩
  refine ⟨c, ?_, hc⟩
  rw [hStart, inScopeNamed, run_bind, h.run_inScope]
  dsimp only
  split
  · rw [run_bind, h.run_closeImplied hFree]
    exact hRun
  · exact hRun

/- A block of text as it is written. -/
theorem opens_pre
    (h : Stands b phase levels)
    (hNests : nestsIn t.name (levels.map (·.tag)) = true)
    (hName : t.name ∈ ["pre", "listing"]) :
    Opens (Rules.bodyStart t) b t phase levels := by
  have hBlock : t.name ∈ blockLike := by
    have hAll : ∀ n ∈ ["pre", "listing"], n ∈ blockLike := by decide
    exact hAll _ hName
  have hStart : Rules.bodyStart t = (do
      closeParagraphInScope
      let _ ← Build.insert t
      modify fun b => { b with skipNewline := true }
      Build.forbidFrameset
      return .done) := by
    rw [List.mem_cons, List.mem_singleton] at hName
    rcases hName with hName | hName <;>
      (unfold Rules.bodyStart
       rw [hName]
       rfl)
  have hKind : keepsFormatting (htmlTag t) = false :=
    keepsFormatting_of_blockLike hBlock
  refine ⟨{ Build.enter b (htmlTag t) with
    skipNewline := true, framesetOk := false }, ?_,
    (h.enterPlain rfl hKind).congr rfl⟩
  rw [hStart, run_bind, h.run_closeParagraphInScope hNests
    (mem_paragraphEnders hBlock), run_bind, h.run_insert]
  rfl

/- A start tag that closes nothing opens its element. -/
theorem bodyStart_open
    (h : Stands b phase (level :: levels))
    (hOpen : isOpenable t.name = true)
    (hNests : nestsIn t.name ((level :: levels).map (·.tag)) = true) :
    Opens (Rules.bodyStart t) b t phase (level :: levels) := by
  by_cases hRuled : t.name ∈ ruledNames
  · have hOrdinary : isOrdinary t.name = false := by
      simp [isOrdinary, hRuled]
    rw [isOpenable, hOrdinary, Bool.false_or, List.contains_iff_mem]
      at hOpen
    have hSplit :
        ∀ n ∈ "button" :: blockLike ++ formattingLike ++ objectNames ++
          rubyNames, n ∈ ruledNames →
          n = "button" ∨ n ∈ ["pre", "listing"] ∨
            n ∈ ["li", "dd", "dt"] ∨ n = "a" ∨ n = "nobr" ∨
            n ∈ objectNames ∨ n ∈ rubyNames := by
      decide
    rcases hSplit _ hOpen hRuled with
      hName | hName | hName | hName | hName | hName | hName
    · exact h.opens_button hNests hName
    · exact h.opens_pre hNests hName
    · exact h.opens_item hNests hName
    · exact h.opens_link hNests hName
    · exact h.opens_nobr hNests hName
    · exact h.opens_object hName
    · exact h.opens_ruby hNests hName
  · have hKind : keepsFormatting (htmlTag t) = false := by
      apply keepsFormatting_htmlTag
      intro hName
      have hAll : ∀ n ∈
          ["applet", "caption", "marquee", "object", "td", "th"],
          n ∈ ruledNames := by
        decide
      exact hRuled (hAll _ hName)
    rw [bodyStart_of_not_ruled hRuled]
    split
    · rename_i hName
      rw [List.contains_iff_mem] at hName
      exact h.opens_block hNests (by simp [blockLike, hName])
    · split
      · rename_i hName
        rw [List.contains_iff_mem] at hName
        exact h.opens_heading hNests hName
      · split
        · rename_i hName
          rw [List.contains_iff_mem] at hName
          apply h.opens_insertFormatting
          simp [isFormatting, Tag.isHtmlIn, htmlTag, hName]
        · exact h.opens_insertInline hKind

------------------------------------------------------------
-- Start Tags of Elements Without Content
------------------------------------------------------------

/- The operation adds an element without content. -/
def Adds
    (x : Build Outcome)
    (b : Builder)
    (t : StartTag)
    (phase : Phase)
    (level : Level)
    (levels : List Level) : Prop :=
  ∃ c, x.run b = (.done, c) ∧
    Stands c phase
      (⟨level.tag, level.nodes ++ [.element (htmlTag t) []]⟩ :: levels)

theorem run_insertClosed
    (h : Stands b phase levels)
    (t : StartTag) :
    (insertClosed t).run b =
      (b.arena.size, put b (.element (htmlTag t))) :=
  run_insertTag (htmlTag t) false h.fostering

theorem adds_insertClosed
    (h : Stands b phase (level :: levels)) :
    Adds (do let _ ← insertClosed t; return .done) b t phase level
      levels := by
  refine ⟨_, ?_, h.putClosed (htmlTag t)⟩
  rw [run_bind, h.run_insertClosed]
  rfl

/- The rule of elements without content that stand in a line. -/
theorem bodyStart_of_inline
    (hName : t.name ∈ ["area", "br", "embed", "img", "input", "keygen",
      "wbr"]) :
    Rules.bodyStart t = (do
      reconstruct
      let _ ← insertClosed t
      if !(t.name == "input" && Rules.isHidden t) then
        Build.forbidFrameset
      return .done) := by
  simp only [List.mem_cons, List.not_mem_nil, or_false] at hName
  rcases hName with hName | hName | hName | hName | hName | hName |
      hName <;>
    (unfold Rules.bodyStart
     rw [hName]
     rfl)

/- Such an element is added; a hidden field still allows a frameset. -/
theorem adds_inline
    (h : Stands b phase (level :: levels))
    (hName : t.name ∈ ["area", "br", "embed", "img", "input", "keygen",
      "wbr"]) :
    Adds (Rules.bodyStart t) b t phase level levels := by
  have hAdded := h.putClosed (htmlTag t)
  rw [bodyStart_of_inline hName]
  by_cases hShown : (!(t.name == "input" && Rules.isHidden t)) = true
  · refine ⟨_, ?_, hAdded.forbidFrameset⟩
    rw [run_bind, h.run_reconstruct, run_bind, h.run_insertClosed]
    simp only [hShown, if_true]
    rfl
  · refine ⟨_, ?_, hAdded⟩
    rw [run_bind, h.run_reconstruct, run_bind, h.run_insertClosed]
    simp only [hShown, Bool.false_eq_true, if_false]
    rfl

/- What a player or a plugin is told is added as it stands. -/
theorem adds_setting
    (h : Stands b phase (level :: levels))
    (hName : t.name ∈ ["param", "source", "track"]) :
    Adds (Rules.bodyStart t) b t phase level levels := by
  have hStart : Rules.bodyStart t =
      (do let _ ← insertClosed t; return .done) := by
    simp only [List.mem_cons, List.not_mem_nil, or_false] at hName
    rcases hName with hName | hName | hName <;>
      (unfold Rules.bodyStart
       rw [hName]
       rfl)
  rw [hStart]
  exact h.adds_insertClosed

/- A line across the page closes no paragraph that is not open. -/
theorem adds_hr
    (h : Stands b phase (level :: levels))
    (hNests : nestsIn t.name ((level :: levels).map (·.tag)) = true)
    (hName : t.name = "hr") :
    Adds (Rules.bodyStart t) b t phase level levels := by
  have hEnder : t.name ∈ paragraphEnders := by
    rw [hName]
    decide
  have hStart : Rules.bodyStart t = (do
      closeParagraphInScope
      let _ ← insertClosed t
      Build.forbidFrameset
      return .done) := by
    unfold Rules.bodyStart
    rw [hName]
    rfl
  refine ⟨_, ?_, (h.putClosed (htmlTag t)).forbidFrameset⟩
  rw [hStart, run_bind, h.run_closeParagraphInScope hNests hEnder,
    run_bind, h.run_insertClosed]
  rfl

/- An element without content is added. -/
theorem bodyStart_void
    (h : Stands b phase (level :: levels))
    (hNests : nestsIn t.name ((level :: levels).map (·.tag)) = true)
    (hName : t.name ∈ ["area", "br", "embed", "hr", "img", "input",
      "keygen", "param", "source", "track", "wbr"]) :
    Adds (Rules.bodyStart t) b t phase level levels := by
  have hSplit :
      ∀ n ∈ ["area", "br", "embed", "hr", "img", "input", "keygen",
          "param", "source", "track", "wbr"],
        n ∈ ["area", "br", "embed", "img", "input", "keygen", "wbr"] ∨
          n ∈ ["param", "source", "track"] ∨ n = "hr" := by
    decide
  rcases hSplit _ hName with hInline | hSetting | hRule
  · exact h.adds_inline hInline
  · exact h.adds_setting hSetting
  · exact h.adds_hr hNests hRule

end Stands

end Markup

end Gleaner
