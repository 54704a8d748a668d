import Gleaner.Markup.Parse
import Gleaner.Proofs.Markup.Spine

/-
  Where the construction of a tree stands while it only grows at
  its end: the open elements, and which of them are open again
  after a misnested end tag.

  Main declarations:
    * `Markup.Listed`
    * `Markup.Phase`
    * `Markup.Stands`
    * `Markup.reaches`
    * `Markup.Stands.open`
    * `Markup.Stands.close`
-/

namespace Gleaner

namespace Markup

------------------------------------------------------------
-- Runs of Operations
------------------------------------------------------------

namespace Build

variable {α β : Type}

theorem run_bind (x : Build α) (f : α → Build β) (b : Builder) :
    (x >>= f).run b = (f (x.run b).1).run (x.run b).2 :=
  rfl

theorem run_pure (v : α) (b : Builder) :
    (pure v : Build α).run b = (v, b) :=
  rfl

theorem run_get (b : Builder) : (get : Build Builder).run b = (b, b) :=
  rfl

theorem run_set (c b : Builder) : (set c : Build Unit).run b = ((), c) :=
  rfl

theorem run_modify (f : Builder → Builder) (b : Builder) :
    (modify f : Build Unit).run b = ((), f b) :=
  rfl

variable {b : Builder}

theorem run_placeFor (hFoster : b.fostering = false) :
    (placeFor none).run b = (.inside (b.openIds.headD 0), b) := by
  simp only [placeFor, current, run_bind, run_get, run_pure, hFoster,
    Bool.false_and, Bool.false_eq_true, if_false]
  rfl

/- The state with one more node below the innermost open element. -/
def put (b : Builder) (content : Content) : Builder :=
  { b with arena := b.arena.add (b.openIds.headD 0) content }

/- The state with one more element, which is open. -/
def enter (b : Builder) (t : Tag) : Builder :=
  { put b (.element t) with openIds := b.arena.size :: b.openIds }

theorem run_insertTag
    (t : Tag)
    (opened : Bool)
    (hFoster : b.fostering = false) :
    (insertTag t opened).run b =
      (b.arena.size,
        if opened then enter b t else put b (.element t)) := by
  have hPlace := run_placeFor
    (b := { b with arena := (b.arena.create (.element t)).1 }) hFoster
  simp only [insertTag, insertNode, create, run_bind, run_get, run_set,
    run_pure, run_modify, hPlace]
  cases opened with
  | false => rfl
  | true => rfl

theorem run_insertComment
    (s : String)
    (hFoster : b.fostering = false) :
    (insertComment s).run b = ((), put b (.comment s)) := by
  have hPlace := run_placeFor
    (b := { b with arena := (b.arena.create (.comment s)).1 }) hFoster
  simp only [insertComment, insertNode, create, run_bind, run_get, run_set,
    run_pure, run_modify, hPlace]
  rfl

theorem run_insertText
    (cs : List Char)
    (hFoster : b.fostering = false) :
    (insertText cs).run b =
      ((), { b with
        arena :=
          b.arena.appendText (b.openIds.headD 0) (String.ofList cs) }) := by
  simp only [insertText, run_bind, run_modify, run_placeFor hFoster]

end Build

------------------------------------------------------------
-- Scopes
------------------------------------------------------------

/-
  Among some tags, one that is wanted is found before the end of
  a scope.
-/
def reaches (scope wanted : Tag → Bool) : List Tag → Bool
  | [] => false
  | t :: rest => wanted t || (!scope t && reaches scope wanted rest)

theorem findInScope_eq
    (scope wanted : Tag → Bool)
    (a : Arena)
    (ids : List Nat) :
    Build.findInScope scope (fun _ t => wanted t) a ids =
      reaches scope wanted (ids.map a.tagOf) := by
  induction ids with
  | nil => rfl
  | cons id ids ih =>
      rw [Build.findInScope, List.map_cons, reaches, ih]
      cases wanted (a.tagOf id) <;> cases scope (a.tagOf id) <;> rfl

/- What is in no scope of some tags is in none of fewer tags. -/
theorem reaches_eq_false_of_prefix
    {scope wanted : Tag → Bool}
    {few tags : List Tag}
    (hFew : few <+: tags)
    (hNone : reaches scope wanted tags = false) :
    reaches scope wanted few = false := by
  induction few generalizing tags with
  | nil => rfl
  | cons t few ih =>
      rcases hFew with ⟨rest, rfl⟩
      rw [List.cons_append, reaches, Bool.or_eq_false_iff,
        Bool.and_eq_false_iff] at hNone
      rw [reaches, hNone.1, Bool.false_or, Bool.and_eq_false_iff]
      exact hNone.2.imp_right (ih (List.prefix_append few rest))

------------------------------------------------------------
-- Formatting
------------------------------------------------------------

/- The formatting inside the element ends with it. -/
def keepsFormatting (t : Tag) : Bool :=
  t.isHtmlIn ["applet", "caption", "marquee", "object", "td", "th"]

/- The element is a formatting element. -/
def isFormatting (t : Tag) : Bool :=
  t.isHtmlIn ("a" :: "nobr" :: Rules.formattingNames)

/-
  The formatting elements that are listed are open, and so are
  the elements that the markers stand for.
-/
inductive Listed :
    List Nat → List Tag → List Formatting → Prop
  | nil : Listed [] [] []
  | skip
      {id : Nat}
      {ids : List Nat}
      {tag : Tag}
      {tags : List Tag}
      {entries : List Formatting}
      (hKind : keepsFormatting tag = false)
      (hRest : Listed ids tags entries) :
      Listed (id :: ids) (tag :: tags) entries
  | entry
      {id : Nat}
      {ids : List Nat}
      {tag : Tag}
      {tags : List Tag}
      {entries : List Formatting}
      {t : StartTag}
      (hKind : isFormatting tag = true)
      (hName : t.name = tag.name)
      (hRest : Listed ids tags entries) :
      Listed (id :: ids) (tag :: tags) (.element id t :: entries)
  | marker
      {id : Nat}
      {ids : List Nat}
      {tag : Tag}
      {tags : List Tag}
      {entries : List Formatting}
      (hKind : keepsFormatting tag = true)
      (hRest : Listed ids tags entries) :
      Listed (id :: ids) (tag :: tags) (.marker :: entries)

/- No formatting element keeps the formatting inside it. -/
theorem keepsFormatting_of_isFormatting
    {t : Tag}
    (ht : isFormatting t = true) :
    keepsFormatting t = false := by
  have hAll : ∀ n ∈ "a" :: "nobr" :: Rules.formattingNames,
      ["applet", "caption", "marquee", "object", "td", "th"].contains n =
        false := by
    decide
  simp only [isFormatting, Tag.isHtmlIn, Bool.and_eq_true,
    List.contains_iff_mem] at ht
  simp only [keepsFormatting, Tag.isHtmlIn, Bool.and_eq_false_iff]
  exact .inr (hAll _ ht.2)

namespace Listed

open Build

variable {ids : List Nat}
variable {tags : List Tag}
variable {entries : List Formatting}

/- What is listed is open. -/
theorem mem
    (h : Listed ids tags entries)
    {id : Nat}
    (hEntry : ∃ e ∈ entries, Formatting.holds id e = true) :
    id ∈ ids := by
  induction h with
  | nil => simp at hEntry
  | skip _ _ ih => exact List.mem_cons_of_mem _ (ih hEntry)
  | entry _ _ _ ih =>
      rcases hEntry with ⟨e, he, hHolds⟩
      rcases List.mem_cons.mp he with rfl | he
      · rw [Formatting.holds, beq_iff_eq] at hHolds
        exact hHolds ▸ List.mem_cons_self
      · exact List.mem_cons_of_mem _ (ih ⟨e, he, hHolds⟩)
  | marker _ _ ih =>
      rcases hEntry with ⟨e, he, hHolds⟩
      rcases List.mem_cons.mp he with rfl | he
      · cases hHolds
      · exact List.mem_cons_of_mem _ (ih ⟨e, he, hHolds⟩)

/- Nothing has to be opened again. -/
theorem isSettled_head?
    (h : Listed ids tags entries) :
    ∀ e ∈ entries.head?, isSettled ids e = true := by
  intro e he
  cases hEntry : e with
  | marker => rfl
  | element id t =>
      rw [isSettled, List.contains_iff_mem]
      apply h.mem
      refine ⟨e, List.mem_of_mem_head? he, ?_⟩
      rw [hEntry, Formatting.holds, beq_iff_eq]

/- A listed element may be left out of the list. -/
theorem filter
    (h : Listed ids tags entries)
    (old : Nat) :
    Listed ids tags (entries.filter (!Formatting.holds old ·)) := by
  induction h with
  | nil => exact .nil
  | skip hKind _ ih => exact .skip hKind ih
  | entry hKind hName _ ih =>
      rw [List.filter_cons]
      split
      · exact .entry hKind hName ih
      · exact .skip (keepsFormatting_of_isFormatting hKind) ih
  | marker hKind _ ih =>
      rw [List.filter_cons]
      exact .marker hKind ih

end Listed

------------------------------------------------------------
-- Standing
------------------------------------------------------------

/- The rules that apply, and how the text that follows is read. -/
structure Phase where
  mode : Mode
  text : TextMode

/- Inside the body, in front of a text or a tag. -/
def Phase.body : Phase :=
  ⟨.inBody, .data⟩

/-
  The construction of a fragment stands inside some open elements
  of the main language, in a phase.
-/
structure Stands (b : Builder) (phase : Phase) (levels : List Level) :
    Prop where
  spine : Spine b.arena b.openIds levels
  listed : Listed b.openIds (levels.map (·.tag)) b.formatting
  html : ∀ tag ∈ levels.map (·.tag), tag.space = .html
  root : ((levels.map (·.tag)).getLast?.map (·.name)) = some "html"
  mode : b.mode = phase.mode
  textMode : b.textMode = phase.text
  fostering : b.fostering = false
  oldLayout : b.oldLayout = false
  templates : b.templateModes = []
  fragment : b.fragment = true

namespace Stands

open Build

variable {b : Builder}
variable {phase : Phase}
variable {level : Level}
variable {levels : List Level}

/- Some states differ in nothing that matters here. -/
theorem congr
    (h : Stands b phase levels)
    {c : Builder}
    (hSame : c = { b with
      framesetOk := c.framesetOk, skipNewline := c.skipNewline,
      form := c.form, head := c.head, pending := c.pending,
      returnMode := c.returnMode }) :
    Stands c phase levels := by
  rw [hSame]
  exact ⟨h.spine, h.listed, h.html, h.root, h.mode, h.textMode,
    h.fostering, h.oldLayout, h.templates, h.fragment⟩

theorem exists_openIds
    (h : Stands b phase levels) :
    ∃ id ids, b.openIds = id :: ids := by
  cases hIds : b.openIds with
  | nil =>
      have hSpine := h.spine
      rw [hIds] at hSpine
      cases hSpine
  | cons id ids => exact ⟨id, ids, rfl⟩

theorem map_tagOf
    (h : Stands b phase levels) :
    b.openIds.map b.arena.tagOf = levels.map (·.tag) :=
  h.spine.map_tagOf

/- The innermost open element has the tag of the innermost level. -/
theorem tagOf_head
    (h : Stands b phase (level :: levels)) :
    b.arena.tagOf (b.openIds.headD 0) = level.tag := by
  rcases h.exists_openIds with ⟨id, ids, hIds⟩
  have hTags := h.map_tagOf
  rw [hIds] at hTags ⊢
  exact (List.cons.inj hTags).1

theorem run_inScope
    (h : Stands b phase levels)
    (scope wanted : Tag → Bool) :
    (inScope scope wanted).run b =
      (reaches scope wanted (levels.map (·.tag)), b) := by
  rw [← h.map_tagOf, ← findInScope_eq]
  rfl

theorem run_currentIn
    (h : Stands b phase (level :: levels))
    (names : List String) :
    (currentIn names).run b = (level.tag.isHtmlIn names, b) := by
  rw [← h.tagOf_head]
  rfl

/- Nothing has to be opened again. -/
theorem run_reconstruct
    (h : Stands b phase levels) :
    reconstruct.run b = ((), b) := by
  have hTake : b.formatting.takeWhile (!isSettled b.openIds ·) = [] := by
    have hSettled := h.listed.isSettled_head?
    cases hList : b.formatting with
    | nil => rfl
    | cons e rest =>
        rw [hList] at hSettled
        rw [List.takeWhile_cons, hSettled e rfl]
        rfl
  have hDrop : b.formatting.dropWhile (!isSettled b.openIds ·) =
      b.formatting := by
    have hAll := List.takeWhile_append_dropWhile
      (p := (!isSettled b.openIds ·)) (l := b.formatting)
    rwa [hTake] at hAll
  simp only [reconstruct, run_bind, run_get, run_modify, hTake, hDrop]
  rfl

------------------------------------------------------------
-- Growing
------------------------------------------------------------

/- A new comment. -/
theorem putComment
    (h : Stands b phase levels)
    (s : String) :
    Stands (put b (.comment s)) phase levels := by
  rcases h.exists_openIds with ⟨id, ids, hIds⟩
  have hSpine := h.spine
  rw [hIds] at hSpine
  refine ⟨?_, h.listed, h.html, h.root, h.mode, h.textMode,
    h.fostering, h.oldLayout, h.templates, h.fragment⟩
  change Spine (b.arena.add (b.openIds.headD 0) _) b.openIds levels
  rw [hIds]
  exact hSpine.addComment s

/- Text below the innermost element. -/
theorem insertText
    (h : Stands b phase (level :: levels))
    (cs : List Char) :
    ∃ c, (Build.insertText cs).run b = ((), c) ∧
      Stands c phase
        (⟨level.tag, level.nodes ++ Node.letters cs⟩ :: levels) := by
  rcases h.exists_openIds with ⟨id, ids, hIds⟩
  have hSpine := h.spine
  rw [hIds] at hSpine
  refine ⟨_, run_insertText cs h.fostering, ?_, h.listed, h.html, h.root,
    h.mode, h.textMode, h.fostering, h.oldLayout, h.templates, h.fragment⟩
  change Spine (b.arena.appendText (b.openIds.headD 0) _) b.openIds _
  rw [hIds]
  have hText := hSpine.appendText (String.ofList cs)
  rwa [String.toList_ofList] at hText

/- A new element without children. -/
theorem putClosed
    (h : Stands b phase (level :: levels))
    (t : Tag) :
    Stands (put b (.element t)) phase
      (⟨level.tag, level.nodes ++ [.element t []]⟩ :: levels) := by
  rcases h.exists_openIds with ⟨id, ids, hIds⟩
  have hSpine := h.spine
  rw [hIds] at hSpine
  refine ⟨?_, h.listed, h.html, h.root, h.mode, h.textMode,
    h.fostering, h.oldLayout, h.templates, h.fragment⟩
  change Spine (b.arena.add (b.openIds.headD 0) _) b.openIds _
  rw [hIds]
  exact hSpine.addClosed t

/- A new element that is open. -/
theorem enter
    (h : Stands b phase levels)
    {t : Tag}
    (hHtml : t.space = .html)
    (entries : List Formatting)
    (hListed :
      Listed (b.arena.size :: b.openIds) (t :: levels.map (·.tag))
        entries) :
    Stands { Build.enter b t with formatting := entries } phase
      (⟨t, []⟩ :: levels) := by
  rcases h.exists_openIds with ⟨id, ids, hIds⟩
  have hSpine := h.spine
  rw [hIds] at hSpine
  refine ⟨?_, hListed, ?_, ?_, h.mode, h.textMode, h.fostering,
    h.oldLayout, h.templates, h.fragment⟩
  · change Spine (b.arena.add (b.openIds.headD 0) _)
      (b.arena.size :: b.openIds) _
    rw [hIds]
    exact hSpine.addOpen t
  · intro tag hTag
    rcases List.mem_cons.mp hTag with rfl | hTag
    · exact hHtml
    · exact h.html tag hTag
  · have hRoot := h.root
    cases levels with
    | nil => cases hRoot
    | cons next levels => exact hRoot

/- A new element that is open and not listed. -/
theorem enterPlain
    (h : Stands b phase levels)
    {t : Tag}
    (hHtml : t.space = .html)
    (hKind : keepsFormatting t = false) :
    Stands (Build.enter b t) phase (⟨t, []⟩ :: levels) :=
  h.enter hHtml b.formatting (.skip hKind h.listed)

/- The innermost element is closed. -/
theorem close
    {outer : Level}
    (h : Stands b phase (level :: outer :: levels))
    (entries : List Formatting)
    (hListed :
      Listed b.openIds.tail ((outer :: levels).map (·.tag)) entries) :
    Stands
      { b with openIds := b.openIds.tail, formatting := entries } phase
      (⟨outer.tag, outer.nodes ++ [.element level.tag level.nodes]⟩ ::
        levels) := by
  rcases h.exists_openIds with ⟨id, ids, hIds⟩
  have hSpine := h.spine
  rw [hIds] at hSpine
  refine ⟨?_, hListed, ?_, h.root, h.mode, h.textMode, h.fostering,
    h.oldLayout, h.templates, h.fragment⟩
  · change Spine b.arena b.openIds.tail _
    rw [hIds]
    exact hSpine.pop
  · exact fun tag hTag => h.html tag (List.mem_cons_of_mem _ hTag)

end Stands

end Markup

end Gleaner
