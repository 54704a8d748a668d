import Gleaner.Proofs.Extraction.Passages
import Gleaner.Proofs.Harvest.Reading
import Gleaner.Proofs.Markup.Arrangement
import Gleaner.Proofs.Tree.Names

/-
  Steady pages: those that are read the same in whatever order
  their attributes come.  A page whose elements have one attribute
  at most is steady.  One is not where a line ends inside a tag of
  two attributes.

  Main declarations:
    * `Harvest.isSparse`
    * `Harvest.steady_of_isSparse`
    * `Harvest.cutTag`
    * `Harvest.exists_extract_cutTag`
-/

namespace Gleaner

namespace Harvest

------------------------------------------------------------
-- Sparse Content
------------------------------------------------------------

variable {E : Type}

/- No element of fetched markup has two attributes. -/
def isSparse : Content → Bool
  | .markup body order =>
      (Markup.parseDocument body).isSparse &&
        order.all fun o => (Markup.parseDocument o).isSparse
  | .data _ => true

/- In sparse content, attributes come in one order only. -/
theorem record_of_isSparse
    (page : Page)
    (t : Template)
    (now : Moment)
    (a b : Markup.Arrangement)
    {content : Content}
    (hSparse : isSparse content = true) :
    Extract.record page t now a content =
      Extract.record page t now b content := by
  cases content with
  | data bytes => rfl
  | markup body order =>
      rw [isSparse, Bool.and_eq_true] at hSparse
      rcases hSparse with ⟨hBody, hOrder⟩
      cases order with
      | none =>
          simp only [Extract.record, Option.map_none,
            Markup.Document.arranged_of_isSparse hBody]
      | some o =>
          simp only [Option.all_some] at hOrder
          simp only [Extract.record, Option.map_some,
            Markup.Document.arranged_of_isSparse hBody,
            Markup.Document.arranged_of_isSparse hOrder]

/- A page is steady if only sparse content is fetched for it. -/
theorem steady_of_isSparse
    {s : Services E}
    {address : String}
    (hSparse :
      ∀ t content, s.page address t = .ok (some content) →
        isSparse content = true) :
    s.Steady address := by
  intro a
  unfold extract
  cases Page.ofAddress address with
  | error e => rfl
  | ok page =>
      dsimp only
      cases s.templates.ofHash? page.domain with
      | none => rfl
      | some t =>
          dsimp only
          cases hFetch : s.page address t with
          | error e => rfl
          | ok fetched =>
              cases fetched with
              | none => rfl
              | some content =>
                  dsimp only
                  rw [record_of_isSparse page t s.now a s.arrangement
                    (hSparse t content hFetch)]

/- The pages of the shop are steady. -/
theorem steady_sample (address : String) :
    sampleServices.Steady address := by
  apply steady_of_isSparse
  intro t content hFetch
  simp only [sampleServices] at hFetch
  split at hFetch
  · cases hFetch
    rfl
  · cases hFetch

------------------------------------------------------------
-- Boxes
------------------------------------------------------------

open Markup (Arrangement Attribute Document Element Node)

/- The boxes of a page. -/
def boxes : Selector :=
  ⟨"div", [], ⟨["div"], none⟩⟩

/- A picture in front of a paragraph with some attributes. -/
def boxNodes (attributes : List Attribute) : List Node :=
  [.element ⟨.html, "img", [⟨.plain, "src", "//[::1]/1.png"⟩]⟩ [],
    .element ⟨.html, "p", attributes⟩ [.text "t"]]

/- A page with both of them in a box. -/
def boxPage (attributes : List Attribute) : Document :=
  ⟨true, ⟨.html, "html", []⟩,
    [.element ⟨.html, "head", []⟩ [],
      .element ⟨.html, "body", []⟩
        [.element ⟨.html, "div", []⟩ (boxNodes attributes)]]⟩

/- The box in the page. -/
def boxOf (attributes : List Attribute) : Element :=
  ⟨true,
    [⟨⟨.html, "body", []⟩, [], []⟩,
      ⟨⟨.html, "html", []⟩, [.element ⟨.html, "head", []⟩ []], []⟩],
    ⟨.html, "div", []⟩, boxNodes attributes⟩

/- The box is the one element that a name of boxes leads to. -/
theorem resolve_boxes
    {attributes : List Attribute}
    (hPage : (boxPage attributes).element.isBlank = false)
    (hBox : (boxOf attributes).isBlank = false) :
    boxes.resolve (boxPage attributes).element =
      [⟨.node (boxOf attributes), .outside⟩] := by
  have hLower : "div".toLower = "div" := by decide +kernel
  have hNamed : (boxPage attributes).element.named "div" =
      Cursor.keepNew [] [boxOf attributes] := by
    simp [Element.named, Element.below, Element.among, Css.nameOn,
      Document.element, boxPage, boxOf, boxNodes, hLower]
  have hKept : Cursor.keepNew [] [boxOf attributes] =
      [boxOf attributes] := by
    rw [Cursor.keepNew, show Cursor.isEmpty (boxOf attributes) = false
      from hBox]
    rfl
  rw [boxes, Element.resolve_name rfl hPage, hNamed, hKept,
    List.map_singleton]

/- The picture is the one picture of the box. -/
theorem coverMedia_boxOf (attributes : List Attribute) :
    Markup.coverMedia (boxOf attributes) = ["//[::1]/1.png"] := by
  have hPicture :
      Markup.Tag.cover?
          ⟨.html, "img", [⟨.plain, "src", "//[::1]/1.png"⟩]⟩ =
        some "//[::1]/1.png" := by
    decide +kernel
  simp [Markup.coverMedia, Element.below, Element.among, boxOf,
    boxNodes, hPicture]

------------------------------------------------------------
-- A Page That Is Not Steady
------------------------------------------------------------

/- A paragraph with a line end in the first of its two attributes. -/
def cutTag : String :=
  "<div><img src=//[::1]/1.png><p a='\n' b>t</p></div>"

/- The template of a shop whose pages have a box. -/
def boxTemplate : Template :=
  { Template.blank "[::1]" .html with
    cover := [boxes]
    description := [boxes] }

/- A shop in which all pages have the paragraph in their box. -/
def cutTagServices (a : Arrangement) : Services Unit :=
  { sampleServices with
    templates := Registry.empty.insert boxTemplate
    page := fun _ _ => .ok (some (.markup cutTag none))
    arrangement := a }

/- A page of the shop. -/
def cutTagPage : Page :=
  ⟨"http://[::1]/1",
    { scheme := "http"
      authority := some ⟨"", some (.six [0, 0, 0, 0, 0, 0, 0, 1]), none⟩
      path := "/1".toList
      query := none
      fragment := none },
    "[::1]"⟩

/- The fields of such a page are read from its one box. -/
theorem firstUseful_boxes
    {attributes : List Attribute}
    (hPage : (boxPage attributes).element.isBlank = false)
    (hBox : (boxOf attributes).isBlank = false)
    {α : Type}
    (f : Match Element → List α) :
    firstUseful (boxPage attributes).element
        (fun found => nonEmpty (found.flatMap f)) [boxes] =
      nonEmpty (f ⟨.node (boxOf attributes), .outside⟩) := by
  rw [firstUseful, List.findSome?_singleton, resolve_boxes hPage hBox]
  dsimp only
  rw [List.flatMap_singleton]

/- The picture of the box is the cover of the page. -/
theorem cover_boxPage
    {attributes : List Attribute}
    (hPage : (boxPage attributes).element.isBlank = false)
    (hBox : (boxOf attributes).isBlank = false) :
    Extract.cover (boxPage attributes).element cutTagPage [boxes] =
      some ["http://[::1]/1.png"] := by
  have hMedia :
      cutTagPage.mediaUrls ["//[::1]/1.png"] =
        ["http://[::1]/1.png"] := by
    decide +kernel
  rw [Extract.cover, firstUseful_boxes hPage hBox]
  change nonEmpty (cutTagPage.mediaUrls
    (Markup.coverMedia (boxOf attributes))) = _
  rw [coverMedia_boxOf, hMedia]
  rfl

/- The passages of the box are the description of the page. -/
theorem description_boxPage
    {attributes : List Attribute}
    (hPage : (boxPage attributes).element.isBlank = false)
    (hBox : (boxOf attributes).isBlank = false)
    (hShown :
      Extract.passagesOf cutTagPage
        ⟨.node (boxOf attributes), .outside⟩ ≠ []) :
    Extract.description (boxPage attributes).element cutTagPage
        [boxes] =
      some (Extract.passagesOf cutTagPage
        ⟨.node (boxOf attributes), .outside⟩) := by
  rw [Extract.description, firstUseful_boxes hPage hBox]
  exact nonEmpty_eq_some_iff.mpr ⟨hShown, rfl⟩

/- The page of the shop is read with the template of the shop. -/
theorem extract_cutTagServices (a : Arrangement) :
    extract (cutTagServices a) "http://[::1]/1" =
      .ok (if
        (Extract.record cutTagPage boxTemplate sampleServices.now a
          (.markup cutTag none)).valid
        then some (Extract.record cutTagPage boxTemplate
          sampleServices.now a (.markup cutTag none))
        else none) := by
  have hAddress :
      Page.ofAddress "http://[::1]/1" = .ok cutTagPage := by
    decide +kernel
  have hTemplate :
      (cutTagServices a).templates.ofHash? cutTagPage.domain =
        some boxTemplate := by
    change (Registry.empty.insert boxTemplate).ofHash? _ = _
    decide +kernel
  rw [extract, hAddress]
  dsimp only
  rw [hTemplate]
  rfl

/- What the page shows in its description is what its box shows. -/
theorem extract_cutTag
    {a : Arrangement}
    (attributes : List Attribute)
    {texts : List String}
    (hArranged :
      (Markup.parseDocument cutTag).arranged a 0 =
        boxPage attributes)
    (hPage : (boxPage attributes).element.isBlank = false)
    (hBox : (boxOf attributes).isBlank = false)
    (hTexts :
      Extract.shownTexts (Extract.passagesOf cutTagPage
        ⟨.node (boxOf attributes), .outside⟩) = texts)
    (hSome : texts ≠ []) :
    ∃ e : Extraction,
      extract (cutTagServices a) "http://[::1]/1" = .ok (some e) ∧
        Extract.shownTexts e.record.description = texts := by
  have hShown : Extract.passagesOf cutTagPage
      ⟨.node (boxOf attributes), .outside⟩ ≠ [] := by
    intro hNone
    rw [hNone] at hTexts
    exact hSome hTexts.symm
  have hCover := cover_boxPage hPage hBox
  have hDescription := description_boxPage hPage hBox hShown
  have hLines :
      (Extract.record cutTagPage boxTemplate sampleServices.now a
          (.markup cutTag none)).record.description =
        Extract.passagesOf cutTagPage
          ⟨.node (boxOf attributes), .outside⟩ := by
    simp only [Extract.record, hArranged, Extract.assemble,
      boxTemplate, hDescription, Option.getD_some]
  have hValid :
      (Extract.record cutTagPage boxTemplate sampleServices.now a
        (.markup cutTag none)).valid = true := by
    simp only [Extract.record, hArranged, Extract.assemble,
      boxTemplate, hCover, hDescription, Option.getD_some]
    simpa using hShown
  refine ⟨_, ?_, by rw [hLines, hTexts]⟩
  rw [extract_cutTagServices, if_pos hValid]

/-
  What comes behind the line end is taken for text, and so the
  order of the two attributes shows in what is read.
-/
theorem exists_extract_cutTag :
    (∃ e : Extraction,
      extract (cutTagServices .source) "http://[::1]/1" =
          .ok (some e) ∧
        Extract.shownTexts e.record.description =
          ["\" b=\"\">t"]) ∧
    ∃ e : Extraction,
      extract (cutTagServices .reversed) "http://[::1]/1" =
          .ok (some e) ∧
        Extract.shownTexts e.record.description = ["\">t"] := by
  constructor
  · refine extract_cutTag
      [⟨.plain, "a", "\n"⟩, ⟨.plain, "b", ""⟩]
      (by decide +kernel) (by decide +kernel) (by decide +kernel) ?_
      (List.cons_ne_nil _ _)
    rw [Extract.passagesOf_node rfl, Extract.shownTexts_passages]
    decide +kernel
  · refine extract_cutTag
      [⟨.plain, "b", ""⟩, ⟨.plain, "a", "\n"⟩]
      (by decide +kernel) (by decide +kernel) (by decide +kernel) ?_
      (List.cons_ne_nil _ _)
    rw [Extract.passagesOf_node rfl, Extract.shownTexts_passages]
    decide +kernel

end Harvest

end Gleaner
