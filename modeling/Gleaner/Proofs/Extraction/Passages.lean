import Gleaner.Extraction.Description
import Gleaner.Proofs.Extraction.Candidates
import Gleaner.Proofs.Markup.TrimmedLines
import Gleaner.Tree.Page

/-
  The description of an element against the element: which media
  and which text its lines lose.

  Main declarations:
    * `Extract.shownMedia`
    * `Extract.shownTexts`
    * `Extract.media_passages`
    * `Extract.texts_passages`
-/

namespace Gleaner

namespace Extract

open Markup

------------------------------------------------------------
-- Media and Texts of Passages
------------------------------------------------------------

/- The media among some passages. -/
def shownMedia (passages : List Passage) : List String :=
  passages.filterMap fun
    | .media url => some url
    | .text _ => none

/- The texts among some passages. -/
def shownTexts (passages : List Passage) : List String :=
  passages.filterMap fun
    | .text s => some s
    | .media _ => none

/- A text as the one line that it is, unless it is blank. -/
def asLine (s : String) : List String :=
  if (Text.strip s).isEmpty then [] else [Text.strip s]

theorem shownMedia_flatMap
    {α : Type}
    (f : α → List Passage)
    (xs : List α) :
    shownMedia (xs.flatMap f) = xs.flatMap fun x => shownMedia (f x) := by
  simp only [shownMedia, List.filterMap_flatMap]

theorem shownTexts_flatMap
    {α : Type}
    (f : α → List Passage)
    (xs : List α) :
    shownTexts (xs.flatMap f) = xs.flatMap fun x => shownTexts (f x) := by
  simp only [shownTexts, List.filterMap_flatMap]

variable {page : Page}

theorem shownMedia_passagesOfLine (line : String) :
    shownMedia (passagesOfLine page line) =
      page.mediaUrls (mediaIn line) := by
  have hUrls : ∀ urls : List String,
      shownMedia (urls.map .media) = urls := by
    intro urls
    simp [shownMedia, List.filterMap_map]
  rw [passagesOfLine]
  unfold shownMedia at hUrls ⊢
  rw [List.filterMap_append, hUrls]
  split <;> rfl

theorem shownTexts_passagesOfLine (line : String) :
    shownTexts (passagesOfLine page line) = asLine (renderedText line) := by
  have hNone : ∀ urls : List String,
      shownTexts (urls.map .media) = [] := by
    intro urls
    simp [shownTexts, List.filterMap_map]
  rw [passagesOfLine, asLine]
  unfold shownTexts at hNone ⊢
  rw [List.filterMap_append, hNone, List.append_nil]
  split <;> rfl

/- Lines that are dropped show nothing. -/
theorem flatMap_filter_lines
    {β : Type}
    {f : List Char → List β}
    (hNone : f [] = [])
    (lines : List (List Char)) :
    (lines.filter (!·.isEmpty)).flatMap f = lines.flatMap f := by
  induction lines with
  | nil => rfl
  | cons line lines ih =>
      cases line with
      | nil => simpa [hNone] using ih
      | cons c line => simp [ih]

/- The media of some markup are those of its lines. -/
theorem shownMedia_passages (markup : String) :
    shownMedia (passages page markup) =
      (Text.cutAt (· == '\n') markup.toList).flatMap fun line =>
        page.mediaUrls (mediaIn (String.ofList (Text.trim line))) := by
  have hNone : page.mediaUrls (mediaIn (String.ofList [])) = [] := by
    rw [mediaIn, if_neg (by decide)]
    rfl
  have hLines : shownMedia (passages page markup) =
      ((((Text.cutAt (· == '\n') markup.toList).map Text.trim).filter
        (!·.isEmpty)).flatMap fun line =>
          page.mediaUrls (mediaIn (String.ofList line))) := by
    rw [passages, shownMedia_flatMap]
    simp only [shownMedia_passagesOfLine]
  rw [hLines, flatMap_filter_lines hNone, List.flatMap_map]

/- The texts of some markup are those of its lines. -/
theorem shownTexts_passages (markup : String) :
    shownTexts (passages page markup) =
      (Text.cutAt (· == '\n') markup.toList).flatMap fun line =>
        asLine (renderedText (String.ofList (Text.trim line))) := by
  have hNone : asLine (renderedText (String.ofList [])) = [] := by
    rw [renderedText, if_neg (by decide)]
    rfl
  have hLines : shownTexts (passages page markup) =
      ((((Text.cutAt (· == '\n') markup.toList).map Text.trim).filter
        (!·.isEmpty)).flatMap fun line =>
          asLine (renderedText (String.ofList line))) := by
    rw [passages, shownTexts_flatMap]
    simp only [shownTexts_passagesOfLine]
  rw [hLines, flatMap_filter_lines hNone, List.flatMap_map]

------------------------------------------------------------
-- The Description of an Element
------------------------------------------------------------

variable {e : Element}
variable {m : Match Element}

/- The description of an element is that of its markup. -/
theorem passagesOf_node
    (hHit : m.hit = .node e) :
    passagesOf page m =
      passages page (String.ofList (innerMarkup e.children)) := by
  rw [passagesOf, hHit]
  rfl

/- The lines of nodes that nest are lines of pieces that fit. -/
theorem fits_of_mem_lines
    {nodes : List Node}
    (hNests : Node.nestsAll [] nodes = true)
    {line : List Piece}
    (hLine : line ∈ (Node.piecesAll nodes).splitOnP Piece.isBreak) :
    Fits [] line := by
  rcases (fits_of_nestsAll hNests).splitOnP Piece.isBreak
      Piece.exists_letter_of_isBreak with
    ⟨first, lines, hLines, hFirst, hOthers⟩
  rw [hLines] at hLine
  rcases List.mem_cons.mp hLine with rfl | hLine
  · exact hFirst
  · exact hOthers line hLine

/- The media of a line of nodes are those of its pieces. -/
theorem mediaIn_of_mem_lines
    {nodes : List Node}
    (hNests : Node.nestsAll [] nodes = true)
    (hSteady : IsSteady (innerMarkup nodes))
    (hStays : ∀ p ∈ Node.piecesAll nodes, p.staysInLine = true)
    {line : List Piece}
    (hLine : line ∈ (Node.piecesAll nodes).splitOnP Piece.isBreak) :
    mediaIn (String.ofList (Text.trim (line.flatMap Piece.write))) =
      line.flatMap Piece.media := by
  have hCut : line.flatMap Piece.write ∈ Text.cutAt (· == '\n')
      ((Node.piecesAll nodes).flatMap Piece.write) := by
    rw [cutAt_flatMap_write hStays]
    exact List.mem_map_of_mem hLine
  have hSteadyLine : IsSteady (line.flatMap Piece.write) := by
    rw [innerMarkup, ← Node.writeAll_piecesAll nodes hNests] at hSteady
    exact hSteady.of_subset fun c hc => Text.mem_of_mem_cutAt hCut hc
  have hEnd : '\n' ∉ line.flatMap Piece.write := by
    intro hIn
    have hNot := Text.not_isCut_of_mem_cutAt hCut hIn
    cases hNot
  exact (shows_line (fits_of_mem_lines hNests hLine) hSteadyLine hEnd).1

/- No medium is lost between the lines of some nodes. -/
theorem media_lines
    {nodes : List Node}
    (hNests : Node.nestsAll [] nodes = true) :
    ((Node.piecesAll nodes).splitOnP Piece.isBreak).flatMap
        (·.flatMap Piece.media) =
      Node.mediaAll nodes := by
  have hBreak : ∀ p : Piece, p.isBreak = true → p.media = [] := by
    intro p hp
    rcases p.exists_letter_of_isBreak hp with ⟨c, rfl⟩
    rfl
  rw [flatMap_splitOnP hBreak, Node.media_piecesAll nodes hNests]

/-
  The media of the lines are those of the element if no tag, no
  comment, no video and no raw text is cut at the end of a line.
-/
theorem media_passages
    (hHit : m.hit = .node e)
    (hNests : Node.nestsAll [] e.children = true)
    (hSteady : IsSteady (innerMarkup e.children))
    (hStays : ∀ p ∈ Node.piecesAll e.children, p.staysInLine = true) :
    shownMedia (passagesOf page m) =
      page.mediaUrls (Cursor.inlineMedia e) := by
  have hCut : Text.cutAt (· == '\n') (innerMarkup e.children) =
      ((Node.piecesAll e.children).splitOnP Piece.isBreak).map
        (·.flatMap Piece.write) := by
    rw [innerMarkup, ← Node.writeAll_piecesAll e.children hNests]
    exact cutAt_flatMap_write hStays
  have hEach : ∀ line ∈ (Node.piecesAll e.children).splitOnP Piece.isBreak,
      page.mediaUrls (mediaIn (String.ofList
          (Text.trim (line.flatMap Piece.write)))) =
        page.mediaUrls (line.flatMap Piece.media) := by
    intro line hLine
    rw [mediaIn_of_mem_lines hNests hSteady hStays hLine]
  rw [passagesOf_node hHit, shownMedia_passages, String.toList_ofList, hCut,
    List.flatMap_map, List.flatMap_congr hEach]
  change _ = page.mediaUrls (inlineMedia e)
  rw [inlineMedia_eq, ← media_lines hNests, Page.mediaUrls,
    List.filterMap_flatMap]
  rfl

/- An element with some children, and a match of it. -/
def elementOf (children : List Node) : Element :=
  ⟨true, [], ⟨.html, "div", []⟩, children⟩

def matchOf (children : List Node) : Match Element :=
  ⟨.node (elementOf children), .outside⟩

/- A picture in a paragraph of two lines, and a video in one line. -/
def sampleNodes : List Node :=
  [.element ⟨.html, "p", []⟩
      [.text "See\n& read ",
        .element ⟨.html, "img", [⟨.plain, "src", "/a.jpg"⟩]⟩ []],
    .text "\n",
    .element ⟨.html, "video", []⟩
      [.element ⟨.html, "source", [⟨.plain, "src", "/b.mp4"⟩]⟩ []]]

theorem media_passages_sample :
    Node.nestsAll [] sampleNodes = true ∧
      shownMedia (passagesOf Template.Field.shopPage
          (matchOf sampleNodes)) =
        ["http://a.example/a.jpg", "http://a.example/b.mp4"] := by
  have hNests : Node.nestsAll [] sampleNodes = true := by decide +kernel
  have hSteady : IsSteady (innerMarkup sampleNodes) :=
    ⟨by decide +kernel, by decide +kernel, by decide +kernel⟩
  have hStays : ∀ p ∈ Node.piecesAll sampleNodes,
      p.staysInLine = true := by
    decide +kernel
  have hInline : Cursor.inlineMedia (elementOf sampleNodes) =
      ["/a.jpg", "/b.mp4"] := by
    refine (inlineMedia_eq _).trans ?_
    decide +kernel
  refine ⟨hNests, ?_⟩
  rw [media_passages (m := matchOf sampleNodes) rfl hNests hSteady hStays,
    hInline]
  decide +kernel

/- A video whose source stands on a line of its own. -/
def cutVideo : List Node :=
  [.element ⟨.html, "video", []⟩
      [.text "\n",
        .element ⟨.html, "source", [⟨.plain, "src", "/b.mp4"⟩]⟩ [],
        .text "\n"]]

/- The source of a video that is cut into lines is lost. -/
theorem source_of_cut_video_is_lost :
    shownMedia (passagesOf Template.Field.shopPage
        (matchOf cutVideo)) = [] ∧
      Template.Field.shopPage.mediaUrls
          (Cursor.inlineMedia (elementOf cutVideo)) =
        ["http://a.example/b.mp4"] := by
  have hInline :
      Cursor.inlineMedia (elementOf cutVideo) = ["/b.mp4"] := by
    refine (inlineMedia_eq _).trans ?_
    decide +kernel
  have hCut : Text.cutAt (· == '\n')
      (String.ofList (innerMarkup cutVideo)).toList =
        ["<video>".toList, "<source src=\"/b.mp4\">".toList,
          "</video>".toList] := by
    decide +kernel
  have hNone : ∀ line ∈ ["<video>".toList,
      "<source src=\"/b.mp4\">".toList, "</video>".toList],
        Node.mediaAll (parseFragment (String.ofList
          (Text.trim line))).element.children = [] := by
    decide +kernel
  constructor
  · change shownMedia (passages _ (String.ofList (innerMarkup cutVideo))) = _
    rw [shownMedia_passages, hCut, List.flatMap_eq_nil_iff]
    intro line hLine
    rw [mediaIn, inlineMedia_eq, hNone line hLine, ite_self]
    rfl
  · rw [hInline]
    decide +kernel

/- Lines that are the same when trimmed are the same. -/
theorem asLine_eq_iff {s t : String} :
    asLine s = asLine t ↔
      Text.trim s.toList = Text.trim t.toList := by
  constructor
  · intro hSame
    unfold asLine at hSame
    have hStrip : Text.strip s = Text.strip t := by
      split at hSame
      · rename_i hs
        split at hSame
        · rename_i ht
          rw [String.isEmpty_iff.mp hs, String.isEmpty_iff.mp ht]
        · cases hSame
      · split at hSame
        · cases hSame
        · exact (List.cons.inj hSame).1
    have hChars := congrArg String.toList hStrip
    rwa [Text.strip, Text.strip, String.toList_ofList,
      String.toList_ofList] at hChars
  · intro hSame
    rw [asLine, asLine, Text.strip, Text.strip, hSame]

/- The text of markup of one line. -/
theorem shownTexts_of_line
    (hHit : m.hit = .node e)
    (hLine : '\n' ∉ innerMarkup e.children) :
    shownTexts (passagesOf page m) =
      asLine (renderedText (String.ofList
        (Text.trim (innerMarkup e.children)))) := by
  rw [passagesOf_node hHit, shownTexts_passages, String.toList_ofList,
    Text.cutAt_eq_singleton, List.flatMap_singleton]
  intro c hc
  rw [beq_eq_false_iff_ne]
  rintro rfl
  exact hLine hc

/- Texts alone do not look like markup, and stay as they are written. -/
theorem renderedText_of_texts
    {nodes : List Node}
    (hTexts : ∀ node ∈ nodes, ∃ s, node = .text s) :
    renderedText (String.ofList (Text.trim (innerMarkup nodes))) =
      String.ofList (Text.trim (innerMarkup nodes)) := by
  rw [renderedText, if_neg]
  rw [looksLikeMarkup, String.toList_ofList, Bool.and_eq_true,
    List.contains_iff_mem]
  rintro ⟨hBracket, _⟩
  have hIn := Text.mem_of_mem_trim hBracket
  rw [innerMarkup_of_texts hTexts] at hIn
  exact not_mem_flatMap_escapeText (.inl rfl) _ hIn

/-
  In markup of one line, the text is the text of the element if
  there is more than text in it; a text alone is left as it is
  written, and its references stay undecoded.
-/
theorem texts_passages
    (hHit : m.hit = .node e)
    (hLine : '\n' ∉ innerMarkup e.children) :
    (Node.nestsAll [] e.children = true →
      IsSteady (innerMarkup e.children) →
      (∃ node ∈ e.children, ∀ s, node ≠ .text s) →
      shownTexts (passagesOf page m) = asLine (Cursor.rendered e)) ∧
    ((∀ node ∈ e.children, ∃ s, node = .text s) →
      shownTexts (passagesOf page m) = asLine (Cursor.markup e) ∧
      (shownTexts (passagesOf page m) = asLine (Cursor.rendered e) ↔
        ∀ c ∈ (Cursor.rendered e).toList,
          c ∉ ['&', '\u00A0', '<', '>'])) := by
  have hShown : shownTexts (passagesOf page m) = _ :=
    shownTexts_of_line hHit hLine
  have hRendered : (Cursor.rendered e).toList =
      Node.textContentAll e.children :=
    String.toList_ofList
  constructor
  · rintro hNests hSteady ⟨node, hIn, hNode⟩
    have hWrite : innerMarkup e.children =
        (Node.piecesAll e.children).flatMap Piece.write :=
      (Node.writeAll_piecesAll e.children hNests).symm
    rw [hWrite] at hSteady hLine hShown
    have hText := (shows_line (fits_of_nestsAll hNests) hSteady hLine).2
      (exists_piece_of_not_text hIn hNode)
    rw [hShown, asLine_eq_iff, hText, hRendered, Node.text_piecesAll]
  · intro hTexts
    have hMarkup : (Cursor.markup e).toList = innerMarkup e.children :=
      String.toList_ofList
    have hWritten : shownTexts (passagesOf page m) =
        asLine (Cursor.markup e) := by
      rw [hShown, renderedText_of_texts hTexts, asLine_eq_iff,
        String.toList_ofList, Text.trim_trim, hMarkup]
    refine ⟨hWritten, ?_⟩
    rw [hWritten, asLine_eq_iff, hMarkup, hRendered,
      innerMarkup_of_texts hTexts, trim_flatMap_escapeText_iff]
    simp only [escapeText_eq_iff]

/- Text and an element of one line. -/
def lineNodes : List Node :=
  [.text " a & b ", .element ⟨.html, "b", []⟩ [.text "c"], .text " "]

theorem texts_passages_sample :
    '\n' ∉ innerMarkup lineNodes ∧
      shownTexts (passagesOf Template.Field.shopPage (matchOf lineNodes)) =
        ["a & b c"] := by
  have hNests : Node.nestsAll [] lineNodes = true := by decide +kernel
  have hSteady : IsSteady (innerMarkup lineNodes) :=
    ⟨by decide +kernel, by decide +kernel, by decide +kernel⟩
  have hLine : '\n' ∉ innerMarkup lineNodes := by decide +kernel
  refine ⟨hLine, ?_⟩
  rw [(texts_passages (m := matchOf lineNodes) rfl hLine).1 hNests hSteady
    ⟨.element ⟨.html, "b", []⟩ [.text "c"], by simp [elementOf, lineNodes], by simp⟩]
  decide +kernel

/- A text alone is given as it is written. -/
theorem text_alone_is_not_decoded :
    shownTexts (passagesOf Template.Field.shopPage
        (matchOf [.text "a & b"])) = ["a &amp; b"] ∧
      asLine (Cursor.rendered (elementOf [.text "a & b"])) =
        ["a & b"] := by
  decide +kernel

end Extract

end Gleaner
