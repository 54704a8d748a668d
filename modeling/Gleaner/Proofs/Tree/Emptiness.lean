import Gleaner.Proofs.Markup.TrimmedLines
import Gleaner.Tree.Page

/-
  Empty elements.  An element is empty if nothing but white space
  is written inside it; since a no-break space is written as a
  reference, that is not the same as showing white space only.

  Main declarations:
    * `Markup.allBlank_escapeText_iff`
    * `Markup.allBlank_innerMarkup_iff`
    * `Markup.Element.isEmpty_iff`
    * `Markup.Element.isEmpty_iff_of_texts`
    * `Markup.Element.noBreakSpace_fills`
-/

namespace Gleaner

namespace Markup

------------------------------------------------------------
-- Blank Markup
------------------------------------------------------------

/- Only blanks that are written as they are stay blank. -/
theorem allBlank_escapeText_iff (c : Char) :
    Text.AllBlank (escapeText c) ↔
      Text.isBlank c = true ∧ c ≠ '\u00A0' := by
  have hNames : ∀ entry ∈ writtenNames,
      ¬ (Text.isBlank entry.2 = true ∧ entry.2 ≠ '\u00A0') := by
    decide
  rcases isEscape_escapeText c with ⟨_, hPlain⟩ | ⟨name, hName, hRef⟩
  · have hOther : c ≠ '\u00A0' := by
      rintro rfl
      exact escapeText_eq_iff.mp hPlain (by decide)
    simp [hPlain, Text.AllBlank, hOther]
  · rw [hRef]
    constructor
    · intro hBlank
      have hFirst : Text.isBlank '&' = true :=
        hBlank '&' List.mem_cons_self
      cases hFirst
    · intro hBlank
      exact absurd hBlank (hNames (name, c) hName)

/- A written text is blank if the text is, without no-break spaces. -/
theorem allBlank_flatMap_escapeText_iff (cs : List Char) :
    Text.AllBlank (cs.flatMap escapeText) ↔
      Text.AllBlank cs ∧ '\u00A0' ∉ cs := by
  have hEach :
      Text.AllBlank (cs.flatMap escapeText) ↔
        ∀ c ∈ cs, Text.AllBlank (escapeText c) := by
    constructor
    · intro hBlank c hc d hd
      exact hBlank d (List.mem_flatMap.mpr ⟨c, hc, hd⟩)
    · intro hBlank d hd
      rcases List.mem_flatMap.mp hd with ⟨c, hc, hd⟩
      exact hBlank c hc d hd
  rw [hEach]
  constructor
  · intro hBlank
    refine ⟨fun c hc => ((allBlank_escapeText_iff c).mp (hBlank c hc)).1,
      fun hIn => ?_⟩
    exact ((allBlank_escapeText_iff _).mp (hBlank _ hIn)).2 rfl
  · rintro ⟨hBlank, hNone⟩ c hc
    refine (allBlank_escapeText_iff c).mpr ⟨hBlank c hc, ?_⟩
    rintro rfl
    exact hNone hc

/- What a node is written as is part of the markup. -/
theorem write_subset_innerMarkup
    {nodes : List Node}
    {node : Node}
    (hNode : node ∈ nodes) :
    node.write false ⊆ innerMarkup nodes := by
  induction nodes with
  | nil => cases hNode
  | cons first rest ih =>
      rw [innerMarkup, Node.writeAll]
      rcases List.mem_cons.mp hNode with rfl | hNode
      · exact List.subset_append_left _ _
      · exact List.subset_append_of_subset_right _ (ih hNode)

/-
  Markup is blank if it is made of texts that are: whatever is no
  text is written with brackets.
-/
theorem allBlank_innerMarkup_iff (nodes : List Node) :
    Text.AllBlank (innerMarkup nodes) ↔
      (∀ node ∈ nodes, ∃ s, node = .text s) ∧
        Text.AllBlank (Node.textContentAll nodes) ∧
        '\u00A0' ∉ Node.textContentAll nodes := by
  by_cases hTexts : ∀ node ∈ nodes, ∃ s, node = .text s
  · rw [innerMarkup_of_texts hTexts, allBlank_flatMap_escapeText_iff]
    exact ⟨fun hBlank => ⟨hTexts, hBlank⟩, fun h => h.2⟩
  · constructor
    · intro hBlank
      simp only [not_forall, not_exists] at hTexts
      rcases hTexts with ⟨node, hNode, hNoText⟩
      rcases exists_write_eq hNoText with ⟨cs, hWrite⟩
      have hBracket : Text.isBlank '<' = true := by
        apply hBlank '<' (write_subset_innerMarkup hNode _)
        rw [hWrite]
        exact List.mem_cons_self
      cases hBracket
    · intro h
      exact absurd h.1 hTexts

------------------------------------------------------------
-- Empty Elements
------------------------------------------------------------

namespace Element

/-
  An element is empty if it holds texts only, and shows nothing
  but white space other than no-break spaces.
-/
theorem isEmpty_iff (e : Element) :
    Cursor.isEmpty e = true ↔
      (∀ node ∈ e.children, ∃ s, node = .text s) ∧
        Text.AllBlank (Cursor.rendered e).toList ∧
        '\u00A0' ∉ (Cursor.rendered e).toList := by
  have hShown :
      (Cursor.rendered e).toList = Node.textContentAll e.children :=
    String.toList_ofList
  have hEmpty :
      Cursor.isEmpty e = (Text.trim (innerMarkup e.children)).isEmpty :=
    rfl
  rw [hShown, hEmpty, List.isEmpty_iff, Text.trim_eq_nil_iff,
    allBlank_innerMarkup_iff]

/-
  An element that holds texts only is empty if a reader sees white
  space only, except when there is a no-break space in it: then,
  and only then, it is not empty though nothing is seen.
-/
theorem isEmpty_iff_of_texts
    (e : Element)
    (hTexts : ∀ node ∈ e.children, ∃ s, node = .text s) :
    (Cursor.isEmpty e = true ↔
      Text.AllBlank (Cursor.rendered e).toList ∧
        '\u00A0' ∉ (Cursor.rendered e).toList) ∧
      (Cursor.isEmpty e = false ∧
          Text.AllBlank (Cursor.rendered e).toList ↔
        Text.AllBlank (Cursor.rendered e).toList ∧
          '\u00A0' ∈ (Cursor.rendered e).toList) := by
  have hEmpty :
      Cursor.isEmpty e = true ↔
        Text.AllBlank (Cursor.rendered e).toList ∧
          '\u00A0' ∉ (Cursor.rendered e).toList := by
    rw [isEmpty_iff]
    exact ⟨fun h => h.2, fun h => ⟨hTexts, h⟩⟩
  refine ⟨hEmpty, ?_⟩
  rw [← Bool.not_eq_true, hEmpty]
  constructor
  · rintro ⟨hFilled, hBlank⟩
    exact ⟨hBlank, by_contra fun hNone => hFilled ⟨hBlank, hNone⟩⟩
  · rintro ⟨hBlank, hIn⟩
    exact ⟨fun h => h.2 hIn, hBlank⟩

/- A paragraph with a text in it. -/
def paragraph (s : String) : Element :=
  ⟨true, [], ⟨.html, "p", []⟩, [.text s]⟩

/- A blank and a no-break space are both white, and only one is empty. -/
theorem isEmpty_iff_of_texts_sample :
    Cursor.isEmpty (paragraph " \n") = true ∧
      Cursor.isEmpty (paragraph "\u00A0") = false := by
  have hTexts : ∀ s, ∀ node ∈ (paragraph s).children,
      ∃ t, node = .text t := by
    intro s node hNode
    exact ⟨s, List.mem_singleton.mp hNode⟩
  have hPlain := (isEmpty_iff_of_texts _ (hTexts " \n")).1
  have hHard := (isEmpty_iff_of_texts _ (hTexts "\u00A0")).2
  exact ⟨hPlain.mpr (by decide +kernel), (hHard.mpr (by decide +kernel)).1⟩

/- A paragraph with white space alone, in a page. -/
def spacedParagraph : Element :=
  ⟨true, [⟨⟨.html, "body", []⟩, [], []⟩,
    ⟨⟨.html, "html", []⟩, [.element ⟨.html, "head", []⟩ []], []⟩],
    ⟨.html, "p", []⟩, [.text "\u00A0"]⟩

/- A paragraph of a page that shows white space only is not empty. -/
theorem noBreakSpace_fills :
    ∃ e ∈ (parseDocument "<p>\u00A0</p>").element.below,
      (∀ node ∈ e.children, ∃ s, node = .text s) ∧
        Text.AllBlank (Cursor.rendered e).toList ∧
        Cursor.isEmpty e = false := by
  have hPage : parseDocument "<p>\u00A0</p>" =
      ⟨true, ⟨.html, "html", []⟩,
        [.element ⟨.html, "head", []⟩ [],
          .element ⟨.html, "body", []⟩
            [.element ⟨.html, "p", []⟩ [.text "\u00A0"]]]⟩ := by
    decide +kernel
  refine ⟨spacedParagraph, ?_, ?_, ?_, ?_⟩
  · rw [hPage]
    simp [Document.element, below, among, spacedParagraph]
  · intro node hNode
    exact ⟨_, List.mem_singleton.mp hNode⟩
  · decide +kernel
  · decide +kernel

end Element

end Markup

end Gleaner
