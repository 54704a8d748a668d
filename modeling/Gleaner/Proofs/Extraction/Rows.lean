import Gleaner.Proofs.Extraction.Candidates
import Gleaner.Proofs.Markup.References
import Gleaner.Proofs.Tree.Names

/-
  The rows of a match: one for each of its media, or a single one
  if it has a text alone.  The specification keeps to this for
  every match.  The goods keep to it for every match that has a
  text, and lose the media of a match without one.

  Main declarations:
    * `Match.shown`
    * `Match.mediaOn`
    * `Extract.AreRowsOf`
    * `Extract.areRowsOf_traits`
    * `Extract.areRowsOf_offers_iff`
    * `Extract.rows_of_matches`
-/

namespace Gleaner

------------------------------------------------------------
-- What a Match Has to Show
------------------------------------------------------------

namespace Match

variable {N : Type}
variable [Cursor N]

/- The text that a reader sees, or the numbers with commas between. -/
def shown (m : Match N) : String :=
  match m.hit with
  | .node n => Extract.shownText n
  | .values vs => String.intercalate "," vs

/- The addresses of the media in a node; numbers have no media. -/
def mediaOn (page : Page) (m : Match N) : List String :=
  match m.hit with
  | .node n => page.mediaUrls (Cursor.inlineMedia n)
  | .values _ => []

/- The first number in a match, if it has one. -/
def price (m : Match N) : String :=
  match m.hit with
  | .node n => (Decimal.values (Extract.shownText n)).head?.getD ""
  | .values vs => vs.head?.getD ""

end Match

/- A row without its medium. -/
def Trait.bare (t : Trait) : Trait :=
  { t with media := "" }

/- A row without its medium. -/
def Offer.bare (o : Offer) : Offer :=
  { o with media := "" }

namespace Extract

------------------------------------------------------------
-- Rows over Media
------------------------------------------------------------

section Media

variable {α : Type}
variable (medium : α → String) (bare : α → α)

/-
  There is a row for each of the media in their order, or a row
  without a medium if there are no media but a text.  The rows
  differ in their media alone.
-/
structure AreRowsOf
    (text : String)
    (media : List String)
    (rows : List α) : Prop where
  count : rows.length =
    if text = "" ∧ media = [] then 0 else max 1 media.length
  linked : media ≠ [] → rows.map medium = media
  blank : media = [] → ∀ r ∈ rows, medium r = ""
  alike : ∀ r ∈ rows, ∀ other ∈ rows, bare r = bare other

variable {medium bare}
variable {text : String} {media : List String} {row : String → α}

/- Without a text and media there are no rows. -/
theorem areRowsOf_nil :
    AreRowsOf medium bare "" [] [] where
  count := rfl
  linked h := absurd rfl h
  blank _ _ hr := absurd hr List.not_mem_nil
  alike _ hr := absurd hr List.not_mem_nil

/- The rows over some media are those of a match with a text or media. -/
theorem areRowsOf_overMedia
    (hMedium : ∀ u, medium (row u) = u)
    (hBare : ∀ u w, bare (row u) = bare (row w))
    (hSome : ¬ (text = "" ∧ media = [])) :
    AreRowsOf medium bare text media (overMedia row media) := by
  unfold overMedia
  cases media with
  | nil =>
      constructor
      · rw [if_neg hSome]
        rfl
      · exact fun h => absurd rfl h
      · intro _ r hr
        rw [List.mem_singleton.mp hr]
        exact hMedium ""
      · intro r hr other hOther
        rw [List.mem_singleton.mp hr, List.mem_singleton.mp hOther]
  | cons u media =>
      rw [List.isEmpty_cons, if_neg Bool.false_ne_true]
      constructor
      · rw [if_neg hSome, List.length_map, List.length_cons]
        omega
      · intro _
        have hSame : medium ∘ row = id := funext hMedium
        rw [List.map_map, hSame, List.map_id]
      · exact fun h => absurd h (List.cons_ne_nil _ _)
      · intro r hr other hOther
        rcases List.mem_map.mp hr with ⟨w, _, rfl⟩
        rcases List.mem_map.mp hOther with ⟨w', _, rfl⟩
        exact hBare w w'

end Media

------------------------------------------------------------
-- Rows of Matches
------------------------------------------------------------

section Matches

variable {N : Type}
variable [Cursor N]
variable (page : Page) (m : Match N)

/- The rows of the specification ask for a text or for media. -/
theorem traits_eq :
    traits page m =
      if m.shown = "" ∧ m.mediaOn page = [] then []
      else
        overMedia
          (fun medium => ⟨page.domain, m.position.style, m.position.key,
            m.shown, medium⟩)
          (m.mediaOn page) := by
  simp only [← String.isEmpty_iff, ← List.isEmpty_iff,
    ← Bool.and_eq_true]
  unfold traits Match.shown Match.mediaOn mediaOf
  cases m.hit with
  | node n => rfl
  | values vs => rfl

/- The rows of the specification come from the text and the media. -/
theorem areRowsOf_traits :
    AreRowsOf Trait.media Trait.bare m.shown (m.mediaOn page)
      (traits page m) := by
  rw [traits_eq]
  by_cases hNone : m.shown = "" ∧ m.mediaOn page = []
  · rw [if_pos hNone, hNone.1, hNone.2]
    exact areRowsOf_nil
  · rw [if_neg hNone]
    exact areRowsOf_overMedia (fun _ => rfl) (fun _ _ => rfl) hNone

/- The rows of the goods ask for a text, whatever media there are. -/
theorem offers_eq :
    offers page m =
      if m.shown = "" then []
      else
        overMedia (fun medium => ⟨page.domain, m.price, m.shown, medium⟩)
          (m.mediaOn page) := by
  simp only [← String.isEmpty_iff]
  unfold offers Match.shown Match.mediaOn Match.price mediaOf
  cases m.hit with
  | node n => rfl
  | values vs => rfl

/- A match without a text has no rows among the goods. -/
theorem offers_of_shown_eq_empty
    (hText : m.shown = "") :
    offers page m = [] := by
  rw [offers_eq, if_pos hText]

/-
  The rows of the goods come from the text and the media exactly if
  there are no media without a text.
-/
theorem areRowsOf_offers_iff :
    AreRowsOf Offer.media Offer.bare m.shown (m.mediaOn page)
        (offers page m) ↔
      (m.shown = "" → m.mediaOn page = []) := by
  by_cases hText : m.shown = ""
  · rw [offers_of_shown_eq_empty page m hText]
    constructor
    · intro hRows _
      by_contra hMedia
      exact hMedia (hRows.linked hMedia).symm
    · intro hNone
      rw [hText, hNone hText]
      exact areRowsOf_nil
  · rw [offers_eq, if_neg hText]
    exact iff_of_true
      (areRowsOf_overMedia (fun _ => rfl) (fun _ _ => rfl)
        fun hNone => hText hNone.1)
      (fun hEmpty => absurd hEmpty hText)

end Matches

------------------------------------------------------------
-- Rows of a Field
------------------------------------------------------------

section Fields

variable {N : Type}
variable [Cursor N]

/- The rows of a field are those of the matches of one candidate. -/
theorem exists_candidate_of_rows
    {α : Type}
    {rowsOf : Match N → List α}
    {root : N}
    {candidates : List Selector}
    {rows : List α}
    (hRows :
      firstUseful root (fun found => nonEmpty (found.flatMap rowsOf))
        candidates = some rows) :
    ∃ before s after, candidates = before ++ s :: after ∧
      (∀ b ∈ before,
        firstUseful root (fun found => nonEmpty (found.flatMap rowsOf))
          [b] = none) ∧
      rows = (s.resolve root).flatMap rowsOf := by
  rcases exists_candidate_of_firstUseful _ _ hRows with
    ⟨before, s, after, hOrder, hBefore, hHere⟩
  exact ⟨before, s, after, hOrder, hBefore,
    (nonEmpty_eq_some_iff.mp hHere).2.symm⟩

/-
  Specification and goods are the rows of the matches of the first
  candidate that has rows.  In the specification every match has
  the rows that its text and its media ask for.  Among the goods
  every match has, but for those with media and no text, which
  have no rows.
-/
theorem rows_of_matches
    (root : N)
    (page : Page)
    (candidates : List Selector) :
    (∀ rows, specification root page candidates = some rows →
      ∃ before s after, candidates = before ++ s :: after ∧
        (∀ b ∈ before, specification root page [b] = none) ∧
        rows = (s.resolve root).flatMap (traits page) ∧
        ∀ m ∈ s.resolve root,
          AreRowsOf Trait.media Trait.bare m.shown (m.mediaOn page)
            (traits page m)) ∧
    (∀ rows, goods root page candidates = some rows →
      ∃ before s after, candidates = before ++ s :: after ∧
        (∀ b ∈ before, goods root page [b] = none) ∧
        rows = (s.resolve root).flatMap (offers page) ∧
        ∀ m ∈ s.resolve root,
          (AreRowsOf Offer.media Offer.bare m.shown (m.mediaOn page)
              (offers page m) ↔
            (m.shown = "" → m.mediaOn page = [])) ∧
          (m.shown = "" → offers page m = [])) := by
  constructor
  · intro rows hRows
    rcases exists_candidate_of_rows hRows with
      ⟨before, s, after, hOrder, hBefore, hAll⟩
    exact ⟨before, s, after, hOrder, hBefore, hAll,
      fun m _ => areRowsOf_traits page m⟩
  · intro rows hRows
    rcases exists_candidate_of_rows hRows with
      ⟨before, s, after, hOrder, hBefore, hAll⟩
    exact ⟨before, s, after, hOrder, hBefore, hAll,
      fun m _ => ⟨areRowsOf_offers_iff page m,
        offers_of_shown_eq_empty page m⟩⟩

end Fields

------------------------------------------------------------
-- Media without a Text
------------------------------------------------------------

open Markup (Element Node)
open Template.Field (shopPage)

/- A bundle that shows a text. -/
def textBundle : Node :=
  .element ⟨.html, "li", []⟩ [.text "USD 12"]

/- A bundle that shows a picture alone. -/
def pictureBundle : Node :=
  .element ⟨.html, "li", []⟩
    [.element ⟨.html, "img", [⟨.plain, "src", "/two.jpg"⟩]⟩ []]

/- A list of the two bundles. -/
def bundles : Element :=
  ⟨true, [], ⟨.html, "ul", []⟩, [textBundle, pictureBundle]⟩

/- The bundles as elements of the list. -/
def textItem : Element :=
  ⟨true, [⟨bundles.tag, [], [pictureBundle]⟩], ⟨.html, "li", []⟩,
    [.text "USD 12"]⟩

def pictureItem : Element :=
  ⟨true, [⟨bundles.tag, [textBundle], []⟩], ⟨.html, "li", []⟩,
    [.element ⟨.html, "img", [⟨.plain, "src", "/two.jpg"⟩]⟩ []]⟩

/- The items of a list. -/
def bundleItems : Selector :=
  ⟨"li", [], ⟨["li"], none⟩⟩

/- Both bundles are found, the one with its text and the other without. -/
theorem resolve_bundles :
    ∃ first second : Match Element,
      bundleItems.resolve bundles = [first, second] ∧
        first.shown = "USD 12" ∧ first.mediaOn shopPage = [] ∧
        second.shown = "" ∧
        second.mediaOn shopPage = ["http://a.example/two.jpg"] := by
  have hLower : "li".toLower = "li" := by decide +kernel
  have hNamed : bundles.named "li" =
      Cursor.keepNew [] [textItem, pictureItem] := by
    simp [Element.named, Element.below, Element.among, Css.nameOn,
      bundles, textBundle, pictureBundle, textItem, pictureItem, hLower]
  have hKept : Cursor.keepNew [] [textItem, pictureItem] =
      [textItem, pictureItem] :=
    rfl
  have hMatches : bundleItems.resolve bundles =
      [⟨.node textItem, .outside⟩, ⟨.node pictureItem, .outside⟩] := by
    rw [bundleItems, Element.resolve_name rfl (by decide +kernel),
      hNamed, hKept]
    rfl
  rw [hMatches]
  refine ⟨_, _, rfl, ?_, ?_, ?_, ?_⟩
  · decide +kernel
  · show shopPage.mediaUrls (Markup.inlineMedia textItem) = _
    rw [Markup.inlineMedia_eq]
    decide +kernel
  · decide +kernel
  · show shopPage.mediaUrls (Markup.inlineMedia pictureItem) = _
    rw [Markup.inlineMedia_eq]
    decide +kernel

/- The specification has a row for each bundle, the goods have one row. -/
theorem rows_of_bundles :
    (∃ rows, specification bundles shopPage [bundleItems] = some rows ∧
      rows.map Trait.media = ["", "http://a.example/two.jpg"]) ∧
    ∃ rows, goods bundles shopPage [bundleItems] = some rows ∧
      rows.map Offer.media = [""] := by
  rcases resolve_bundles with
    ⟨first, second, hFound, hText, hNone, hNoText, hPicture⟩
  constructor
  · refine ⟨[first, second].flatMap (traits shopPage), ?_, ?_⟩
    · rw [specification, firstUseful, List.findSome?_singleton, hFound]
      simp [nonEmpty_eq_some_iff, traits_eq, hText, hNone, overMedia]
    · simp [traits_eq, hText, hNone, hNoText, hPicture, overMedia]
  · refine ⟨[first, second].flatMap (offers shopPage), ?_, ?_⟩
    · rw [goods, firstUseful, List.findSome?_singleton, hFound]
      simp [nonEmpty_eq_some_iff, offers_eq, hText, hNone, overMedia]
    · simp [offers_eq, hText, hNone, hNoText, overMedia]

theorem rows_of_matches_sample :
    (∃ rows, specification bundles shopPage [bundleItems] = some rows ∧
      ∃ before s after, [bundleItems] = before ++ s :: after ∧
        (∀ b ∈ before, specification bundles shopPage [b] = none) ∧
        rows = (s.resolve bundles).flatMap (traits shopPage) ∧
        ∀ m ∈ s.resolve bundles,
          AreRowsOf Trait.media Trait.bare m.shown (m.mediaOn shopPage)
            (traits shopPage m)) ∧
    ∃ rows, goods bundles shopPage [bundleItems] = some rows ∧
      ∃ before s after, [bundleItems] = before ++ s :: after ∧
        (∀ b ∈ before, goods bundles shopPage [b] = none) ∧
        rows = (s.resolve bundles).flatMap (offers shopPage) ∧
        ∀ m ∈ s.resolve bundles,
          (AreRowsOf Offer.media Offer.bare m.shown (m.mediaOn shopPage)
              (offers shopPage m) ↔
            (m.shown = "" → m.mediaOn shopPage = [])) ∧
          (m.shown = "" → offers shopPage m = []) := by
  rcases rows_of_bundles with ⟨⟨traits, hTraits, _⟩, offers, hOffers, _⟩
  have hMatches := rows_of_matches bundles shopPage [bundleItems]
  exact ⟨⟨traits, hTraits, hMatches.1 traits hTraits⟩,
    offers, hOffers, hMatches.2 offers hOffers⟩

/- The picture of the bundle without a text is in no row of the goods. -/
theorem picture_without_text_is_lost :
    ∃ rows, goods bundles shopPage [bundleItems] = some rows ∧
      ∃ m ∈ bundleItems.resolve bundles,
        m.mediaOn shopPage = ["http://a.example/two.jpg"] ∧
        offers shopPage m = [] ∧
        ∀ r ∈ rows, r.media ≠ "http://a.example/two.jpg" := by
  rcases resolve_bundles with
    ⟨first, second, hFound, _, _, hNoText, hPicture⟩
  rcases rows_of_bundles.2 with ⟨rows, hRows, hMedia⟩
  refine ⟨rows, hRows, second, ?_, hPicture,
    offers_of_shown_eq_empty shopPage second hNoText, ?_⟩
  · rw [hFound]
    exact List.mem_cons_of_mem _ List.mem_cons_self
  · intro r hr hLost
    have hIn := List.mem_map_of_mem (f := Offer.media) hr
    rw [hMedia, hLost, List.mem_singleton] at hIn
    exact absurd hIn (by decide)

end Extract

end Gleaner
