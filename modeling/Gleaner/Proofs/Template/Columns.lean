import Gleaner.Proofs.Selector.Cutting
import Gleaner.Proofs.Template.Merging
import Gleaner.Proofs.Text.Pieces

/-
  Columns that are written from expressions.  They are read back
  as these expressions exactly if no expression has a plus sign,
  inside brackets and quotes as well.

  Main declarations:
    * `Selector.IsSource`
    * `Template.written`
    * `Template.not_mem_source_of_mem_readList`
    * `Template.readList_written`
    * `Template.ofRow_loads_iff`
-/

namespace Gleaner

------------------------------------------------------------
-- Expressions and Their Texts
------------------------------------------------------------

namespace Selector

/- The expression is what its text is read as, and that is trimmed. -/
structure IsSource (s : Selector) : Prop where
  parsed : parse s.source = .ok s
  trimmed : Text.trim s.source.toList = s.source.toList

/- An expression keeps the text that it was read from. -/
theorem source_of_parse
    {source : String}
    {s : Selector}
    (hParse : parse source = .ok s) :
    s.source = source := by
  unfold parse at hParse
  split at hParse
  · cases hParse
    rfl
  · cases hParse

/- An empty text is no expression. -/
theorem IsSource.ne_nil
    {s : Selector}
    (hSource : s.IsSource) :
    s.source.toList ≠ [] := by
  intro hNone
  have hParse := hSource.parsed
  rw [parse, hNone] at hParse
  cases hParse

end Selector

namespace Template

------------------------------------------------------------
-- Columns
------------------------------------------------------------

/- The column that lists some expressions. -/
def written (selectors : List Selector) : String :=
  String.ofList
    (Text.joinWith ['+'] (selectors.map (·.source.toList)))

/- No expression that is read from a column has a plus sign. -/
theorem not_mem_source_of_mem_readList
    {column : String}
    {s : Selector}
    (hs : s ∈ readList column) :
    '+' ∉ s.source.toList := by
  rcases List.mem_filterMap.mp hs with ⟨piece, hPiece, hRead⟩
  rcases List.mem_map.mp (List.mem_filter.mp hPiece).1 with
    ⟨cut, hCut, rfl⟩
  cases hParse : Selector.parse (String.ofList (Text.trim cut)) with
  | error e =>
      rw [hParse] at hRead
      cases hRead
  | ok found =>
      rw [hParse] at hRead
      cases hRead
      rw [Selector.source_of_parse hParse, String.toList_ofList]
      intro hPlus
      have hNot :=
        Text.not_isCut_of_mem_cutAt hCut (Text.mem_of_mem_trim hPlus)
      exact absurd hNot (by decide)

/- A column of expressions without plus signs is read back. -/
theorem readList_written
    {selectors : List Selector}
    (hSources : ∀ s ∈ selectors, s.IsSource)
    (hPlain : ∀ s ∈ selectors, '+' ∉ s.source.toList) :
    readList (written selectors) = selectors := by
  by_cases hNone : selectors = []
  · subst hNone
    rfl
  · have hCut :
        Text.cutAt (· == '+')
          (Text.joinWith ['+'] (selectors.map (·.source.toList))) =
        selectors.map (·.source.toList) := by
      apply Text.cutAt_joinWith
      · simpa using hNone
      · intro piece hPiece
        rcases List.mem_map.mp hPiece with ⟨s, hs, rfl⟩
        exact hPlain s hs
    have hTrim :
        (selectors.map (·.source.toList)).map Text.trim =
          selectors.map (·.source.toList) := by
      rw [List.map_map]
      exact List.map_congr_left fun s hs => (hSources s hs).trimmed
    have hKept :
        (selectors.map (·.source.toList)).filter (!·.isEmpty) =
          selectors.map (·.source.toList) := by
      rw [List.filter_eq_self]
      intro piece hPiece
      rcases List.mem_map.mp hPiece with ⟨s, hs, rfl⟩
      simpa using (hSources s hs).ne_nil
    have hRead :
        selectors.filterMap (fun s => (Selector.parse s.source).toOption) =
          selectors := by
      nth_rewrite 2 [← List.filterMap_some (l := selectors)]
      apply List.filterMap_congr
      intro s hs
      rw [(hSources s hs).parsed]
      rfl
    simp only [readList, written, String.toList_ofList, hCut, hTrim, hKept,
      List.filterMap_map, Function.comp_def, String.ofList_toList, hRead]

/- A column is read back exactly if no expression has a plus sign. -/
theorem readList_written_iff
    {selectors : List Selector}
    (hSources : ∀ s ∈ selectors, s.IsSource) :
    readList (written selectors) = selectors ↔
      ∀ s ∈ selectors, '+' ∉ s.source.toList := by
  constructor
  · intro hRead s hs
    rw [← hRead] at hs
    exact not_mem_source_of_mem_readList hs
  · exact readList_written hSources

------------------------------------------------------------
-- Rows
------------------------------------------------------------

/-
  A row loads a field whose column lists some expressions as
  these expressions, in their order, exactly if none of them has
  a plus sign, wherever the sign stands.
-/
theorem ofRow_loads_iff
    {fields : List String}
    {t : Template}
    {selectors : List Selector}
    (hRow : ofRow fields = .ok t)
    (hSources : ∀ s ∈ selectors, s.IsSource) :
    (column fields 3 = written selectors →
      (t.order = selectors ↔
        ∀ s ∈ selectors, '+' ∉ s.source.toList)) ∧
    ∀ f : Field, column fields f.number = written selectors →
      (t.candidates f = selectors ↔
        ∀ s ∈ selectors, '+' ∉ s.source.toList) := by
  have hMerged := isMerged_of_ofRow hRow
  have hLoads : ∀ {text : String} {loaded : List Selector},
      loaded = listed text → text = written selectors →
        (loaded = selectors ↔
          ∀ s ∈ selectors, '+' ∉ s.source.toList) := by
    rintro text loaded rfl rfl
    rw [← readList_eq_listed]
    exact readList_written_iff hSources
  constructor
  · exact hLoads (Option.some.inj hMerged.order).symm
  · intro f
    apply hLoads
    rw [hMerged.candidates, List.flatMap_singleton]

/- An expression without levels, of one label. -/
def labelSample (label : String) : Selector :=
  ⟨label, [], ⟨[label], none⟩⟩

/- The row of a shop with one column of candidates for the cover. -/
def coverRow (cover : String) : List String :=
  ["shop.example", "html", "", cover, "", "", "", "", "", "", ""]

/- A list of two expressions is loaded from its column. -/
theorem ofRow_loads_iff_sample :
    (ofRow (coverRow "a[href='x;y']+.b")).map (·.cover) =
      .ok [labelSample "a[href='x;y']", labelSample ".b"] := by
  have hSources : ∀ s ∈ [labelSample "a[href='x;y']", labelSample ".b"],
      s.IsSource := by
    intro s hs
    simp only [List.mem_cons, List.not_mem_nil, or_false] at hs
    rcases hs with rfl | rfl
    · exact ⟨by decide +kernel, by decide +kernel⟩
    · exact ⟨by decide +kernel, by decide +kernel⟩
  have hUsable : IsUsable (coverRow "a[href='x;y']+.b") := by
    decide +kernel
  rcases exists_ofRow_iff.mpr hUsable with ⟨t, hRow⟩
  have hCover : t.candidates .cover =
      [labelSample "a[href='x;y']", labelSample ".b"] :=
    ((ofRow_loads_iff hRow hSources).2 .cover (by decide +kernel)).mpr
      (by decide +kernel)
  rw [hRow]
  exact congrArg Except.ok hCover

/-
  A plus sign inside brackets cuts a column, though at the top
  level there is none: the expression is read, and it is lost from
  the column that lists it alone.
-/
theorem nested_plus_is_cut :
    (labelSample "li:nth-child(2n+1)").IsSource ∧
    Selector.isUncut '+' .closed "li:nth-child(2n+1)".toList = true ∧
    written [labelSample "li:nth-child(2n+1)"] = "li:nth-child(2n+1)" ∧
    (ofRow (coverRow "li:nth-child(2n+1)")).map (·.cover) = .ok [] :=
  ⟨⟨by decide +kernel, by decide +kernel⟩, by decide +kernel,
    by decide +kernel, by decide +kernel⟩

end Template

end Gleaner
