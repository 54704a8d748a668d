import Gleaner.Proofs.Tree.Page

/-
  Labels that narrow the nodes of a page one after the other.
  The nodes stay in document order as long as no label overtakes,
  which only a label that speaks of the scope can do, and only
  among nodes inside one another.

  Main declarations:
    * `Cursor.selectEach`
    * `Markup.Element.isListing_iff_sublist`
    * `Markup.Element.Overtakes`
    * `Markup.Element.isListing_selectAll_iff`
    * `Markup.selectEach_sublist_iff`
-/

namespace Gleaner

namespace Cursor

variable {N : Type}
variable [Cursor N]

/-
  The nodes that some labels lead to one after the other, unless
  one of the labels cannot be read.
-/
def selectEach
    (nodes : List N)
    (labels : List String) :
    Except UnreadableLabel (List N) :=
  labels.foldlM selectAll nodes

/- The last label is applied to what the others lead to. -/
theorem selectEach_append_singleton
    (nodes : List N)
    (labels : List String)
    (label : String) :
    selectEach nodes (labels ++ [label]) =
      (selectEach nodes labels).bind (selectAll · label) := by
  rw [selectEach, List.foldlM_append]
  congr 1
  funext found
  rw [List.foldlM_cons]
  cases selectAll found label <;> rfl

end Cursor

namespace Markup

namespace Element

open Cursor

------------------------------------------------------------
-- Document Order
------------------------------------------------------------

/- An element of a document is the outermost one or below it. -/
theorem IsIn.mem_cons_below
    {d : Document}
    {x : Element}
    (hx : IsIn d x) :
    x ∈ d.element :: d.element.below := by
  by_cases hPath : x.path = []
  · rw [IsIn, hPath] at hx
    rw [← Option.some.inj hx]
    exact List.mem_cons_self
  · exact List.mem_cons_of_mem _
      (mem_below_iff.mpr ⟨x.path, hPath, hx⟩)

/- Elements in document order are some of those of the document. -/
theorem isListing_iff_sublist
    {d : Document}
    {nodes : List Element} :
    IsListing d nodes ↔ nodes.Sublist (d.element :: d.element.below) := by
  constructor
  · rintro ⟨hIn, hOrdered⟩
    apply sublist_of_subset hOrdered (pairwise_cons_below d.element)
    exact fun x hx => (hIn x hx).mem_cons_below
  · intro hSublist
    refine ⟨?_, (pairwise_cons_below d.element).sublist hSublist⟩
    intro x hx
    rcases List.mem_cons.mp (hSublist.subset hx) with rfl | hBelow
    · exact isIn_element d
    · exact (isIn_element d).below hBelow

/- The outermost element alone is in document order. -/
theorem isListing_element (d : Document) : IsListing d [d.element] :=
  isListing_iff_sublist.mpr
    (List.cons_sublist_cons.mpr (List.nil_sublist _))

------------------------------------------------------------
-- One Label
------------------------------------------------------------

/-
  By a label, an element inside an earlier one finds something
  first that comes before what the earlier one has found.
-/
def Overtakes (label : String) (nodes : List Element) : Prop :=
  ∃ chains, Css.parse? label = some chains ∧
    Overtaken (Css.select chains) nodes

/- A label gathers what the selector matches below each element. -/
theorem selectAll_eq_gather
    {label : String}
    {chains : List Css.Chain}
    (hRead : Css.parse? label = some chains)
    (nodes : List Element) :
    selectAll nodes label = .ok (gather (Css.select chains) nodes) := by
  apply selectAll_of_select
  exact Element.select_of_parse? hRead

/- A label keeps document order exactly if it does not overtake. -/
theorem isListing_selectAll_iff
    {d : Document}
    {label : String}
    {nodes found : List Element}
    (hListing : IsListing d nodes)
    (hFound : selectAll nodes label = .ok found)
    (hReadable : (Css.parse? label).isSome) :
    IsListing d found ↔ ¬ Overtakes label nodes := by
  rcases Option.isSome_iff_exists.mp hReadable with ⟨chains, hRead⟩
  rw [selectAll_eq_gather hRead] at hFound
  cases hFound
  have hBelow : ∀ n, (Css.select chains n).Sublist n.below :=
    fun _ => List.filter_sublist
  rw [isListing_gather_iff hBelow hListing, Overtakes, hRead]
  simp only [Option.some.injEq, exists_eq_left']

/- A label that does not speak of the scope does not overtake. -/
theorem not_overtakes_of_isPlain
    {label : String}
    (hPlain : Css.IsPlain label)
    (nodes : List Element) :
    ¬ Overtakes label nodes := by
  rcases hPlain with ⟨chains, hRead, hScope⟩
  rintro ⟨others, hRead', hOvertaken⟩
  rw [hRead] at hRead'
  cases hRead'
  have hSame : Css.select chains =
      fun n => n.below.filter (Css.anyHolds [] · chains) := by
    funext n
    simp only [Css.select, Css.anyHolds_congr n.path [] _ chains hScope]
  rw [hSame] at hOvertaken
  exact not_overtaken_filter _ nodes hOvertaken

/- No label overtakes among elements that are apart. -/
theorem not_overtakes_of_apart
    {nodes : List Element}
    (hApart : ∀ outer ∈ nodes, ∀ inner ∈ nodes, inner ∉ outer.below)
    (label : String) :
    ¬ Overtakes label nodes := by
  rintro ⟨_, _, outer, hOuter, inner, hInner, hInside, _⟩
  exact hApart outer hOuter inner hInner hInside

end Element

------------------------------------------------------------
-- Many Labels
------------------------------------------------------------

open Element

section Labels

variable {d : Document}
variable {labels : List String}

/- Readable labels lead somewhere. -/
theorem exists_selectEach_eq
    (nodes : List Element)
    (hReadable : ∀ label ∈ labels, (Css.parse? label).isSome) :
    ∃ found, Cursor.selectEach nodes labels = .ok found := by
  induction labels using List.reverseRecOn with
  | nil => exact ⟨nodes, rfl⟩
  | append_singleton front label ih =>
      rw [List.forall_mem_append, List.forall_mem_singleton] at hReadable
      rcases ih hReadable.1 with ⟨found, hFound⟩
      rcases Option.isSome_iff_exists.mp hReadable.2 with
        ⟨chains, hRead⟩
      rw [Cursor.selectEach_append_singleton, hFound]
      exact ⟨_, selectAll_eq_gather hRead found⟩

/- The nodes stay in order if none of the labels overtakes. -/
theorem isListing_selectEach
    (hReadable : ∀ label ∈ labels, (Css.parse? label).isSome)
    (hOrder : ∀ front label nodes, front ++ [label] <+: labels →
      Cursor.selectEach [d.element] front = .ok nodes →
      ¬ Overtakes label nodes)
    {found : List Element}
    (hFound : Cursor.selectEach [d.element] labels = .ok found) :
    IsListing d found := by
  induction labels using List.reverseRecOn generalizing found with
  | nil =>
      cases hFound
      exact isListing_element d
  | append_singleton front label ih =>
      rw [List.forall_mem_append, List.forall_mem_singleton] at hReadable
      rcases exists_selectEach_eq [d.element] hReadable.1 with
        ⟨nodes, hNodes⟩
      rw [Cursor.selectEach_append_singleton, hNodes] at hFound
      have hListing : IsListing d nodes := by
        apply ih hReadable.1 _ hNodes
        intro earlier next found hPrefix
        exact hOrder earlier next found
          (hPrefix.trans (List.prefix_append front [label]))
      exact (isListing_selectAll_iff hListing hFound hReadable.2).mpr
        (hOrder front label nodes (List.prefix_refl _) hNodes)

/- A plain label leads to all matches below the outermost element. -/
theorem mem_iff_of_selectEach_singleton
    {label : String}
    (hPlain : Css.IsPlain label)
    {found : List Element}
    (hFound : Cursor.selectEach [d.element] [label] = .ok found)
    (x : Element) :
    x ∈ found ↔
      x.isBlank = false ∧ x ∈ d.element.below ∧ x.Matches label := by
  have hFirst : Cursor.selectAll [d.element] label = .ok found := by
    rw [← hFound, ← List.nil_append [label],
      Cursor.selectEach_append_singleton]
    rfl
  have hNarrow : Cursor.narrow [d.element] label = found := by
    rw [Cursor.narrow, hFirst]
  rw [← hNarrow, (narrow_of_isListing (isListing_element d) hPlain).2]
  simp only [List.mem_singleton, exists_eq_left]

/-
  Labels that can be read keep the nodes in strict document order
  at every step exactly if none of them overtakes.  A label that
  does not speak of the scope never does, and neither does any
  label among nodes of which none is inside another.
-/
theorem selectEach_sublist_iff
    (d : Document)
    (labels : List String)
    (hReadable : ∀ label ∈ labels, (Css.parse? label).isSome) :
    ((∀ front, front <+: labels →
        ∃ nodes, Cursor.selectEach [d.element] front = .ok nodes ∧
          nodes.Sublist (d.element :: d.element.below)) ↔
      ∀ front label nodes, front ++ [label] <+: labels →
        Cursor.selectEach [d.element] front = .ok nodes →
        ¬ Overtakes label nodes) ∧
    ∀ label nodes,
      (Css.IsPlain label ∨
        ∀ outer ∈ nodes, ∀ inner ∈ nodes, inner ∉ outer.below) →
      ¬ Overtakes label nodes := by
  have hFront : ∀ front, front <+: labels →
      ∀ label ∈ front, (Css.parse? label).isSome :=
    fun front hPrefix label hLabel =>
      hReadable label (hPrefix.subset hLabel)
  refine ⟨⟨?_, ?_⟩, ?_⟩
  · intro hOrdered front label nodes hPrefix hNodes
    have hListing : ∀ front nodes, front <+: labels →
        Cursor.selectEach [d.element] front = .ok nodes →
        IsListing d nodes := by
      intro front nodes hPrefix hNodes
      rcases hOrdered front hPrefix with ⟨_, hSame, hSublist⟩
      rw [hNodes] at hSame
      cases hSame
      exact isListing_iff_sublist.mpr hSublist
    rcases exists_selectEach_eq [d.element] (hFront _ hPrefix) with
      ⟨found, hFound⟩
    have hNext := hListing _ found hPrefix hFound
    rw [Cursor.selectEach_append_singleton, hNodes] at hFound
    have hEarlier := hListing front nodes
      ((List.prefix_append front [label]).trans hPrefix) hNodes
    exact (isListing_selectAll_iff hEarlier hFound
      (hFront _ hPrefix label (by simp))).mp hNext
  · intro hOrder front hPrefix
    rcases exists_selectEach_eq [d.element] (hFront _ hPrefix) with
      ⟨found, hFound⟩
    refine ⟨found, hFound, isListing_iff_sublist.mp ?_⟩
    apply isListing_selectEach (hFront _ hPrefix) _ hFound
    intro earlier label nodes hEarlier
    exact hOrder earlier label nodes (hEarlier.trans hPrefix)
  · rintro label nodes (hPlain | hApart)
    · exact not_overtakes_of_isPlain hPlain nodes
    · exact not_overtakes_of_apart hApart label

end Labels

/- The children of the scope that have a name. -/
def scopeChild (name : String) : List Css.Chain :=
  [.step (.single [.scope]) .child [.name name]]

/- Children of the scope are written behind an angle. -/
theorem parse?_scopeChild
    {label name : String}
    (hLabel : Css.tokenize label =
      [.colon, .ident "scope", .space, .delim '>', .space, .ident name]) :
    Css.parse? label = some (scopeChild name) := by
  have hScope : Css.readPseudo? "scope" = some .scope := by
    have hLower : "scope".toLower = "scope" := by decide +kernel
    rw [Css.readPseudo?, hLower]
    rfl
  rw [Css.parse?_of_isFlat (by simp [hLabel, Css.Token.isFlat]), hLabel]
  simp [Css.readList, Css.splitCommas, Css.readChain, Css.readCompound,
    Css.skipSpace, Css.readType, Css.readConditions, hScope,
    Css.readSteps, Css.readCombinator, scopeChild]

/- Only the parent of an element has it for a child. -/
theorem parent_of_scopeChild
    {scope : List Nat}
    {name : String}
    {x : Element}
    (hx : Css.anyHolds scope x (scopeChild name) = true) :
    ∃ a, x.parent? = some a ∧ a.path = scope := by
  simp only [scopeChild, Css.anyHolds, Css.Chain.holds, Css.allHold,
    Css.Simple.holds, Bool.or_false, Bool.and_true, Bool.and_eq_true,
    Option.any_eq_true] at hx
  rcases hx.2 with ⟨a, hParent, hPath⟩
  exact ⟨a, hParent, beq_iff_eq.mp hPath⟩

/-
  The children of the outermost element come in order, and so do
  the paragraphs below them.
-/
theorem selectEach_sublist_iff_sample :
    (∀ label ∈ [":scope > div", "p"], (Css.parse? label).isSome) ∧
      ∀ front, front <+: [":scope > div", "p"] →
        ∃ nodes,
          Cursor.selectEach [nestedBoxes.element] front = .ok nodes ∧
          nodes.Sublist
            (nestedBoxes.element :: nestedBoxes.element.below) := by
  have hParagraph : Css.IsPlain "p" :=
    ⟨_, Css.parse?_of_tokenize_eq rfl, rfl⟩
  have hReadable : ∀ label ∈ [":scope > div", "p"],
      (Css.parse? label).isSome := by
    intro label hLabel
    rcases List.mem_pair.mp hLabel with rfl | rfl
    · rw [parse?_scopeChild rfl]
      rfl
    · rw [Css.parse?_of_tokenize_eq rfl]
      rfl
  rcases selectEach_sublist_iff nestedBoxes _ hReadable with
    ⟨hInOrder, hNever⟩
  refine ⟨hReadable, hInOrder.mpr ?_⟩
  rintro front label nodes ⟨rest, hSame⟩ hNodes
  apply hNever
  match front with
  | [] =>
      right
      cases hNodes
      intro outer hOuter inner hInner hInside
      have hLess := lt_of_mem_below hInside
      rw [List.mem_singleton.mp hOuter, List.mem_singleton.mp hInner]
        at hLess
      exact List.lt_irrefl _ hLess
  | [_] =>
      left
      cases hSame
      exact hParagraph
  | _ :: _ :: _ => simp at hSame

/- The paragraph in the inner box stands in front of the other. -/
theorem nestedBoxes_places :
    ∃ outer ∈ nestedBoxes.element.below, ∃ inner ∈ outer.below,
      ∃ x ∈ inner.below, ∃ y ∈ outer.below,
        outer.Matches "div" ∧ inner.Matches "div" ∧
        outer.isBlank = false ∧ inner.isBlank = false ∧
        x.isBlank = false ∧ y.isBlank = false ∧ x.path < y.path ∧
        Css.anyHolds inner.path x (scopeChild "p") = true ∧
        Css.anyHolds outer.path y (scopeChild "p") = true := by
  have hDiv : Css.parse? "div" = some [.single [.name "div"]] :=
    Css.parse?_of_tokenize_eq rfl
  have hChild : ∀ {e c : Element} {i : Nat}, e.at? [i] = some c →
      c ∈ e.below :=
    fun hAt => mem_below_iff.mpr ⟨_, List.cons_ne_nil _ _, hAt⟩
  refine ⟨_, hChild (i := 0) rfl, _, hChild (i := 0) rfl,
    _, hChild (i := 0) rfl, _, hChild (i := 1) rfl,
    ⟨_, hDiv, ?_⟩, ⟨_, hDiv, ?_⟩, rfl, rfl, rfl, rfl, ?_, ?_, ?_⟩
  all_goals decide +kernel

/-
  The paragraph in the inner box comes before the one that is a
  child of the outer box, which is found first.
-/
theorem scope_child_overtakes :
    (∀ label ∈ ["div", ":scope > p"], (Css.parse? label).isSome) ∧
      ¬ ∀ front, front <+: ["div", ":scope > p"] →
        ∃ nodes,
          Cursor.selectEach [nestedBoxes.element] front = .ok nodes ∧
          nodes.Sublist
            (nestedBoxes.element :: nestedBoxes.element.below) := by
  have hDiv : Css.parse? "div" = some [.single [.name "div"]] :=
    Css.parse?_of_tokenize_eq rfl
  have hChild : Css.parse? ":scope > p" = some (scopeChild "p") :=
    parse?_scopeChild rfl
  refine ⟨by simp [hDiv, hChild], ?_⟩
  intro hOrdered
  rcases hOrdered ["div"] (by decide) with ⟨boxes, hBoxes, hSublist⟩
  rcases hOrdered _ (List.prefix_refl _) with ⟨found, hFound, hSublist'⟩
  have hListing := isListing_iff_sublist.mpr hSublist
  have hStep : Cursor.selectAll boxes ":scope > p" = .ok found := by
    have hLast := Cursor.selectEach_append_singleton
      [nestedBoxes.element] ["div"] ":scope > p"
    rw [hBoxes] at hLast
    exact hLast.symm.trans hFound
  have hMem :=
    mem_iff_of_selectEach_singleton ⟨_, hDiv, rfl⟩ hBoxes
  apply (isListing_selectAll_iff hListing hStep (by simp [hChild])).mp
    (isListing_iff_sublist.mpr hSublist')
  rcases nestedBoxes_places with
    ⟨outer, hOuter, inner, hInner, x, hx, y, hy, hBox, hBox', hFilled,
      hFilled', hFilledX, hFilledY, hLess, hFirst, hSecond⟩
  refine ⟨_, hChild, outer, (hMem outer).mpr ⟨hFilled, hOuter, hBox⟩,
    inner,
    (hMem inner).mpr ⟨hFilled', mem_below_trans hOuter hInner, hBox'⟩,
    hInner, x, List.mem_filter.mpr ⟨hx, hFirst⟩,
    y, List.mem_filter.mpr ⟨hy, hSecond⟩, hFilledX, hFilledY, hLess, ?_⟩
  intro n _ hEarlier hOther
  rcases parent_of_scopeChild hFirst with ⟨a, hParent, hPath⟩
  rcases parent_of_scopeChild (List.mem_filter.mp hOther).2 with
    ⟨b, hParent', hPath'⟩
  rw [hParent] at hParent'
  cases hParent'
  rw [← hPath, ← hPath'] at hEarlier
  exact List.lt_irrefl _ hEarlier

end Markup

end Gleaner
