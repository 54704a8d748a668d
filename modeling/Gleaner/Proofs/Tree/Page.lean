import Gleaner.Proofs.Css.Scope
import Gleaner.Proofs.Tree.Gathering

/-
  Paths through pages of markup.  Labels that do not speak of
  the scope lead to the elements at the ends of the chains of
  matches, in document order and each of them once.

  Main declarations:
    * `Markup.Element.Matches`
    * `Markup.Element.Descends`
    * `Markup.Element.mem_pool_iff`
    * `Markup.Element.IsListing.pool`
    * `Markup.resolvePath_element`
-/

namespace Gleaner

namespace Markup

namespace Element

open Cursor

------------------------------------------------------------
-- Chains of Matches
------------------------------------------------------------

/-
  An element is matched by the selector that a label is, in the
  scope of the whole document.
-/
def Matches (x : Element) (label : String) : Prop :=
  ∃ chains, Css.parse? label = some chains ∧
    Css.anyHolds [] x chains = true

/-
  Some labels lead from an element to one below, through an
  element that is not blank for each of them.
-/
inductive Descends : Path → Element → Element → Prop
  | here
      {x : Element}
      (hFilled : x.isBlank = false) :
      Descends [] x x
  | there
      {label : String}
      {path : Path}
      {n m x : Element}
      (hFilled : n.isBlank = false)
      (hBelow : m ∈ n.below)
      (hMatches : m.Matches label)
      (hRest : Descends path m x) :
      Descends (label :: path) n x

/- A chain of matches starts at an element that is not blank. -/
theorem Descends.isBlank_eq
    {path : Path}
    {n x : Element}
    (hChain : Descends path n x) :
    n.isBlank = false := by
  cases hChain with
  | here hFilled => exact hFilled
  | there hFilled => exact hFilled

/- A plain label selects the elements below that it matches. -/
theorem exists_select_eq
    {label : String}
    (hPlain : Css.IsPlain label) :
    ∃ p : Element → Bool,
      (∀ n : Element, n.select label = .ok (n.below.filter p)) ∧
      ∀ x : Element, p x = true ↔ x.Matches label := by
  rcases hPlain with ⟨chains, hRead, hScope⟩
  refine ⟨(Css.anyHolds [] · chains), ?_, ?_⟩
  · intro n
    have hSame : ∀ x : Element,
        Css.anyHolds n.path x chains = Css.anyHolds [] x chains :=
      fun x => Css.anyHolds_congr n.path [] x chains hScope
    simp only [select, hRead, Css.select, hSame]
  · intro x
    rw [Matches, hRead]
    simp

/- A chain of matches ends at its start or below it. -/
theorem Descends.mem_cons_below
    {path : Path}
    {n x : Element}
    (hChain : Descends path n x) :
    x ∈ n :: n.below := by
  induction hChain with
  | here => exact List.mem_cons_self
  | there _ hBelow _ _ ih =>
      apply List.mem_cons_of_mem
      rcases List.mem_cons.mp ih with rfl | hx
      · exact hBelow
      · exact mem_below_trans hBelow hx

------------------------------------------------------------
-- One Step
------------------------------------------------------------

section Step

variable {d : Document}
variable {nodes : List Element}
variable (p : Element → Bool)

/- What some elements have below them, each element once. -/
def pool (nodes : List Element) : List Element :=
  keepNew [] (nodes.flatMap fun n => n.below.filter p)

/- All that is below some element is pooled, but for blank elements. -/
theorem mem_pool_iff
    (hIn : ∀ n ∈ nodes, IsIn d n)
    {x : Element} :
    x ∈ pool p nodes ↔
      x.isBlank = false ∧ ∃ n ∈ nodes, x ∈ n.below ∧ p x = true := by
  rw [pool, ← gather, mem_gather_iff (fun _ => List.filter_sublist) hIn]
  simp only [List.mem_filter]

/-
  No element is overtaken in a pool: what is below an element
  inside an earlier one is below that earlier one as well.
-/
theorem not_overtaken_filter (nodes : List Element) :
    ¬ Overtaken (fun n => n.below.filter p) nodes := by
  rintro ⟨outer, hOuter, inner, _, hInside, x, hx, _, _, _, _, _, hNew⟩
  rcases List.mem_filter.mp hx with ⟨hBelow, hMatches⟩
  exact hNew outer hOuter (lt_of_mem_below hInside)
    (List.mem_filter.mpr ⟨mem_below_trans hInside hBelow, hMatches⟩)

/- What is pooled comes in the order of the paths. -/
theorem IsListing.pool (hListing : IsListing d nodes) :
    IsListing d (Element.pool p nodes) :=
  (isListing_gather_iff (fun _ => List.filter_sublist) hListing).mpr
    (not_overtaken_filter p nodes)

end Step

------------------------------------------------------------
-- Whole Paths
------------------------------------------------------------

section Paths

variable {d : Document}

/- Elements that are left out leave a listing. -/
theorem IsListing.filter
    {nodes : List Element}
    (hListing : IsListing d nodes)
    (p : Element → Bool) :
    IsListing d (nodes.filter p) := by
  constructor
  · intro x hx
    exact hListing.isIn x (List.mem_filter.mp hx).1
  · exact hListing.ordered.filter p

/- A step by a plain label leads to the matches below, in order. -/
theorem narrow_of_isListing
    {nodes : List Element}
    {label : String}
    (hListing : IsListing d nodes)
    (hPlain : Css.IsPlain label) :
    IsListing d (narrow nodes label) ∧
      ∀ x, x ∈ narrow nodes label ↔
        x.isBlank = false ∧ ∃ n ∈ nodes, x ∈ n.below ∧ x.Matches label := by
  rcases exists_select_eq hPlain with ⟨p, hSelect, hMatches⟩
  have hPool : narrow nodes label = pool p nodes :=
    narrow_of_select hSelect
  rw [hPool]
  refine ⟨hListing.pool p, ?_⟩
  intro x
  rw [mem_pool_iff p hListing.isIn, hMatches]

/- Plain labels lead to the ends of the chains of matches, in order. -/
theorem resolvePath_of_isListing
    {nodes : List Element}
    {path : Path}
    (hListing : IsListing d nodes)
    (hPlain : ∀ label ∈ path, Css.IsPlain label) :
    IsListing d (resolvePath nodes path) ∧
      ∀ x, x ∈ resolvePath nodes path ↔
        ∃ n ∈ nodes, Descends path n x := by
  induction path generalizing nodes with
  | nil =>
      rw [resolvePath_nil]
      refine ⟨hListing.filter _, ?_⟩
      intro x
      rw [List.mem_filter, Bool.not_eq_true']
      constructor
      · rintro ⟨hx, hFilled⟩
        exact ⟨x, hx, .here hFilled⟩
      · rintro ⟨n, hn, hChain⟩
        cases hChain with
        | here hFilled => exact ⟨hn, hFilled⟩
  | cons label path ih =>
      rw [List.forall_mem_cons] at hPlain
      rcases narrow_of_isListing (hListing.filter (!isEmpty ·)) hPlain.1
        with ⟨hNext, hFound⟩
      rcases ih hNext hPlain.2 with ⟨hLast, hRest⟩
      rw [resolvePath_cons]
      refine ⟨hLast, ?_⟩
      intro x
      rw [hRest]
      constructor
      · rintro ⟨m, hm, hChain⟩
        rcases (hFound m).mp hm with ⟨_, n, hn, hBelow, hMatches⟩
        rw [List.mem_filter, Bool.not_eq_true'] at hn
        exact ⟨n, hn.1, .there hn.2 hBelow hMatches hChain⟩
      · rintro ⟨n, hn, hChain⟩
        cases hChain with
        | there hFilled hBelow hMatches hChain =>
            refine ⟨_, (hFound _).mpr ?_, hChain⟩
            refine ⟨hChain.isBlank_eq, n, ?_, hBelow, hMatches⟩
            rw [List.mem_filter, Bool.not_eq_true']
            exact ⟨hn, hFilled⟩

end Paths

end Element

/-
  Labels that do not speak of the scope lead from the outermost
  element to the ends of the chains of matches: in document
  order, each of them once, and to nothing else.
-/
theorem resolvePath_element
    (d : Document)
    (path : Path)
    (hPlain : ∀ label ∈ path, Css.IsPlain label) :
    let found := Cursor.resolvePath [d.element] path
  found.Sublist (d.element :: d.element.below) ∧
    (found.Pairwise fun a b => a.path < b.path) ∧
    ∀ x, x ∈ found ↔ Element.Descends path d.element x := by
  have hListing : Element.IsListing d [d.element] := by
    constructor
    · intro x hx
      rw [List.mem_singleton] at hx
      rw [hx]
      exact Element.isIn_element d
    · exact List.pairwise_singleton _ _
  rcases Element.resolvePath_of_isListing hListing hPlain with
    ⟨hFound, hMem⟩
  have hEnds : ∀ x, x ∈ Cursor.resolvePath [d.element] path ↔
      Element.Descends path d.element x := by
    intro x
    rw [hMem]
    simp only [List.mem_singleton, exists_eq_left]
  refine ⟨?_, hFound.ordered, hEnds⟩
  apply Element.sublist_of_subset hFound.ordered
    (Element.pairwise_cons_below d.element)
  intro x hx
  exact ((hEnds x).mp hx).mem_cons_below

/- A paragraph in two boxes, and one in the outer box alone. -/
def nestedBoxes : Document :=
  let plain (name : String) : Tag := ⟨.html, name, []⟩
  ⟨false, plain "html", [.element (plain "div") [
    .element (plain "div") [.element (plain "p") [.text "x"]],
    .element (plain "p") [.text "y"]]]⟩

/- A chain of matches may go through the inner box. -/
theorem resolvePath_element_sample :
    (∀ label ∈ ["div", "p"], Css.IsPlain label) ∧
      ∃ x ∈ Cursor.resolvePath [nestedBoxes.element] ["div", "p"],
        x.path = [0, 0, 0] := by
  have hDiv : Css.parse? "div" = some [.single [.name "div"]] :=
    Css.parse?_of_tokenize_eq rfl
  have hParagraph : Css.parse? "p" = some [.single [.name "p"]] :=
    Css.parse?_of_tokenize_eq rfl
  have hPlain : ∀ label ∈ ["div", "p"], Css.IsPlain label := by
    intro label hLabel
    rcases List.mem_pair.mp hLabel with rfl | rfl
    · exact ⟨_, hDiv, rfl⟩
    · exact ⟨_, hParagraph, rfl⟩
  have hPlaces :
      ∃ m x, nestedBoxes.element.at? [0, 0] = some m ∧
        m.at? [0] = some x ∧ x.path = [0, 0, 0] ∧
        m.isBlank = false ∧ x.isBlank = false ∧
        m.Matches "div" ∧ x.Matches "p" := by
    refine ⟨_, _, rfl, rfl, rfl, rfl, rfl, ⟨_, hDiv, ?_⟩,
      ⟨_, hParagraph, ?_⟩⟩
    · decide +kernel
    · decide +kernel
  rcases hPlaces with
    ⟨m, x, hBox, hEnd, hPath, hFilled, hLast, hFirst, hSecond⟩
  have hInBox : x ∈ m.below :=
    Element.mem_below_iff.mpr ⟨[0], by decide, hEnd⟩
  have hInside : m ∈ nestedBoxes.element.below :=
    Element.mem_below_iff.mpr ⟨[0, 0], by decide, hBox⟩
  have hChain :
      Element.Descends ["div", "p"] nestedBoxes.element x :=
    .there rfl hInside hFirst
      (.there hFilled hInBox hSecond (.here hLast))
  rcases resolvePath_element nestedBoxes ["div", "p"] hPlain with
    ⟨_, _, hFound⟩
  exact ⟨hPlain, x, (hFound x).mpr hChain, hPath⟩

end Markup

end Gleaner
