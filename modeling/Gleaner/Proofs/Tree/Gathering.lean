import Gleaner.Proofs.Markup.Address
import Gleaner.Proofs.Tree.Cursor
import Gleaner.Tree.Page
import Mathlib.Data.List.Induction

/-
  What many elements find below them, gathered from the first
  element to the last, each of them once.  The elements come in
  document order unless one of them overtakes another.

  Main declarations:
    * `Markup.Element.IsListing`
    * `Markup.Element.gather`
    * `Markup.Element.Overtaken`
    * `Markup.Element.mem_gather_iff`
    * `Markup.Element.isListing_gather_iff`
-/

namespace Gleaner

namespace Markup

namespace Element

open Cursor

------------------------------------------------------------
-- Gathering
------------------------------------------------------------

/- Elements of one document in the order of their paths. -/
structure IsListing (d : Document) (nodes : List Element) : Prop where
  isIn : ∀ x ∈ nodes, IsIn d x
  ordered : nodes.Pairwise fun a b => a.path < b.path

/- What some elements find, each element once. -/
def gather
    (found : Element → List Element)
    (nodes : List Element) : List Element :=
  keepNew [] (nodes.flatMap found)

/-
  An element is the first to find `x`, but one around it has
  found `y`, which comes behind `x`.
-/
def Overtaken
    (found : Element → List Element)
    (nodes : List Element) : Prop :=
  ∃ outer ∈ nodes, ∃ inner ∈ nodes, inner ∈ outer.below ∧
    ∃ x ∈ found inner, ∃ y ∈ found outer,
      x.isBlank = false ∧ y.isBlank = false ∧ x.path < y.path ∧
      ∀ n ∈ nodes, n.path < inner.path → x ∉ found n

section Gathering

variable {d : Document}
variable {nodes : List Element}
variable {found : Element → List Element}

/- One more element adds what it finds to what was gathered. -/
theorem gather_append_singleton (nodes : List Element) (n : Element) :
    gather found (nodes ++ [n]) =
      gather found nodes ++ keepNew (gather found nodes) (found n) := by
  rw [gather, List.flatMap_append, keepNew_append, List.flatMap_singleton]
  rfl

/- What is gathered is found by some element. -/
theorem exists_found_of_mem_gather
    {x : Element}
    (hx : x ∈ gather found nodes) :
    x.isBlank = false ∧ ∃ n ∈ nodes, x ∈ found n := by
  rcases mem_of_mem_keepNew hx with ⟨hFound, hFilled⟩
  exact ⟨hFilled, List.mem_flatMap.mp hFound⟩

variable (hBelow : ∀ n, (found n).Sublist n.below)

include hBelow

/- What elements of a document find is in the document. -/
theorem isIn_of_mem_found
    {n x : Element}
    (hn : IsIn d n)
    (hx : x ∈ found n) :
    IsIn d x :=
  hn.below ((hBelow n).subset hx)

/- All that some element finds is gathered, but for blank elements. -/
theorem mem_gather_iff
    (hIn : ∀ n ∈ nodes, IsIn d n)
    {x : Element} :
    x ∈ gather found nodes ↔
      x.isBlank = false ∧ ∃ n ∈ nodes, x ∈ found n := by
  constructor
  · exact exists_found_of_mem_gather
  · rintro ⟨hFilled, n, hn, hx⟩
    have hFound : x ∈ nodes.flatMap found :=
      List.mem_flatMap.mpr ⟨n, hn, hx⟩
    have hSelf : sameNode x x = true := beq_self_eq_true x.path
    rcases exists_sameNode_of_mem [] hFound hFilled hSelf with
      ⟨y, hy, hSame⟩
    rw [List.nil_append] at hy
    -- One path is one element, so the node kept is the element itself.
    rcases exists_found_of_mem_gather hy with ⟨_, m, hm, hOther⟩
    have hEq : y = x :=
      (isIn_of_mem_found hBelow (hIn m hm) hOther).eq_of_path_eq
        (isIn_of_mem_found hBelow (hIn n hn) hx) (beq_iff_eq.mp hSame)
    rw [← hEq]
    exact hy

/- What an element adds was found by no element in front of it. -/
theorem mem_added_iff
    (hIn : ∀ n ∈ nodes, IsIn d n)
    {n x : Element}
    (hn : IsIn d n) :
    x ∈ keepNew (gather found nodes) (found n) ↔
      x ∈ found n ∧ x.isBlank = false ∧ ∀ m ∈ nodes, x ∉ found m := by
  have hSelf : sameNode x x = true := beq_self_eq_true x.path
  constructor
  · intro hx
    rcases mem_of_mem_keepNew hx with ⟨hFound, hFilled⟩
    refine ⟨hFound, hFilled, ?_⟩
    intro m hm hEarlier
    have hOld : x ∈ gather found nodes :=
      (mem_gather_iff hBelow hIn).mpr ⟨hFilled, m, hm, hEarlier⟩
    rw [sameNode_of_mem_keepNew hx hOld] at hSelf
    cases hSelf
  · rintro ⟨hFound, hFilled, hNew⟩
    rcases exists_sameNode_of_mem (gather found nodes) hFound hFilled
        hSelf with
      ⟨y, hy, hSame⟩
    rw [← gather_append_singleton] at hy
    have hAll : ∀ m ∈ nodes ++ [n], IsIn d m := by
      intro m hm
      rcases List.mem_append.mp hm with hm | hm
      · exact hIn m hm
      · rw [List.mem_singleton.mp hm]
        exact hn
    rcases exists_found_of_mem_gather hy with ⟨_, m, hm, hOther⟩
    have hEq : y = x :=
      (isIn_of_mem_found hBelow (hAll m hm) hOther).eq_of_path_eq
        (isIn_of_mem_found hBelow hn hFound) (beq_iff_eq.mp hSame)
    rw [hEq, gather_append_singleton, List.mem_append] at hy
    rcases hy with hOld | hAdded
    · rcases exists_found_of_mem_gather hOld with ⟨_, m, hm, hEarlier⟩
      exact absurd hEarlier (hNew m hm)
    · exact hAdded

------------------------------------------------------------
-- The Order of What Is Gathered
------------------------------------------------------------

/-
  If an element finds something before what was gathered, then
  it overtakes the element in front of it that it is inside of.
-/
theorem overtaken_of_path_lt
    {front : List Element}
    {inner x y : Element}
    (hListing : IsListing d (front ++ [inner]))
    (hx : x ∈ keepNew (gather found front) (found inner))
    (hy : y ∈ gather found front)
    (hLess : x.path < y.path) :
    Overtaken found (front ++ [inner]) := by
  have hLast : inner ∈ front ++ [inner] :=
    List.mem_append_right _ (List.mem_singleton.mpr rfl)
  have hInner := hListing.isIn inner hLast
  have hFront : ∀ n ∈ front, IsIn d n :=
    fun n hn => hListing.isIn n (List.mem_append_left _ hn)
  rcases (mem_added_iff hBelow hFront hInner).mp hx with
    ⟨hFound, hFilled, hNew⟩
  rcases exists_found_of_mem_gather hy with
    ⟨hFilled', outer, hOuter, hFound'⟩
  have hPlace : outer.path < inner.path :=
    (List.pairwise_append.mp hListing.ordered).2.2 outer hOuter inner
      (List.mem_singleton.mpr rfl)
  have hInside : inner ∈ outer.below := by
    rcases (hFront outer hOuter).below_or_behind hInner hPlace with
      hInside | hApart
    · exact hInside
    · have hGreater : y.path < x.path :=
        hApart y ((hBelow outer).subset hFound') x
          ((hBelow inner).subset hFound)
      exact absurd (List.lt_trans hLess hGreater) (List.lt_irrefl _)
  refine ⟨outer, List.mem_append_left _ hOuter, inner, hLast, hInside,
    x, hFound, y, hFound', hFilled, hFilled', hLess, ?_⟩
  intro n hn hEarlier
  rcases List.mem_append.mp hn with hn | hn
  · exact hNew n hn
  · rw [List.mem_singleton.mp hn] at hEarlier
    exact absurd hEarlier (List.lt_irrefl _)

omit hBelow in
/- A listing is what it is in front of an element, and the rest. -/
theorem IsListing.split
    (hListing : IsListing d nodes)
    {inner : Element}
    (hInner : inner ∈ nodes) :
    ∃ front back, nodes = front ++ inner :: back ∧
      ∀ n ∈ nodes, n ∈ front ↔ n.path < inner.path := by
  rcases List.append_of_mem hInner with ⟨front, back, rfl⟩
  refine ⟨front, back, rfl, ?_⟩
  rcases List.pairwise_append.mp hListing.ordered with
    ⟨_, hRest, hBehind⟩
  intro n hn
  constructor
  · exact fun hFront => hBehind n hFront inner List.mem_cons_self
  · intro hEarlier
    rcases List.mem_append.mp hn with hFront | hn
    · exact hFront
    · rcases List.mem_cons.mp hn with rfl | hBack
      · exact absurd hEarlier (List.lt_irrefl _)
      · have hLater := (List.pairwise_cons.mp hRest).1 n hBack
        exact absurd (List.lt_trans hEarlier hLater) (List.lt_irrefl _)

/- What is overtaken shows in the order of what is gathered. -/
theorem not_overtaken_of_pairwise
    (hListing : IsListing d nodes)
    (hOrdered : (gather found nodes).Pairwise fun a b =>
      a.path < b.path) :
    ¬ Overtaken found nodes := by
  rintro ⟨outer, hOuter, inner, hInner, hInside, x, hx, y, hy, hFilled,
    hFilled', hLess, hNew⟩
  have hPlace : outer.path < inner.path := lt_of_mem_below hInside
  have hIn := hListing.isIn inner hInner
  rcases hListing.split hInner with ⟨front, back, rfl, hSplit⟩
  have hFront : ∀ n ∈ front, IsIn d n :=
    fun n hn => hListing.isIn n (List.mem_append_left _ hn)
  have hEarlier : y ∈ gather found front :=
    (mem_gather_iff hBelow hFront).mpr
      ⟨hFilled', outer, (hSplit outer hOuter).mpr hPlace, hy⟩
  have hLater : x ∈ keepNew (gather found front) (found inner) := by
    refine (mem_added_iff hBelow hFront hIn).mpr ⟨hx, hFilled, ?_⟩
    intro n hn
    have hAll := List.mem_append_left (inner :: back) hn
    exact hNew n hAll ((hSplit n hAll).mp hn)
  rw [List.append_cons, gather, List.flatMap_append, keepNew_append,
    List.nil_append, ← gather, gather_append_singleton] at hOrdered
  have hFirst := (List.pairwise_append.mp hOrdered).1
  have hGreater : y.path < x.path :=
    (List.pairwise_append.mp hFirst).2.2 y hEarlier x hLater
  exact absurd (List.lt_trans hLess hGreater) (List.lt_irrefl _)

omit hBelow in
/- More elements at the end undo no overtaking. -/
theorem Overtaken.append_singleton
    {n : Element}
    (hListing : IsListing d (nodes ++ [n]))
    (hOvertaken : Overtaken found nodes) :
    Overtaken found (nodes ++ [n]) := by
  rcases hOvertaken with
    ⟨outer, hOuter, inner, hInner, hInside, x, hx, y, hy, hFilled,
      hFilled', hLess, hNew⟩
  refine ⟨outer, List.mem_append_left _ hOuter, inner,
    List.mem_append_left _ hInner, hInside, x, hx, y, hy, hFilled,
    hFilled', hLess, ?_⟩
  intro m hm hEarlier
  rcases List.mem_append.mp hm with hm | hm
  · exact hNew m hm hEarlier
  · have hLater : inner.path < m.path :=
      (List.pairwise_append.mp hListing.ordered).2.2 inner hInner m hm
    exact absurd (List.lt_trans hEarlier hLater) (List.lt_irrefl _)

/-
  What is gathered comes in order unless an element is overtaken.
  The elements are added from the left to the right, each with
  what no element in front of it found.
-/
theorem pairwise_gather
    (hListing : IsListing d nodes)
    (hOrder : ¬ Overtaken found nodes) :
    (gather found nodes).Pairwise fun a b => a.path < b.path := by
  induction nodes using List.reverseRecOn with
  | nil => exact .nil
  | append_singleton front n ih =>
      have hFront : IsListing d front := by
        constructor
        · exact fun m hm => hListing.isIn m (List.mem_append_left _ hm)
        · exact (List.pairwise_append.mp hListing.ordered).1
      have hEarlier :=
        ih hFront fun hOvertaken =>
          hOrder (hOvertaken.append_singleton hListing)
      have hSublist :
          (keepNew (gather found front) (found n)).Sublist n.below :=
        (keepNew_sublist _ _).trans (hBelow n)
      rw [gather_append_singleton, List.pairwise_append]
      refine ⟨hEarlier, (pairwise_below n).sublist hSublist, ?_⟩
      intro y hy x hx
      by_contra hLess
      have hNe : x.path ≠ y.path := by
        intro hSame
        have hOther := sameNode_of_mem_keepNew hx hy
        rw [← Bool.not_eq_true] at hOther
        exact hOther (beq_iff_eq.mpr hSame.symm)
      have hFirst : x.path < y.path :=
        (List.le_iff_lt_or_eq.mp (List.not_lt.mp hLess)).resolve_right
          hNe
      exact hOrder (overtaken_of_path_lt hBelow hListing hx hy hFirst)

/-
  What is gathered from elements in document order comes in
  document order exactly if no element is overtaken.
-/
theorem isListing_gather_iff (hListing : IsListing d nodes) :
    IsListing d (gather found nodes) ↔ ¬ Overtaken found nodes := by
  constructor
  · exact fun hGathered =>
      not_overtaken_of_pairwise hBelow hListing hGathered.ordered
  · intro hOrder
    refine ⟨?_, pairwise_gather hBelow hListing hOrder⟩
    intro x hx
    rcases exists_found_of_mem_gather hx with ⟨_, n, hn, hFound⟩
    exact isIn_of_mem_found hBelow (hListing.isIn n hn) hFound

end Gathering

end Element

end Markup

end Gleaner
