import Gleaner.Markup.Element
import Mathlib.Data.List.Sort

/-
  Elements by their addresses.  The numbers of children lead
  from an element to one element at most, and the elements
  below an element are those with an address, in the order of
  their addresses, each of them once.

  Main declarations:
    * `Markup.Element.child?`
    * `Markup.Element.at?`
    * `Markup.Element.path_at?`
    * `Markup.Element.append_or_append_lt`
    * `Markup.Element.mem_below_iff`
    * `Markup.Element.pairwise_below`
    * `Markup.Element.IsIn`
-/

namespace Gleaner

namespace Markup

namespace Element

------------------------------------------------------------
-- Addresses
------------------------------------------------------------

/- The child with a number, if it is an element. -/
def child? (e : Element) (i : Nat) : Option Element :=
  match e.children[i]? with
  | some (.element t children) =>
      some
        ⟨e.whole,
          ⟨e.tag, (e.children.take i).reverse,
            e.children.drop (i + 1)⟩ :: e.frames,
          t, children⟩
  | _ => none

/- The element that the numbers of children lead to. -/
def at? : Element → List Nat → Option Element
  | e, [] => some e
  | e, i :: address => (e.child? i).bind (·.at? address)

variable {e c x y : Element}

/- A child has its number behind the path of its parent. -/
theorem path_child?
    {i : Nat}
    (hChild : e.child? i = some c) :
    c.path = e.path ++ [i] := by
  unfold child? at hChild
  split at hChild
  · rename_i t children hNode
    cases hChild
    rcases List.getElem?_eq_some_iff.mp hNode with ⟨hLess, _⟩
    simp [path, Nat.min_eq_left (Nat.le_of_lt hLess)]
  · cases hChild

/- An element has its address behind the path where that starts. -/
theorem path_at?
    {address : List Nat}
    (hAt : e.at? address = some x) :
    x.path = e.path ++ address := by
  induction address generalizing e with
  | nil =>
      cases hAt
      rw [List.append_nil]
  | cons i address ih =>
      rcases Option.bind_eq_some_iff.mp hAt with ⟨c, hChild, hRest⟩
      rw [ih hRest, path_child? hChild, List.append_assoc]
      rfl

/- An address is followed part by part. -/
theorem at?_append (e : Element) (a b : List Nat) :
    e.at? (a ++ b) = (e.at? a).bind (·.at? b) := by
  induction a generalizing e with
  | nil => rfl
  | cons i a ih =>
      rw [List.cons_append, at?, at?, Option.bind_assoc]
      congr 1
      funext c
      exact ih c

------------------------------------------------------------
-- The Order of Addresses
------------------------------------------------------------

/- An address comes in front of those that go on from it. -/
theorem lt_append
    (a : List Nat)
    {b : List Nat}
    (hSome : b ≠ []) :
    a < a ++ b := by
  cases b with
  | nil => exact absurd rfl hSome
  | cons i b =>
      nth_rewrite 1 [← List.append_nil a]
      exact List.append_left_lt (List.nil_lt_cons i b)

/- An earlier child comes with all that goes on from it. -/
theorem append_cons_lt
    {i j : Nat}
    (hLess : i < j)
    (front a b : List Nat) :
    front ++ i :: a < front ++ j :: b := by
  apply List.append_left_lt
  rw [List.cons_lt_cons_iff]
  exact .inl hLess

/-
  Of two addresses the greater one goes on from the other, or
  whatever goes on from them has their order.
-/
theorem append_or_append_lt
    {a b : List Nat}
    (hLess : a < b) :
    (∃ c, c ≠ [] ∧ b = a ++ c) ∨ ∀ c d, a ++ c < b ++ d := by
  induction a generalizing b with
  | nil =>
      refine .inl ⟨b, ?_, rfl⟩
      rintro rfl
      exact List.lt_irrefl _ hLess
  | cons i a ih =>
      cases b with
      | nil => exact absurd hLess (List.not_lt_nil _)
      | cons j b =>
          rw [List.cons_lt_cons_iff] at hLess
          rcases hLess with hLess | ⟨rfl, hLess⟩
          · exact .inr fun c d =>
              append_cons_lt hLess [] (a ++ c) (b ++ d)
          · rcases ih hLess with ⟨c, hSome, rfl⟩ | hBehind
            · exact .inl ⟨c, hSome, rfl⟩
            · refine .inr fun c d => ?_
              exact List.cons_lt_cons_iff.mpr (.inr ⟨rfl, hBehind c d⟩)

------------------------------------------------------------
-- The Elements Below
------------------------------------------------------------

section Siblings

variable
  (whole : Bool)
  (frames : List Frame)
  (tag : Tag)
  (before after : List Node)

/- The child behind some siblings, if it is an element. -/
theorem child?_length (node : Node) :
    (⟨whole, frames, tag, before.reverse ++ node :: after⟩ :
      Element).child? before.length =
      match node with
      | .element t children =>
          some ⟨whole, ⟨tag, before, after⟩ :: frames, t, children⟩
      | _ => none := by
  have hNode :
      (before.reverse ++ node :: after)[before.length]? = some node := by
    rw [← List.length_reverse]
    simp
  have hBefore :
      ((before.reverse ++ node :: after).take before.length).reverse =
        before := by
    rw [← List.length_reverse, List.take_left, List.reverse_reverse]
  have hAfter :
      (before.reverse ++ node :: after).drop (before.length + 1) =
        after := by
    rw [← List.length_reverse, ← List.drop_drop, List.drop_left]
    rfl
  simp only [child?, hNode, hBefore, hAfter]
  cases node <;> rfl

/- There is no child behind the last sibling. -/
theorem child?_eq_none
    {i : Nat}
    (hBehind : before.length ≤ i) :
    (⟨whole, frames, tag, before.reverse⟩ : Element).child? i = none := by
  have hNode : before.reverse[i]? = none := by
    rw [List.getElem?_eq_none_iff, List.length_reverse]
    exact hBehind
  simp only [child?, hNode]

/- A child that is no element leads nowhere. -/
theorem exists_from_succ_iff
    {k : Nat}
    (hNone : e.child? k = none) :
    (∃ i c address, k ≤ i ∧ e.child? i = some c ∧
        c.at? address = some x) ↔
      ∃ i c address, k + 1 ≤ i ∧ e.child? i = some c ∧
        c.at? address = some x := by
  constructor
  · rintro ⟨i, c, address, hBehind, hChild, hAt⟩
    rcases Nat.eq_or_lt_of_le hBehind with rfl | hLater
    · rw [hNone] at hChild
      cases hChild
    · exact ⟨i, c, address, hLater, hChild, hAt⟩
  · rintro ⟨i, c, address, hBehind, hChild, hAt⟩
    exact ⟨i, c, address, Nat.le_of_succ_le hBehind, hChild, hAt⟩

/-
  The elements among some siblings are those with an address
  that starts behind the siblings in front.
-/
theorem mem_among_iff
    (nodes : List Node)
    (x : Element) :
    x ∈ among whole frames tag before nodes ↔
      ∃ i c address, before.length ≤ i ∧
        (⟨whole, frames, tag, before.reverse ++ nodes⟩ :
          Element).child? i = some c ∧
        c.at? address = some x := by
  induction frames, tag, before, nodes using among.induct with
  | case1 frames tag before =>
      simp only [among, List.not_mem_nil, List.append_nil, false_iff]
      rintro ⟨i, c, address, hBehind, hChild, _⟩
      rw [child?_eq_none whole frames tag before hBehind] at hChild
      cases hChild
  | case2 frames tag before t children after inner ihInner ihAfter =>
      have hHere := child?_length whole frames tag before after
        (.element t children)
      rw [List.reverse_cons, List.append_assoc, List.singleton_append]
        at ihAfter
      rw [List.reverse_nil, List.nil_append] at ihInner
      rw [among, List.mem_cons, List.mem_append, ihInner, ihAfter]
      constructor
      · rintro (rfl | ⟨i, c, address, _, hChild, hAt⟩ |
          ⟨i, c, address, hBehind, hChild, hAt⟩)
        · exact ⟨before.length, _, [], Nat.le_refl _, hHere, rfl⟩
        · refine ⟨before.length, _, i :: address, Nat.le_refl _, hHere, ?_⟩
          exact Option.bind_eq_some_iff.mpr ⟨c, hChild, hAt⟩
        · exact ⟨i, c, address, Nat.le_of_succ_le hBehind, hChild, hAt⟩
      · rintro ⟨i, c, address, hBehind, hChild, hAt⟩
        rcases Nat.eq_or_lt_of_le hBehind with rfl | hLater
        · rw [hHere] at hChild
          cases hChild
          cases address with
          | nil =>
              cases hAt
              exact .inl rfl
          | cons i address =>
              rcases Option.bind_eq_some_iff.mp hAt with
                ⟨c, hChild, hRest⟩
              exact .inr (.inl
                ⟨i, c, address, Nat.zero_le _, hChild, hRest⟩)
        · exact .inr (.inr ⟨i, c, address, hLater, hChild, hAt⟩)
  | case3 frames tag before s after ih =>
      rw [List.reverse_cons, List.append_assoc, List.singleton_append]
        at ih
      rw [among, ih, exists_from_succ_iff
        (child?_length whole frames tag before after (.text s))]
      rfl
  | case4 frames tag before s after ih =>
      rw [List.reverse_cons, List.append_assoc, List.singleton_append]
        at ih
      rw [among, ih, exists_from_succ_iff
        (child?_length whole frames tag before after (.comment s))]
      rfl

/- The paths of elements among siblings start behind those in front. -/
theorem exists_path_of_mem_among
    {nodes : List Node}
    {x : Element}
    (hx : x ∈ among whole frames tag before nodes) :
    ∃ i address, before.length ≤ i ∧
      x.path =
        (frames.map (·.before.length)).reverse ++ i :: address := by
  rcases (mem_among_iff whole frames tag before nodes x).mp hx with
    ⟨i, c, address, hBehind, hChild, hAt⟩
  refine ⟨i, address, hBehind, ?_⟩
  rw [path_at? hAt, path_child? hChild, List.append_assoc]
  rfl

/- The elements among some siblings come in the order of their paths. -/
theorem pairwise_among (nodes : List Node) :
    (among whole frames tag before nodes).Pairwise fun a b =>
      a.path < b.path := by
  induction frames, tag, before, nodes using among.induct with
  | case1 frames tag before =>
      rw [among]
      exact .nil
  | case2 frames tag before t children after inner ihInner ihAfter =>
      have hHere :
          (⟨whole, inner, t, children⟩ : Element).path =
            (frames.map (·.before.length)).reverse ++ [before.length] := by
        simp [path, inner]
      have hInner : ∀ d ∈ among whole inner t [] children,
          ∃ i address, d.path =
            (frames.map (·.before.length)).reverse ++
              before.length :: i :: address := by
        intro d hd
        rcases exists_path_of_mem_among whole inner t [] hd with
          ⟨i, address, _, hPath⟩
        exact ⟨i, address, by simpa [inner] using hPath⟩
      have hAfter :
          ∀ d ∈ among whole frames tag (.element t children :: before)
            after, ∃ i address, before.length < i ∧ d.path =
            (frames.map (·.before.length)).reverse ++ i :: address := by
        intro d hd
        exact exists_path_of_mem_among whole frames tag _ hd
      rw [among, List.pairwise_cons, List.pairwise_append]
      refine ⟨?_, ihInner, ihAfter, ?_⟩
      · intro d hd
        rw [hHere]
        rcases List.mem_append.mp hd with hIn | hBehind
        · rcases hInner d hIn with ⟨i, address, hPath⟩
          rw [hPath, List.append_cons _ _ (i :: address)]
          exact lt_append _ (List.cons_ne_nil i address)
        · rcases hAfter d hBehind with ⟨i, address, hLess, hPath⟩
          rw [hPath]
          exact append_cons_lt hLess _ _ _
      · intro a ha d hd
        rcases hInner a ha with ⟨i, address, hPath⟩
        rcases hAfter d hd with ⟨j, other, hLess, hOther⟩
        rw [hPath, hOther]
        exact append_cons_lt hLess _ _ _
  | case3 frames tag before s after ih =>
      rw [among]
      exact ih
  | case4 frames tag before s after ih =>
      rw [among]
      exact ih

end Siblings

/- The elements below an element are those with an address. -/
theorem mem_below_iff :
    x ∈ e.below ↔ ∃ address, address ≠ [] ∧ e.at? address = some x := by
  rw [below, mem_among_iff]
  constructor
  · rintro ⟨i, c, address, _, hChild, hAt⟩
    refine ⟨i :: address, List.cons_ne_nil _ _, ?_⟩
    exact Option.bind_eq_some_iff.mpr ⟨c, hChild, hAt⟩
  · rintro ⟨address, hSome, hAt⟩
    cases address with
    | nil => exact absurd rfl hSome
    | cons i address =>
        rcases Option.bind_eq_some_iff.mp hAt with ⟨c, hChild, hRest⟩
        exact ⟨i, c, address, Nat.zero_le _, hChild, hRest⟩

/- The elements below an element come in the order of their paths. -/
theorem pairwise_below (e : Element) :
    e.below.Pairwise fun a b => a.path < b.path :=
  pairwise_among e.whole e.frames e.tag [] e.children

/- What is below an element below is below. -/
theorem mem_below_trans
    (hx : x ∈ e.below)
    (hy : y ∈ x.below) :
    y ∈ e.below := by
  rw [mem_below_iff] at hx hy ⊢
  rcases hx with ⟨a, hSome, hFirst⟩
  rcases hy with ⟨b, _, hSecond⟩
  refine ⟨a ++ b, List.append_ne_nil_of_left_ne_nil hSome b, ?_⟩
  rw [at?_append, hFirst]
  exact hSecond

/- The path of an element below goes on from the path above. -/
theorem path_of_mem_below
    (hx : x ∈ e.below) :
    ∃ address, address ≠ [] ∧ x.path = e.path ++ address := by
  rcases mem_below_iff.mp hx with ⟨address, hSome, hAt⟩
  exact ⟨address, hSome, path_at? hAt⟩

/- An element comes in front of those below it. -/
theorem lt_of_mem_below
    (hx : x ∈ e.below) :
    e.path < x.path := by
  rcases path_of_mem_below hx with ⟨address, hSome, hPath⟩
  rw [hPath]
  exact lt_append e.path hSome

/- An element and those below it come in the order of their paths. -/
theorem pairwise_cons_below (e : Element) :
    (e :: e.below).Pairwise fun a b => a.path < b.path := by
  rw [List.pairwise_cons]
  exact ⟨fun _ hx => lt_of_mem_below hx, pairwise_below e⟩

/- Of elements in the order of their paths some are a sublist. -/
theorem sublist_of_subset
    {xs ys : List Element}
    (hxs : xs.Pairwise fun a b => a.path < b.path)
    (hys : ys.Pairwise fun a b => a.path < b.path)
    (hSubset : xs ⊆ ys) :
    xs.Sublist ys := by
  have hAntisymm :
      Std.Antisymm fun a b : Element => a.path < b.path :=
    ⟨fun a b hFirst hSecond =>
      absurd (List.lt_trans hFirst hSecond) (List.lt_irrefl a.path)⟩
  have hIrrefl : Std.Irrefl fun a b : Element => a.path < b.path :=
    ⟨fun a => List.lt_irrefl a.path⟩
  exact List.sublist_of_subperm_of_pairwise
    (List.subperm_of_subset hxs.nodup hSubset) hxs hys

------------------------------------------------------------
-- Elements of One Document
------------------------------------------------------------

/- The element of a document that stands at its own path. -/
def IsIn (d : Document) (x : Element) : Prop :=
  d.element.at? x.path = some x

variable {d : Document}

/- The outermost element stands in its document. -/
theorem isIn_element (d : Document) : IsIn d d.element :=
  rfl

/- What is below an element of a document stands in it. -/
theorem IsIn.below
    (hx : IsIn d x)
    (hy : y ∈ x.below) :
    IsIn d y := by
  rcases mem_below_iff.mp hy with ⟨address, _, hAt⟩
  rw [IsIn, path_at? hAt, at?_append, hx]
  exact hAt

/- Elements of a document with one path are one element. -/
theorem IsIn.eq_of_path_eq
    (hx : IsIn d x)
    (hy : IsIn d y)
    (hPath : x.path = y.path) :
    x = y := by
  rw [IsIn, hPath, hy] at hx
  exact (Option.some.inj hx).symm

/-
  Of two elements of a document the later one is below the
  earlier one, or all that is below it comes behind all that is
  below the earlier one.
-/
theorem IsIn.below_or_behind
    (hx : IsIn d x)
    (hy : IsIn d y)
    (hLess : x.path < y.path) :
    y ∈ x.below ∨
      ∀ a ∈ x.below, ∀ b ∈ y.below, a.path < b.path := by
  rcases append_or_append_lt hLess with ⟨c, hSome, hPath⟩ | hBehind
  · left
    rw [mem_below_iff]
    refine ⟨c, hSome, ?_⟩
    rw [IsIn, hPath, at?_append, hx] at hy
    exact hy
  · right
    intro a ha b hb
    rcases path_of_mem_below ha with ⟨address, _, hFirst⟩
    rcases path_of_mem_below hb with ⟨other, _, hSecond⟩
    rw [hFirst, hSecond]
    exact hBehind address other

end Element

end Markup

end Gleaner
