import Gleaner.Proofs.Markup.Address
import Gleaner.Proofs.Selector.Route
import Gleaner.Proofs.Tree.Names
import Gleaner.Selector.Parse

/-
  A path from many nodes and from each of them.  Nodes that were
  seen are dropped after every step or once at the end: what is
  kept is the same, and in the same order.

  Main declarations:
    * `Cursor.IsDocument`
    * `Cursor.KeptAlike`
    * `Cursor.keptAlike_flatMap_keepNew`
    * `Cursor.keptAlike_resolvePath`
    * `Cursor.resolvePath_append_eq_keepNew`
    * `Markup.Element.isDocument_isIn`
    * `Markup.resolve_cascade`
-/

namespace Gleaner

namespace Cursor

variable {N : Type}
variable [Cursor N]

------------------------------------------------------------
-- Nodes That Are Kept Alike
------------------------------------------------------------

/-
  Nodes of one document: two handles on one node are equal, what
  a label selects is in the document, and a label that cannot be
  read for one node can be read for none.
-/
structure IsDocument (U : N → Prop) : Prop where
  self : ∀ x, U x → sameNode x x = true
  same : ∀ x y, U x → U y → sameNode x y = true → x = y
  select : ∀ label,
    (∃ below : N → List N,
      (∀ n, select n label = .ok (below n)) ∧
        ∀ n, U n → ∀ x ∈ below n, U x) ∨
    ∀ n : N, ∃ e, select n label = .error e

/- Of two lists the same nodes are kept, whatever was seen before. -/
def KeptAlike (xs ys : List N) : Prop :=
  ∀ seen, keepNew seen xs = keepNew seen ys

namespace KeptAlike

variable {xs ys zs : List N}

theorem refl (xs : List N) : KeptAlike xs xs :=
  fun _ => rfl

theorem symm (hSame : KeptAlike xs ys) : KeptAlike ys xs :=
  fun seen => (hSame seen).symm

theorem trans
    (hFirst : KeptAlike xs ys)
    (hSecond : KeptAlike ys zs) :
    KeptAlike xs zs :=
  fun seen => (hFirst seen).trans (hSecond seen)

/- Lists that are kept alike may be joined. -/
theorem append
    {more others : List N}
    (hSame : KeptAlike xs ys)
    (hMore : KeptAlike more others) :
    KeptAlike (xs ++ more) (ys ++ others) := by
  intro seen
  rw [keepNew_append, keepNew_append, hSame, hMore]

/- Many lists that are kept alike may be joined. -/
theorem flatMap
    {α : Type}
    {items : List α}
    {f g : α → List N}
    (hSame : ∀ a ∈ items, KeptAlike (f a) (g a)) :
    KeptAlike (items.flatMap f) (items.flatMap g) := by
  induction items with
  | nil => exact refl _
  | cons a items ih =>
      rw [List.forall_mem_cons] at hSame
      rw [List.flatMap_cons, List.flatMap_cons]
      exact hSame.1.append (ih hSame.2)

end KeptAlike

section Document

variable {U : N → Prop}
variable (hDocument : IsDocument U)

include hDocument

/-
  Nodes that were seen may be dropped before the nodes that each
  of them leads to are pooled.  The nodes in `old` are those
  dropped so far, and all they lead to has been seen.
-/
theorem keepNew_flatMap_keepNew
    {g : N → List N}
    (hIn : ∀ x, U x → ∀ y ∈ g x, U y)
    (hEmpty : ∀ x, isEmpty x = true → ∀ y ∈ g x, isEmpty y = true)
    {seen old nodes : List N}
    (hOld : ∀ t ∈ old, U t ∧ ∀ y ∈ g t, isEmpty y = false →
      ∃ s ∈ seen, sameNode s y = true)
    (hNodes : ∀ n ∈ nodes, U n) :
    keepNew seen ((keepNew old nodes).flatMap g) =
      keepNew seen (nodes.flatMap g) := by
  induction nodes generalizing seen old with
  | nil => rfl
  | cons x rest ih =>
      rw [List.forall_mem_cons] at hNodes
      rcases hNodes with ⟨hx, hRest⟩
      rw [List.flatMap_cons, keepNew_append, keepNew]
      split
      · rename_i hDropped
        -- What `x` leads to is empty, or was seen with the same node.
        have hNothing : keepNew seen (g x) = [] := by
          apply keepNew_eq_nil
          intro y hy hFilled
          rw [Bool.or_eq_true, List.any_eq_true] at hDropped
          rcases hDropped with hBlank | ⟨t, ht, hSame⟩
          · rw [hEmpty x hBlank y hy] at hFilled
            cases hFilled
          · have hEq := hDocument.same t x (hOld t ht).1 hx hSame
            exact (hOld t ht).2 y (hEq ▸ hy) hFilled
        rw [hNothing, List.nil_append, List.append_nil]
        exact ih hOld hRest
      · rw [List.flatMap_cons, keepNew_append]
        congr 1
        -- From here on all that `x` leads to has been seen as well.
        apply ih _ hRest
        intro t ht
        rcases List.mem_append.mp ht with hEarlier | hNew
        · refine ⟨(hOld t hEarlier).1, ?_⟩
          intro y hy hFilled
          rcases (hOld t hEarlier).2 y hy hFilled with ⟨s, hs, hSame⟩
          exact ⟨s, List.mem_append_left _ hs, hSame⟩
        · rw [List.mem_singleton.mp hNew]
          refine ⟨hx, ?_⟩
          intro y hy hFilled
          exact exists_sameNode_of_mem seen hy hFilled
            (hDocument.self y (hIn x hx y hy))

/- Nodes that repeat lead to nothing that is not kept anyway. -/
theorem keptAlike_flatMap_keepNew
    {g : N → List N}
    (hIn : ∀ x, U x → ∀ y ∈ g x, U y)
    (hEmpty : ∀ x, isEmpty x = true → ∀ y ∈ g x, isEmpty y = true)
    {nodes : List N}
    (hNodes : ∀ n ∈ nodes, U n) :
    KeptAlike ((keepNew [] nodes).flatMap g) (nodes.flatMap g) :=
  fun _ =>
    keepNew_flatMap_keepNew hDocument hIn hEmpty
      (List.forall_mem_nil _) hNodes

/- What was kept is kept again. -/
theorem keptAlike_keepNew
    {nodes : List N}
    (hNodes : ∀ n ∈ nodes, U n) :
    KeptAlike (keepNew [] nodes) nodes := by
  have hAlike := keptAlike_flatMap_keepNew hDocument (g := fun x => [x])
    (by simp) (by simp) hNodes
  rwa [List.flatMap_singleton', List.flatMap_singleton'] at hAlike

------------------------------------------------------------
-- Paths from Many Nodes
------------------------------------------------------------

/- A step pools what lies below; there is nothing if it is a miss. -/
theorem exists_narrow_eq (label : String) :
    ∃ below : N → List N,
      (∀ n, U n → ∀ x ∈ below n, U x) ∧
        ∀ nodes, narrow nodes label = keepNew [] (nodes.flatMap below) := by
  rcases hDocument.select label with ⟨below, hRead, hIn⟩ | hUnreadable
  · exact ⟨below, hIn, fun nodes => narrow_of_select hRead⟩
  · refine ⟨fun _ => [], by simp, ?_⟩
    intro nodes
    have hNothing : nodes.flatMap (fun _ => ([] : List N)) = [] := by
      simp
    rw [hNothing, keepNew]
    cases nodes with
    | nil => rfl
    | cons n nodes =>
        rcases hUnreadable n with ⟨e, hError⟩
        rw [narrow, selectAll, List.mapM_cons, hError]
        rfl

/- Paths do not leave the document. -/
theorem mem_of_mem_resolvePath
    {nodes : List N}
    {path : Path}
    (hNodes : ∀ n ∈ nodes, U n) :
    ∀ x ∈ resolvePath nodes path, U x := by
  induction path generalizing nodes with
  | nil =>
      intro x hx
      rw [resolvePath_nil] at hx
      exact hNodes x (List.mem_filter.mp hx).1
  | cons label path ih =>
      rcases exists_narrow_eq hDocument label with ⟨below, hIn, hNarrow⟩
      rw [resolvePath_cons, hNarrow]
      apply ih
      intro m hm
      rcases List.mem_flatMap.mp (mem_of_mem_keepNew hm).1 with
        ⟨n, hn, hBelow⟩
      exact hIn n (hNodes n (List.mem_filter.mp hn).1) m hBelow

omit hDocument in
/- Nothing is found from an empty node. -/
theorem flatMap_resolvePath_filter (nodes : List N) (path : Path) :
    ((nodes.filter (!isEmpty ·)).flatMap fun n => resolvePath [n] path) =
      nodes.flatMap fun n => resolvePath [n] path := by
  induction nodes with
  | nil => rfl
  | cons n nodes ih =>
      cases hEmpty : isEmpty n with
      | true =>
          rw [List.filter_cons_of_neg (by simp [hEmpty]), ih,
            List.flatMap_cons, resolvePath_of_isEmpty hEmpty,
            List.nil_append]
      | false =>
          rw [List.filter_cons_of_pos (by simp [hEmpty]),
            List.flatMap_cons, List.flatMap_cons, ih]

omit hDocument in
/- An empty path leads from each node to itself if it is not empty. -/
theorem flatMap_resolvePath_nil (nodes : List N) :
    (nodes.flatMap fun n => resolvePath [n] []) = resolvePath nodes [] := by
  induction nodes with
  | nil => rfl
  | cons n nodes ih =>
      rw [List.flatMap_cons, ih, resolvePath_nil, resolvePath_nil,
        resolvePath_nil, ← List.filter_append, List.singleton_append]

/-
  A path from some nodes and the same path from each of them
  lead to the same nodes, but for repetitions.
-/
theorem keptAlike_resolvePath
    {nodes : List N}
    (hNodes : ∀ n ∈ nodes, U n)
    (path : Path) :
    KeptAlike (resolvePath nodes path)
      (nodes.flatMap fun n => resolvePath [n] path) := by
  induction path generalizing nodes with
  | nil =>
      rw [flatMap_resolvePath_nil]
      exact .refl _
  | cons label path ih =>
      rcases exists_narrow_eq hDocument label with ⟨below, hIn, hNarrow⟩
      have hPool : ∀ pool, (∀ x ∈ pool, U x) →
          KeptAlike (resolvePath (keepNew [] pool) path)
            (pool.flatMap fun x => resolvePath [x] path) := by
        intro pool hPool
        refine (ih fun x hx => hPool x (mem_of_mem_keepNew hx).1).trans ?_
        apply keptAlike_flatMap_keepNew hDocument _ _ hPool
        · intro x hx
          exact mem_of_mem_resolvePath hDocument (by simpa using hx)
        · intro x hEmpty y hy
          rw [resolvePath_of_isEmpty hEmpty] at hy
          cases hy
      have hFilled : ∀ n ∈ nodes.filter (!isEmpty ·), U n := by
        intro n hn
        exact hNodes n (List.mem_filter.mp hn).1
      rw [← flatMap_resolvePath_filter, resolvePath_cons, hNarrow]
      apply (hPool _ _).trans
      · rw [List.flatMap_assoc]
        apply KeptAlike.flatMap
        intro n hn
        have hSelf : [n].filter (!isEmpty ·) = [n] := by
          simpa using (List.mem_filter.mp hn).2
        rw [resolvePath_cons, hNarrow, hSelf, List.flatMap_singleton]
        exact (hPool _ (hIn n (hFilled n hn))).symm
      · intro x hx
        rcases List.mem_flatMap.mp hx with ⟨n, hn, hBelow⟩
        exact hIn n (hFilled n hn) x hBelow

------------------------------------------------------------
-- Paths One behind the Other
------------------------------------------------------------

/- A path from nodes that are kept leads to nodes that are kept. -/
theorem keepNew_resolvePath
    {nodes : List N}
    (hNodes : ∀ n ∈ nodes, U n)
    (hKept : keepNew [] nodes = nodes)
    (path : Path) :
    keepNew [] (resolvePath nodes path) = resolvePath nodes path := by
  induction path generalizing nodes with
  | nil =>
      have hFilled : nodes.filter (!isEmpty ·) = nodes := by
        rw [List.filter_eq_self]
        intro n hn
        rw [← hKept] at hn
        rw [(mem_of_mem_keepNew hn).2]
        rfl
      rw [resolvePath_nil, hFilled]
      exact hKept
  | cons label path ih =>
      rcases exists_narrow_eq hDocument label with ⟨below, hIn, hNarrow⟩
      have hPool : ∀ x ∈ (nodes.filter (!isEmpty ·)).flatMap below,
          U x := by
        intro x hx
        rcases List.mem_flatMap.mp hx with ⟨n, hn, hBelow⟩
        exact hIn n (hNodes n (List.mem_filter.mp hn).1) x hBelow
      rw [resolvePath_cons, hNarrow]
      apply ih
      · intro x hx
        exact hPool x (mem_of_mem_keepNew hx).1
      · exact keptAlike_keepNew hDocument hPool []

/-
  Of two paths one behind the other the second may be walked
  from every node that the first one leads to, if repetitions
  are dropped at the end.
-/
theorem resolvePath_append_eq_keepNew
    {root : N}
    (hRoot : U root)
    (path more : Path) :
    resolvePath [root] (path ++ more) =
      keepNew [] ((resolvePath [root] path).flatMap fun n =>
        resolvePath [n] more) := by
  have hNodes : ∀ n ∈ [root].filter (!isEmpty ·), U n := by
    intro n hn
    rw [List.mem_singleton.mp (List.mem_filter.mp hn).1]
    exact hRoot
  have hKept :
      keepNew [] ([root].filter (!isEmpty ·)) =
        [root].filter (!isEmpty ·) := by
    cases hEmpty : isEmpty root <;> simp [keepNew, hEmpty]
  have hFirst :
      ∀ n ∈ resolvePath ([root].filter (!isEmpty ·)) path, U n :=
    mem_of_mem_resolvePath hDocument hNodes
  have hFirstKept := keepNew_resolvePath hDocument hNodes hKept path
  rw [resolvePath_append, ← resolvePath_filter [root]]
  calc
    resolvePath (resolvePath ([root].filter (!isEmpty ·)) path) more =
        keepNew [] (resolvePath
          (resolvePath ([root].filter (!isEmpty ·)) path) more) :=
      (keepNew_resolvePath hDocument hFirst hFirstKept more).symm
    _ = keepNew [] ((resolvePath ([root].filter (!isEmpty ·)) path).flatMap
          fun n => resolvePath [n] more) :=
      keptAlike_resolvePath hDocument hFirst more []

end Document

/- Some nodes without the handles on nodes that were there before. -/
def firstHandles (nodes : List N) : List N :=
  nodes.eraseDupsBy fun later earlier => sameNode earlier later

/- Among nodes that are not empty the first handles are kept. -/
theorem firstHandles_eq_keepNew
    {nodes : List N}
    (hFilled : ∀ n ∈ nodes, isEmpty n = false) :
    firstHandles nodes = keepNew [] nodes := by
  have hLoop : ∀ seen,
      List.eraseDupsBy.loop
        (fun later earlier => sameNode earlier later) nodes seen.reverse =
          seen ++ keepNew seen nodes := by
    induction nodes with
    | nil =>
        intro seen
        rw [List.eraseDupsBy.loop, List.reverse_reverse, keepNew,
          List.append_nil]
    | cons n nodes ih =>
        intro seen
        rw [List.forall_mem_cons] at hFilled
        rw [List.eraseDupsBy.loop, keepNew, hFilled.1, Bool.false_or,
          List.any_reverse]
        split
        · rename_i hSeen
          rw [if_pos hSeen]
          exact ih hFilled.2 seen
        · rename_i hNew
          have hNext := ih hFilled.2 (seen ++ [n])
          rw [List.reverse_concat] at hNext
          rw [hNew, if_neg Bool.false_ne_true, hNext, List.append_assoc,
            List.singleton_append]
  exact hLoop []

end Cursor

------------------------------------------------------------
-- Expressions with One Level
------------------------------------------------------------

namespace Selector

variable {N : Type}
variable [Cursor N]

open Cursor

/- A plain tail picks the nodes that its path leads to. -/
theorem filterMap_node?_pickTail
    {tail : Tail}
    (hPlain : tail.multi = none)
    (p : Position)
    (n : N) :
    (pickTail tail p n).filterMap Match.node? =
      resolvePath [n] tail.path := by
  rw [pickTail, hPlain, List.filterMap_map]
  exact List.filterMap_some

/- Crossing a level leads to its matches one by one. -/
theorem map_node_crossings (level : Level) (node : N) :
    (crossings level node).map Crossing.node = (spread level node).2 := by
  rw [crossings, List.map_map]
  exact List.zipIdx_map_fst 0 (spread level node).2

/- Without levels the tail is picked below the root. -/
theorem filterMap_node?_resolve_of_levels_eq_nil
    {s : Selector}
    (hLevels : s.levels = [])
    (hPlain : s.tail.multi = none)
    (root : N) :
    (resolve root s).filterMap Match.node? =
      resolvePath [root] s.tail.path := by
  rw [resolve, hLevels, walk, filterMap_node?_pickTail hPlain]

/- With one level the tail is picked below each of its matches. -/
theorem filterMap_node?_resolve_of_levels_eq_singleton
    {s : Selector}
    {level : Level}
    (hLevels : s.levels = [level])
    (hPlain : s.tail.multi = none)
    (root : N) :
    (resolve root s).filterMap Match.node? =
      (spread level root).2.flatMap fun n =>
        resolvePath [n] s.tail.path := by
  rw [resolve, hLevels, walk_cons, List.filterMap_flatMap,
    ← map_node_crossings, List.flatMap_map]
  congr 1
  funext c
  rw [walk, filterMap_node?_pickTail hPlain]

end Selector

------------------------------------------------------------
-- Pages of Markup
------------------------------------------------------------

namespace Markup

open Cursor

/- The elements of a document are the nodes of one. -/
theorem Element.isDocument_isIn (d : Document) :
    IsDocument (Element.IsIn d) where
  self := by
    intro x _
    exact beq_self_eq_true x.path
  same := by
    intro x y hx hy hSame
    exact hx.eq_of_path_eq hy (beq_iff_eq.mp hSame)
  select := by
    intro label
    cases hParse : Css.parse? label with
    | none =>
        exact .inr fun n => ⟨_, Element.select_of_parse?_eq_none hParse n⟩
    | some chains =>
        refine .inl ⟨_, Element.select_of_parse? hParse, ?_⟩
        intro n hn x hx
        exact hn.below (List.mem_filter.mp hx).1

/- The elements that a path leads to repeat as they are. -/
theorem expand_elements (nodes : List Element) :
    expand nodes = nodes :=
  List.flatMap_singleton' nodes

/- With one path as its level, a list has its tail below each match. -/
theorem filterMap_node?_list
    {list : Selector}
    {path more : Path}
    (hList :
      list.levels = [⟨false, path, none⟩] ∧ list.tail = ⟨more, none⟩)
    (root : Element) :
    (list.resolve root).filterMap Match.node? =
      (resolvePath [root] path).flatMap fun n =>
        resolvePath [n] more := by
  rcases hList with ⟨hOne, hRest⟩
  rw [Selector.filterMap_node?_resolve_of_levels_eq_singleton hOne
    (by rw [hRest]), hRest]
  simp only [Selector.spread, expand_elements]

/-
  A cascade of two paths leads to the elements that the list
  expression with the first path as its level and the second as
  its tail leads to, each of them once, in the order in which
  they are first found.
-/
theorem resolve_cascade
    (d : Document)
    (path more : Path)
    (cascade list : Selector)
    (hCascade :
      cascade.levels = [] ∧ cascade.tail = ⟨path ++ more, none⟩)
    (hList :
      list.levels = [⟨false, path, none⟩] ∧ list.tail = ⟨more, none⟩) :
    (cascade.resolve d.element).filterMap Match.node? =
      firstHandles
        ((list.resolve d.element).filterMap Match.node?) := by
  rcases hCascade with ⟨hNone, hWhole⟩
  have hFilled : ∀ x ∈ (resolvePath [d.element] path).flatMap fun n =>
      resolvePath [n] more, isEmpty x = false := by
    intro x hx
    rcases List.mem_flatMap.mp hx with ⟨n, _, hn⟩
    exact isEmpty_of_mem_resolvePath hn
  rw [Selector.filterMap_node?_resolve_of_levels_eq_nil hNone
    (by rw [hWhole]), hWhole, filterMap_node?_list hList,
    firstHandles_eq_keepNew hFilled]
  exact resolvePath_append_eq_keepNew (Element.isDocument_isIn d)
    (Element.isIn_element d) path more

/- A paragraph in a box that is in a box. -/
def boxInBox : Document :=
  let plain (name : String) : Tag := ⟨.html, name, []⟩
  ⟨false, plain "html", [.element (plain "div") [
    .element (plain "div") [.element (plain "p") [.text "x"]]]]⟩

/- The outer box. -/
def outerBox : Element :=
  ⟨false, [⟨⟨.html, "html", []⟩, [], []⟩], ⟨.html, "div", []⟩,
    [.element ⟨.html, "div", []⟩
      [.element ⟨.html, "p", []⟩ [.text "x"]]]⟩

/- The box in it. -/
def innerBox : Element :=
  ⟨false, [⟨⟨.html, "div", []⟩, [], []⟩, ⟨⟨.html, "html", []⟩, [], []⟩],
    ⟨.html, "div", []⟩, [.element ⟨.html, "p", []⟩ [.text "x"]]⟩

/- The paragraph in the boxes. -/
def boxedParagraph : Element :=
  ⟨false,
    [⟨⟨.html, "div", []⟩, [], []⟩, ⟨⟨.html, "div", []⟩, [], []⟩,
      ⟨⟨.html, "html", []⟩, [], []⟩],
    ⟨.html, "p", []⟩, [.text "x"]⟩

/- The page has the two boxes. -/
theorem resolvePath_boxInBox :
    resolvePath [boxInBox.element] ["div"] = [outerBox, innerBox] := by
  have hLower : "div".toLower = "div" := by decide +kernel
  have hOuter : isEmpty outerBox = false := by decide +kernel
  have hInner : isEmpty innerBox = false := by decide +kernel
  have hApart : sameNode outerBox innerBox = false := rfl
  have hNamed : boxInBox.element.named "div" =
      keepNew [] [outerBox, innerBox] := by
    simp [Element.named, Element.below, Element.among, Css.nameOn,
      Document.element, boxInBox, outerBox, innerBox, hLower]
  rw [Element.resolvePath_name rfl (by decide +kernel), hNamed]
  simp [keepNew, hOuter, hInner, hApart]

/- Each of the boxes leads to the paragraph. -/
theorem resolvePath_of_mem_boxes :
    ∀ box ∈ [outerBox, innerBox],
      resolvePath [box] ["p"] = [boxedParagraph] := by
  have hLower : "p".toLower = "p" := by decide +kernel
  have hFilled : isEmpty boxedParagraph = false := by decide +kernel
  have hKept : keepNew [] [boxedParagraph] = [boxedParagraph] := by
    simp [keepNew, hFilled]
  intro box hBox
  have hBoxFilled : isEmpty box = false := by
    revert box
    decide +kernel
  rw [Element.resolvePath_name rfl hBoxFilled, ← hKept]
  simp only [List.mem_cons, List.not_mem_nil, or_false] at hBox
  rcases hBox with rfl | rfl
  · simp [Element.named, Element.below, Element.among, Css.nameOn,
      outerBox, boxedParagraph, hLower]
  · simp [Element.named, Element.below, Element.among, Css.nameOn,
      innerBox, boxedParagraph, hLower]

/- The paragraph is found below both boxes, or once. -/
theorem resolve_cascade_sample :
    ∃ cascade list : Selector,
      Selector.parse "div|p" = .ok cascade ∧
      Selector.parse "div;p" = .ok list ∧
      (list.resolve boxInBox.element).filterMap Match.node? =
        [boxedParagraph, boxedParagraph] ∧
      (cascade.resolve boxInBox.element).filterMap Match.node? =
        [boxedParagraph] := by
  let cascade : Selector := ⟨"div|p", [], ⟨["div", "p"], none⟩⟩
  let list : Selector :=
    ⟨"div;p", [⟨false, ["div"], none⟩], ⟨["p"], none⟩⟩
  have hCascade : Selector.parse "div|p" = .ok cascade := by
    decide +kernel
  have hList : Selector.parse "div;p" = .ok list := by
    decide +kernel
  have hTwice :
      (list.resolve boxInBox.element).filterMap Match.node? =
        [boxedParagraph, boxedParagraph] := by
    rw [filterMap_node?_list ⟨rfl, rfl⟩, resolvePath_boxInBox,
      List.flatMap_cons, List.flatMap_singleton,
      resolvePath_of_mem_boxes outerBox List.mem_cons_self,
      resolvePath_of_mem_boxes innerBox (by simp)]
    rfl
  have hOnce :
      firstHandles [boxedParagraph, boxedParagraph] =
        [boxedParagraph] := by
    rfl
  refine ⟨cascade, list, hCascade, hList, hTwice, ?_⟩
  rw [resolve_cascade boxInBox ["div"] ["p"] cascade list ⟨rfl, rfl⟩
    ⟨rfl, rfl⟩, hTwice, hOnce]

end Markup

end Gleaner
