import Gleaner.Markup.Arena
import Gleaner.Proofs.Markup.References

/-
  Trees under construction that grow at their end only: the open
  elements are each the last child of the one around it, and what
  is below them is finished.  Texts are kept character by
  character, and comments are left out of the account.

  Main declarations:
    * `Markup.Arena.add`
    * `Markup.Grown`
    * `Markup.Level`
    * `Markup.Spine`
    * `Markup.Spine.addOpen`
    * `Markup.Spine.pop`
    * `Markup.closed`
    * `Markup.Spine.appendText`
    * `Markup.Spine.alike_nodesBelow`
-/

namespace Gleaner

namespace Markup

------------------------------------------------------------
-- Cells
------------------------------------------------------------

namespace Arena

/- The number of cells. -/
def size (a : Arena) : Nat :=
  a.cells.size

theorem cell_update_self
    {a : Arena}
    {id : Nat}
    (hId : id < a.size)
    (f : Cell → Cell) :
    (a.update id f).cell id = f (a.cell id) := by
  unfold size at hId
  simp [update, cell, Array.getElem_modify, hId]

theorem cell_update_of_ne
    {a : Arena}
    {id i : Nat}
    (hNe : i ≠ id)
    (f : Cell → Cell) :
    (a.update id f).cell i = a.cell i := by
  simp only [update, cell, Array.getD_eq_getD_getElem?,
    Array.getElem?_modify, if_neg hNe.symm]

theorem size_update (a : Arena) (id : Nat) (f : Cell → Cell) :
    (a.update id f).size = a.size := by
  simp [update, size]

theorem cell_create_self (a : Arena) (content : Content) :
    (a.create content).1.cell a.size = ⟨content, none, []⟩ := by
  simp [create, cell, size]

theorem cell_create_of_lt
    {a : Arena}
    {i : Nat}
    (hi : i < a.size)
    (content : Content) :
    (a.create content).1.cell i = a.cell i := by
  unfold size at hi
  simp [create, cell, Array.getElem?_push, Nat.ne_of_lt hi]

theorem size_create (a : Arena) (content : Content) :
    (a.create content).1.size = a.size + 1 := by
  simp [create, size]

/- Put a new cell behind the children of a cell. -/
def add (a : Arena) (parent : Nat) (content : Content) : Arena :=
  (a.create content).1.append parent a.size

theorem add_eq (a : Arena) (parent : Nat) (content : Content) :
    a.add parent content =
      ((a.create content).1.update parent fun c =>
        { c with children := c.children ++ [a.size] }).update a.size
          fun c => { c with parent := some parent } := by
  have hNone : ((a.create content).1.cell a.size).parent = none := by
    rw [cell_create_self]
  rw [add, append, detach, hNone]

variable {a : Arena}
variable {parent i : Nat}

theorem size_add (a : Arena) (parent : Nat) (content : Content) :
    (a.add parent content).size = a.size + 1 := by
  rw [add_eq, size_update, size_update, size_create]

/- The new cell is a child of its parent and has no children. -/
theorem cell_add_self
    (hParent : parent < a.size)
    (content : Content) :
    (a.add parent content).cell a.size = ⟨content, some parent, []⟩ := by
  have hSize : a.size < ((a.create content).1.update parent fun c =>
      { c with children := c.children ++ [a.size] }).size := by
    rw [size_update, size_create]
    omega
  rw [add_eq, cell_update_self hSize,
    cell_update_of_ne (Nat.ne_of_gt hParent), cell_create_self]

theorem cell_add_parent
    (hParent : parent < a.size)
    (content : Content) :
    (a.add parent content).cell parent =
      { a.cell parent with
        children := (a.cell parent).children ++ [a.size] } := by
  have hSize : parent < (a.create content).1.size := by
    rw [size_create]
    omega
  rw [add_eq, cell_update_of_ne (Nat.ne_of_lt hParent),
    cell_update_self hSize, cell_create_of_lt hParent]

theorem cell_add_of_ne
    (hi : i < a.size)
    (hNe : i ≠ parent)
    (content : Content) :
    (a.add parent content).cell i = a.cell i := by
  rw [add_eq, cell_update_of_ne (Nat.ne_of_lt hi), cell_update_of_ne hNe,
    cell_create_of_lt hi]

end Arena

------------------------------------------------------------
-- Finished Nodes
------------------------------------------------------------

/- Two cells hold the same, wherever they stand. -/
def Cell.Alike (c c' : Cell) : Prop :=
  c'.children = c.children ∧ c'.content = c.content

theorem Cell.Alike.refl (c : Cell) : c.Alike c :=
  ⟨rfl, rfl⟩

/-
  Some cells, one after another between two bounds, are the nodes
  given: texts are cut into characters, and comments left out.
-/
inductive Grown (a : Arena) :
    Nat → Nat → List Nat → List Node → Prop
  | nil
      {low high : Nat}
      (hBounds : low ≤ high) :
      Grown a low high [] []
  | text
      {low high id : Nat}
      {ids : List Nat}
      {s : String}
      {nodes : List Node}
      (hLow : low ≤ id)
      (hText : (a.cell id).content = .text s)
      (hRest : Grown a (id + 1) high ids nodes) :
      Grown a low high (id :: ids) (Node.letters s.toList ++ nodes)
  | comment
      {low high id : Nat}
      {ids : List Nat}
      {s : String}
      {nodes : List Node}
      (hLow : low ≤ id)
      (hComment : (a.cell id).content = .comment s)
      (hRest : Grown a (id + 1) high ids nodes) :
      Grown a low high (id :: ids) nodes
  | element
      {low middle high id : Nat}
      {ids : List Nat}
      {tag : Tag}
      {children nodes : List Node}
      (hLow : low ≤ id)
      (hTag : (a.cell id).content = .element tag)
      (hChildren :
        Grown a (id + 1) middle (a.cell id).children children)
      (hRest : Grown a middle high ids nodes) :
      Grown a low high (id :: ids) (.element tag children :: nodes)

namespace Grown

variable {a a' : Arena}
variable {low middle high : Nat}
variable {ids more : List Nat}
variable {nodes others : List Node}

theorem le (h : Grown a low high ids nodes) : low ≤ high := by
  induction h with
  | nil hBounds => exact hBounds
  | text hLow _ _ ih => omega
  | comment hLow _ _ ih => omega
  | element hLow _ _ _ ihChildren ihRest => omega

theorem le_of_mem
    (h : Grown a low high ids nodes)
    {id : Nat}
    (hId : id ∈ ids) :
    low ≤ id := by
  induction h with
  | nil => cases hId
  | text hLow _ _ ih =>
      rcases List.mem_cons.mp hId with rfl | hId
      · exact hLow
      · have := ih hId
        omega
  | comment hLow _ _ ih =>
      rcases List.mem_cons.mp hId with rfl | hId
      · exact hLow
      · have := ih hId
        omega
  | element hLow _ hChildren _ _ ihRest =>
      rcases List.mem_cons.mp hId with rfl | hId
      · exact hLow
      · have := ihRest hId
        have := hChildren.le
        omega

/- Cells that are changed elsewhere are the same nodes. -/
theorem congr
    (h : Grown a low high ids nodes)
    (hAlike : ∀ i, low ≤ i → i < high → (a.cell i).Alike (a'.cell i)) :
    Grown a' low high ids nodes := by
  induction h with
  | nil hBounds => exact .nil hBounds
  | text hLow hText hRest ih =>
      have hBound := hRest.le
      exact .text hLow ((hAlike _ hLow (by omega)).2.trans hText)
        (ih fun i hi => hAlike i (by omega))
  | comment hLow hComment hRest ih =>
      have hBound := hRest.le
      exact .comment hLow ((hAlike _ hLow (by omega)).2.trans hComment)
        (ih fun i hi => hAlike i (by omega))
  | element hLow hTag hChildren hRest ihChildren ihRest =>
      have hBound := hChildren.le
      have hEnd := hRest.le
      have hHere := hAlike _ hLow (by omega)
      refine .element hLow (hHere.2.trans hTag) ?_
        (ihRest fun i hi => hAlike i (by omega))
      rw [hHere.1]
      exact ihChildren fun i hi hEnd => hAlike i (by omega) (by omega)

theorem append
    (h : Grown a low middle ids nodes)
    (hMore : Grown a middle high more others) :
    Grown a low high (ids ++ more) (nodes ++ others) := by
  induction h with
  | nil hBounds =>
      cases hMore with
      | nil hRest => exact .nil (by omega)
      | text hLow hText hRest => exact .text (by omega) hText hRest
      | comment hLow hComment hRest =>
          exact .comment (by omega) hComment hRest
      | element hLow hTag hChildren hRest =>
          exact .element (by omega) hTag hChildren hRest
  | text hLow hText _ ih =>
      rw [List.append_assoc]
      exact .text hLow hText (ih hMore)
  | comment hLow hComment _ ih => exact .comment hLow hComment (ih hMore)
  | element hLow hTag hChildren _ _ ihRest =>
      exact .element hLow hTag hChildren (ihRest hMore)

/- The text that the nodes end with is made longer. -/
theorem extend
    (h : Grown a low high ids nodes)
    {last : Nat}
    {s more : String}
    (hLast : ids.getLast? = some last)
    (hText : (a.cell last).content = .text s)
    (hHere : (a'.cell last).content = .text (s ++ more))
    (hOther : ∀ i, i ≠ last → (a.cell i).Alike (a'.cell i)) :
    Grown a' low high ids (nodes ++ Node.letters more.toList) := by
  induction h with
  | nil => cases hLast
  | @text _ _ id ids s' nodes hLow hWords hRest ih =>
      cases ids with
      | nil =>
          cases hRest
          rename_i hBounds
          rw [List.getLast?_singleton, Option.some.injEq] at hLast
          subst hLast
          rw [hText] at hWords
          cases hWords
          have hLonger := Grown.text hLow hHere (.nil hBounds)
          rw [List.append_nil]
          rwa [String.toList_append, Node.letters_append,
            List.append_nil] at hLonger
      | cons next ids =>
          rw [List.getLast?_cons_cons] at hLast
          have hBehind := hRest.le_of_mem (List.mem_of_getLast? hLast)
          rw [List.append_assoc]
          exact .text hLow ((hOther _ (by omega)).2.trans hWords)
            (ih hLast)
  | @comment _ _ id ids s' nodes hLow hComment hRest ih =>
      cases ids with
      | nil =>
          rw [List.getLast?_singleton, Option.some.injEq] at hLast
          subst hLast
          rw [hText] at hComment
          cases hComment
      | cons next ids =>
          rw [List.getLast?_cons_cons] at hLast
          have hBehind := hRest.le_of_mem (List.mem_of_getLast? hLast)
          exact .comment hLow ((hOther _ (by omega)).2.trans hComment)
            (ih hLast)
  | @element low middle high id ids tag children nodes hLow hTag hChildren
      hRest ihChildren ihRest =>
      cases ids with
      | nil =>
          rw [List.getLast?_singleton, Option.some.injEq] at hLast
          subst hLast
          rw [hText] at hTag
          cases hTag
      | cons next ids =>
          rw [List.getLast?_cons_cons] at hLast
          have hBehind := hRest.le_of_mem (List.mem_of_getLast? hLast)
          have hBound := hChildren.le
          have hFirst := hOther id (by omega)
          refine .element hLow (hFirst.2.trans hTag) ?_ (ihRest hLast)
          rw [hFirst.1]
          exact hChildren.congr fun i _ hi => hOther i (by omega)

/-
  The finished tree shows the nodes.  A child has a higher number
  than its parent, so that no path is longer than the space
  between the bounds.
-/
theorem alike_nodesWithin
    (h : Grown a low high ids nodes) :
    ∀ left, high - low ≤ left →
      Node.Alike (a.nodesWithin left ids) nodes := by
  induction h with
  | nil =>
      intro left _
      cases left with
      | zero => exact .refl []
      | succ left => exact .refl []
  | @text low high id ids s nodes hLow hText hRest ih =>
      intro left hLeft
      have hBound := hRest.le
      obtain ⟨left, rfl⟩ : ∃ n, left = n + 1 := ⟨left - 1, by omega⟩
      have hOthers := ih (left + 1) (by omega)
      rw [Arena.nodesWithin] at hOthers ⊢
      rw [List.filterMap_cons]
      simp only [hText]
      exact (Node.alike_letters s).append hOthers
  | @comment low high id ids s nodes hLow hComment hRest ih =>
      intro left hLeft
      have hBound := hRest.le
      obtain ⟨left, rfl⟩ : ∃ n, left = n + 1 := ⟨left - 1, by omega⟩
      have hOthers := ih (left + 1) (by omega)
      rw [Arena.nodesWithin] at hOthers ⊢
      rw [List.filterMap_cons]
      simp only [hComment]
      exact (Node.Alike.comment s).append hOthers
  | @element low middle high id ids tag children nodes hLow hTag hChildren
      hRest ihChildren ihRest =>
      intro left hLeft
      have hBound := hChildren.le
      have hEnd := hRest.le
      obtain ⟨left, rfl⟩ : ∃ n, left = n + 1 := ⟨left - 1, by omega⟩
      have hOthers := ihRest (left + 1) (by omega)
      have hBelow := ihChildren left (by omega)
      rw [Arena.nodesWithin] at hOthers ⊢
      rw [List.filterMap_cons]
      simp only [hTag]
      exact (hBelow.element tag).append hOthers

end Grown

------------------------------------------------------------
-- Open Elements
------------------------------------------------------------

/- An open element and the nodes that it has so far. -/
structure Level where
  tag : Tag
  nodes : List Node

/-
  The open elements around an element, which is the last child of
  the innermost one, or of the document.
-/
inductive Outer (a : Arena) : Nat → List Nat → List Level → Prop
  | document
      {id : Nat}
      (hId : 0 < id)
      (hChildren : (a.cell 0).children = [id]) :
      Outer a id [] []
  | level
      {inner id : Nat}
      {ids children : List Nat}
      {tag : Tag}
      {nodes : List Node}
      {levels : List Level}
      (hTag : (a.cell id).content = .element tag)
      (hChildren : (a.cell id).children = children ++ [inner])
      (hNodes : Grown a (id + 1) inner children nodes)
      (hOuter : Outer a id ids levels) :
      Outer a inner (id :: ids) (⟨tag, nodes⟩ :: levels)

/- The open elements, the innermost one first. -/
inductive Spine (a : Arena) : List Nat → List Level → Prop
  | intro
      {id : Nat}
      {ids : List Nat}
      {tag : Tag}
      {nodes : List Node}
      {levels : List Level}
      (hTag : (a.cell id).content = .element tag)
      (hNodes : Grown a (id + 1) a.size (a.cell id).children nodes)
      (hOuter : Outer a id ids levels) :
      Spine a (id :: ids) (⟨tag, nodes⟩ :: levels)

theorem Outer.congr
    {a a' : Arena}
    {inner : Nat}
    {ids : List Nat}
    {levels : List Level}
    (h : Outer a inner ids levels)
    (hAlike : ∀ i < inner, (a.cell i).Alike (a'.cell i)) :
    Outer a' inner ids levels := by
  induction h with
  | document hId hChildren =>
      exact .document hId ((hAlike 0 hId).1.trans hChildren)
  | @level _ id _ _ _ _ _ hTag hChildren hNodes _ ih =>
      have hBound := hNodes.le
      have hHere := hAlike id (by omega)
      exact .level (hHere.2.trans hTag) (hHere.1.trans hChildren)
        (hNodes.congr fun i _ hi => hAlike i hi)
        (ih fun i hi => hAlike i (by omega))

/- The open elements are older the further out they are. -/
theorem Outer.lt
    {a : Arena}
    {inner : Nat}
    {ids : List Nat}
    {levels : List Level}
    (h : Outer a inner ids levels) :
    ∀ id ∈ ids, id < inner := by
  induction h with
  | document => simp
  | level _ _ hNodes _ ih =>
      have hBound := hNodes.le
      intro i hi
      rcases List.mem_cons.mp hi with rfl | hi
      · omega
      · have hLess := ih i hi
        omega

namespace Spine

variable {a a' : Arena}
variable {id : Nat}
variable {ids : List Nat}
variable {tag : Tag}
variable {nodes : List Node}
variable {level : Level}
variable {levels : List Level}

/- The tags of the open elements are those of the levels. -/
theorem map_tagOf
    (h : Spine a ids levels) :
    ids.map a.tagOf = levels.map (·.tag) := by
  have hOuter :
      ∀ {inner ids levels}, Outer a inner ids levels →
        ids.map a.tagOf = levels.map (·.tag) := by
    intro inner ids levels hOuter
    induction hOuter with
    | document => rfl
    | level hTag _ _ _ ih =>
        rw [List.map_cons, List.map_cons, ih, Arena.tagOf, hTag]
  cases h with
  | intro hTag _ hRest =>
      rw [List.map_cons, List.map_cons, hOuter hRest, Arena.tagOf, hTag]

theorem pairwise_gt
    (h : Spine a ids levels) :
    ids.Pairwise (· > ·) := by
  have hOuter :
      ∀ {inner ids levels}, Outer a inner ids levels →
        ids.Pairwise (· > ·) := by
    intro inner ids levels hOuter
    induction hOuter with
    | document => exact .nil
    | level _ _ _ hRest ih => exact .cons hRest.lt ih
  cases h with
  | intro _ _ hRest => exact .cons hRest.lt (hOuter hRest)

/- The innermost open element is an element that exists. -/
theorem lt_size
    (h : Spine a (id :: ids) levels) :
    id < a.size := by
  cases h with
  | intro _ hNodes _ => exact hNodes.le

section Add

variable {content : Content}

/- What is around the innermost element is not touched. -/
theorem outer_add
    (hId : id < a.size)
    (hOuter : Outer a id ids levels) :
    Outer (a.add id content) id ids levels := by
  apply hOuter.congr
  intro i hi
  have hOld : i < a.size := Nat.lt_trans hi hId
  rw [Arena.cell_add_of_ne hOld (Nat.ne_of_lt hi)]
  exact .refl _

theorem grown_add
    {children : List Nat}
    (hNodes : Grown a (id + 1) a.size children nodes) :
    Grown (a.add id content) (id + 1) a.size children nodes := by
  apply hNodes.congr
  intro i hLow hHigh
  rw [Arena.cell_add_of_ne hHigh (by omega)]
  exact .refl _

/- What a new child shows stands behind the other nodes. -/
theorem addChild
    {more : List Node}
    (h : Spine a (id :: ids) (⟨tag, nodes⟩ :: levels))
    (hNew :
      Grown (a.add id content) a.size (a.size + 1) [a.size] more) :
    Spine (a.add id content) (id :: ids)
      (⟨tag, nodes ++ more⟩ :: levels) := by
  have hId := h.lt_size
  cases h with
  | intro hTag hNodes hOuter =>
      refine .intro ?_ ?_ (outer_add hId hOuter)
      · rw [Arena.cell_add_parent hId]
        exact hTag
      · rw [Arena.cell_add_parent hId, Arena.size_add]
        exact (grown_add hNodes).append hNew

/- A new comment. -/
theorem addComment
    (h : Spine a (id :: ids) levels)
    (s : String) :
    Spine (a.add id (.comment s)) (id :: ids) levels := by
  have hId := h.lt_size
  have hNew :
      Grown (a.add id (.comment s)) a.size (a.size + 1) [a.size] [] :=
    .comment (Nat.le_refl _) (by rw [Arena.cell_add_self hId])
      (.nil (Nat.le_refl _))
  cases levels with
  | nil => cases h
  | cons level levels =>
      have hAll := h.addChild hNew
      rwa [List.append_nil] at hAll

/- A new text. -/
theorem addText
    (h : Spine a (id :: ids) (⟨tag, nodes⟩ :: levels))
    (s : String) :
    Spine (a.add id (.text s)) (id :: ids)
      (⟨tag, nodes ++ Node.letters s.toList⟩ :: levels) := by
  have hId := h.lt_size
  have hNew :
      Grown (a.add id (.text s)) a.size (a.size + 1) [a.size]
        (Node.letters s.toList ++ []) :=
    .text (Nat.le_refl _) (by rw [Arena.cell_add_self hId])
      (.nil (Nat.le_refl _))
  rw [List.append_nil] at hNew
  exact h.addChild hNew

/- The text that the innermost element ends with is made longer. -/
theorem updateText
    (h : Spine a (id :: ids) (⟨tag, nodes⟩ :: levels))
    {last : Nat}
    {words more : String}
    (hLast : (a.cell id).children.getLast? = some last)
    (hContent : (a.cell last).content = .text words)
    {f : Cell → Cell}
    (hWords : (f (a.cell last)).content = .text (words ++ more)) :
    Spine (a.update last f) (id :: ids)
      (⟨tag, nodes ++ Node.letters more.toList⟩ :: levels) := by
  have hSize : last < a.size := by
    apply Nat.lt_of_not_le
    intro hNone
    unfold Arena.size at hNone
    have hEmpty : (a.cell last).content = .document := by
      simp [Arena.cell, Array.getD, Nat.not_lt.mpr hNone]
    rw [hEmpty] at hContent
    cases hContent
  have hOther : ∀ i, i ≠ last →
      (a.cell i).Alike ((a.update last f).cell i) := by
    intro i hi
    rw [Arena.cell_update_of_ne hi]
    exact .refl _
  cases h with
  | intro hTag hNodes hOuter =>
      have hBehind := hNodes.le_of_mem (List.mem_of_getLast? hLast)
      have hSelf := hOther id (by omega)
      refine .intro (hSelf.2.trans hTag) ?_
        (hOuter.congr fun i hi => hOther i (by omega))
      rw [hSelf.1, Arena.size_update]
      refine hNodes.extend hLast hContent ?_ hOther
      rw [Arena.cell_update_self hSize, hWords]

/- Text goes to the text that the innermost element ends with. -/
theorem appendText
    (h : Spine a (id :: ids) (⟨tag, nodes⟩ :: levels))
    (s : String) :
    Spine (a.appendText id s) (id :: ids)
      (⟨tag, nodes ++ Node.letters s.toList⟩ :: levels) := by
  have hFresh := h.addText s
  cases hLast : (a.cell id).children.getLast? with
  | none =>
      simp only [Arena.appendText, hLast]
      exact hFresh
  | some last =>
      cases hContent : (a.cell last).content with
      | text words =>
          simp only [Arena.appendText, hLast, Arena.extend, hContent]
          exact h.updateText hLast hContent (by simp only [hContent])
      | document =>
          simp only [Arena.appendText, hLast, Arena.extend, hContent]
          exact hFresh
      | element t =>
          simp only [Arena.appendText, hLast, Arena.extend, hContent]
          exact hFresh
      | comment words =>
          simp only [Arena.appendText, hLast, Arena.extend, hContent]
          exact hFresh

/- A new element without children. -/
theorem addClosed
    (h : Spine a (id :: ids) (⟨tag, nodes⟩ :: levels))
    (t : Tag) :
    Spine (a.add id (.element t)) (id :: ids)
      (⟨tag, nodes ++ [.element t []]⟩ :: levels) := by
  have hId := h.lt_size
  apply h.addChild
  refine .element (Nat.le_refl _) (by rw [Arena.cell_add_self hId]) ?_
    (.nil (Nat.le_refl _))
  rw [Arena.cell_add_self hId]
  exact .nil (Nat.le_refl _)

/- A new element that is open. -/
theorem addOpen
    (h : Spine a (id :: ids) levels)
    (t : Tag) :
    Spine (a.add id (.element t)) (a.size :: id :: ids)
      (⟨t, []⟩ :: levels) := by
  have hId := h.lt_size
  cases h with
  | intro hTag hNodes hOuter =>
      refine .intro (by rw [Arena.cell_add_self hId]) ?_ ?_
      · rw [Arena.cell_add_self hId, Arena.size_add]
        exact .nil (Nat.le_refl _)
      · refine .level ?_ ?_ (grown_add hNodes) (outer_add hId hOuter)
        · rw [Arena.cell_add_parent hId]
          exact hTag
        · rw [Arena.cell_add_parent hId]

end Add

/- The innermost element is closed, and nothing is moved. -/
theorem pop
    {t : Tag}
    {children : List Node}
    (h : Spine a (id :: ids)
      (⟨t, children⟩ :: ⟨tag, nodes⟩ :: levels)) :
    Spine a ids (⟨tag, nodes ++ [.element t children]⟩ :: levels) := by
  cases h with
  | intro hTag hNodes hOuter =>
      cases hOuter with
      | level hTagOuter hChildren hBefore hRest =>
          refine .intro hTagOuter ?_ hRest
          rw [hChildren]
          exact hBefore.append
            (.element (Nat.le_refl _) hTag hNodes (.nil (Nat.le_refl _)))

end Spine

------------------------------------------------------------
-- The Finished Tree
------------------------------------------------------------

/- The nodes of the outermost element once all elements are closed. -/
def closedFrom (tag : Tag) (nodes : List Node) : List Level → List Node
  | [] => nodes
  | level :: levels =>
      closedFrom level.tag (level.nodes ++ [.element tag nodes]) levels

def closed : List Level → List Node
  | [] => []
  | level :: levels => closedFrom level.tag level.nodes levels

/- The finished tree shows the nodes of the levels. -/
theorem Spine.alike_nodesBelow
    {a : Arena}
    {ids : List Nat}
    {levels : List Level}
    (h : Spine a ids levels) :
    ∃ id tag, (a.cell 0).children = [id] ∧
      (a.cell id).content = .element tag ∧
      Node.Alike (a.nodesBelow id) (closed levels) := by
  rcases levels with _ | ⟨⟨tag, nodes⟩, levels⟩
  · cases h
  · induction levels generalizing ids tag nodes with
    | nil =>
        cases h with
        | intro hTag hNodes hOuter =>
            cases hOuter with
            | document _ hChildren =>
                refine ⟨_, tag, hChildren, hTag, ?_⟩
                exact hNodes.alike_nodesWithin a.size (Nat.sub_le _ _)
    | cons level levels ih =>
        rcases ids with _ | ⟨id, ids⟩
        · cases h
        · exact ih _ _ h.pop

end Markup

end Gleaner
