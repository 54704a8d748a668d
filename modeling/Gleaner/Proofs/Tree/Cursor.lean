import Gleaner.Selector.Resolve
import Gleaner.Tree.Page

/-
  Paths through any kind of document: what one step keeps, and
  a path as its first step and the rest.

  Main declarations:
    * `Cursor.keepNew_append`
    * `Cursor.exists_sameNode_of_mem`
    * `Cursor.isEmpty_of_mem_narrow`
    * `Cursor.narrow_of_select`
    * `Cursor.resolvePath_cons`
    * `Cursor.resolvePath_append`
    * `Cursor.resolvePath_of_isEmpty`
    * `Markup.Element.select_of_parse?`
-/

namespace Gleaner

namespace Cursor

variable {N : Type}
variable [Cursor N]

------------------------------------------------------------
-- One Step
------------------------------------------------------------

/- What is kept comes from the nodes given and is not empty. -/
theorem mem_of_mem_keepNew
    {seen nodes : List N}
    {x : N}
    (hx : x ∈ keepNew seen nodes) :
    x ∈ nodes ∧ isEmpty x = false := by
  induction nodes generalizing seen with
  | nil => cases hx
  | cons node rest ih =>
      rw [keepNew] at hx
      split at hx
      · rcases ih hx with ⟨hRest, hFilled⟩
        exact ⟨List.mem_cons_of_mem _ hRest, hFilled⟩
      · rename_i hKept
        rcases List.mem_cons.mp hx with rfl | hRest
        · rw [Bool.or_eq_true, not_or, Bool.not_eq_true] at hKept
          exact ⟨List.mem_cons_self, hKept.1⟩
        · rcases ih hRest with ⟨hMem, hFilled⟩
          exact ⟨List.mem_cons_of_mem _ hMem, hFilled⟩

/- What is kept is kept in its order. -/
theorem keepNew_sublist (seen nodes : List N) :
    (keepNew seen nodes).Sublist nodes := by
  induction nodes generalizing seen with
  | nil => exact List.Sublist.refl _
  | cons node rest ih =>
      rw [keepNew]
      split
      · exact (ih seen).cons node
      · exact (ih (seen ++ [node])).cons_cons node

/- More nodes are kept with those kept so far in mind. -/
theorem keepNew_append (seen xs ys : List N) :
    keepNew seen (xs ++ ys) =
      keepNew seen xs ++ keepNew (seen ++ keepNew seen xs) ys := by
  induction xs generalizing seen with
  | nil => rw [keepNew, List.append_nil, List.nil_append, List.nil_append]
  | cons node rest ih =>
      rw [List.cons_append, keepNew, keepNew]
      split
      · exact ih seen
      · rw [ih, List.cons_append, List.append_assoc]
        rfl

/- A node that is not empty is kept, or was seen in another place. -/
theorem exists_sameNode_of_mem
    (seen : List N)
    {nodes : List N}
    {x : N}
    (hx : x ∈ nodes)
    (hFilled : isEmpty x = false)
    (hSelf : sameNode x x = true) :
    ∃ y ∈ seen ++ keepNew seen nodes, sameNode y x = true := by
  induction nodes generalizing seen with
  | nil => cases hx
  | cons node rest ih =>
      rw [keepNew]
      rcases List.mem_cons.mp hx with rfl | hRest
      · rw [hFilled, Bool.false_or]
        split
        · rename_i hSeen
          rcases List.any_eq_true.mp hSeen with ⟨y, hy, hSame⟩
          exact ⟨y, List.mem_append_left _ hy, hSame⟩
        · refine ⟨x, ?_, hSelf⟩
          exact List.mem_append_right _ List.mem_cons_self
      · split
        · exact ih seen hRest
        · rcases ih (seen ++ [node]) hRest with ⟨y, hy, hSame⟩
          rw [List.append_assoc, List.singleton_append] at hy
          exact ⟨y, hy, hSame⟩

/- Nothing is kept of nodes that are empty or were seen. -/
theorem keepNew_eq_nil
    {seen nodes : List N}
    (hSeen : ∀ x ∈ nodes, isEmpty x = false →
      ∃ y ∈ seen, sameNode y x = true) :
    keepNew seen nodes = [] := by
  induction nodes with
  | nil => rfl
  | cons node rest ih =>
      have hDropped :
          (isEmpty node || seen.any (sameNode · node)) = true := by
        cases hEmpty : isEmpty node with
        | true => rfl
        | false =>
            rw [Bool.false_or, List.any_eq_true]
            exact hSeen node List.mem_cons_self hEmpty
      rw [keepNew, if_pos hDropped]
      exact ih fun x hx => hSeen x (List.mem_cons_of_mem _ hx)

/- What is kept was not seen before. -/
theorem sameNode_of_mem_keepNew
    {seen nodes : List N}
    {x y : N}
    (hx : x ∈ keepNew seen nodes)
    (hy : y ∈ seen) :
    sameNode y x = false := by
  induction nodes generalizing seen with
  | nil => cases hx
  | cons node rest ih =>
      rw [keepNew] at hx
      split at hx
      · exact ih hx hy
      · rename_i hKept
        rcases List.mem_cons.mp hx with rfl | hRest
        · rw [Bool.or_eq_true, not_or, Bool.not_eq_true,
            Bool.not_eq_true, List.any_eq_false] at hKept
          exact Bool.eq_false_iff.mpr (hKept.2 y hy)
        · exact ih hRest (List.mem_append_left _ hy)

/- No step leads to an empty node. -/
theorem isEmpty_of_mem_narrow
    {nodes : List N}
    {label : String}
    {x : N}
    (hx : x ∈ narrow nodes label) :
    isEmpty x = false := by
  unfold narrow selectAll at hx
  cases hFound : nodes.mapM (select · label) with
  | error e =>
      rw [hFound] at hx
      cases hx
  | ok found =>
      rw [hFound] at hx
      exact (mem_of_mem_keepNew hx).2

/- A readable label pools what is found below the nodes. -/
theorem selectAll_of_select
    {nodes : List N}
    {label : String}
    {below : N → List N}
    (hRead : ∀ n, select n label = .ok (below n)) :
    selectAll nodes label = .ok (keepNew [] (nodes.flatMap below)) := by
  have hFound :
      nodes.mapM (select · label) = Except.ok (nodes.map below) := by
    induction nodes with
    | nil => rfl
    | cons n nodes ih =>
        rw [List.mapM_cons, hRead, ih]
        rfl
  rw [selectAll, hFound]
  rfl

/- A step by a readable label pools what is found below the nodes. -/
theorem narrow_of_select
    {nodes : List N}
    {label : String}
    {below : N → List N}
    (hRead : ∀ n, select n label = .ok (below n)) :
    narrow nodes label = keepNew [] (nodes.flatMap below) := by
  rw [narrow, selectAll_of_select hRead]

------------------------------------------------------------
-- Paths
------------------------------------------------------------

/- An empty path leads to the nodes that are not empty. -/
theorem resolvePath_nil (nodes : List N) :
    resolvePath nodes [] = nodes.filter (!isEmpty ·) :=
  rfl

/- Empty nodes do not matter at the start of a path. -/
theorem resolvePath_filter (nodes : List N) (path : Path) :
    resolvePath (nodes.filter (!isEmpty ·)) path =
      resolvePath nodes path := by
  rw [resolvePath, List.filter_filter]
  simp [resolvePath]

/- A path is its first step and then the rest. -/
theorem resolvePath_cons
    (nodes : List N)
    (label : String)
    (path : Path) :
    resolvePath nodes (label :: path) =
      resolvePath (narrow (nodes.filter (!isEmpty ·)) label) path := by
  have hFilled :
      (narrow (nodes.filter (!isEmpty ·)) label).filter (!isEmpty ·) =
        narrow (nodes.filter (!isEmpty ·)) label := by
    rw [List.filter_eq_self]
    intro x hx
    rw [isEmpty_of_mem_narrow hx]
    rfl
  rw [resolvePath, List.foldl_cons, resolvePath, hFilled]

/- No path leads to an empty node. -/
theorem isEmpty_of_mem_resolvePath
    {nodes : List N}
    {path : Path}
    {x : N}
    (hx : x ∈ resolvePath nodes path) :
    isEmpty x = false := by
  induction path generalizing nodes with
  | nil =>
      rw [resolvePath_nil, List.mem_filter, Bool.not_eq_true'] at hx
      exact hx.2
  | cons label path ih =>
      rw [resolvePath_cons] at hx
      exact ih hx

/- Two paths one behind the other are one path. -/
theorem resolvePath_append (nodes : List N) (path more : Path) :
    resolvePath nodes (path ++ more) =
      resolvePath (resolvePath nodes path) more := by
  induction path generalizing nodes with
  | nil =>
      rw [resolvePath_nil, resolvePath_filter]
      rfl
  | cons label path ih =>
      rw [List.cons_append, resolvePath_cons, ih, ← resolvePath_cons]

/- From no nodes a path leads nowhere. -/
theorem resolvePath_of_nil (path : Path) :
    resolvePath ([] : List N) path = [] := by
  induction path with
  | nil => rfl
  | cons label path ih =>
      rw [resolvePath_cons]
      exact ih

/- From an empty node a path leads nowhere. -/
theorem resolvePath_of_isEmpty
    {n : N}
    (hEmpty : isEmpty n = true)
    (path : Path) :
    resolvePath [n] path = [] := by
  rw [← resolvePath_filter, List.filter_cons_of_neg (by simp [hEmpty])]
  exact resolvePath_of_nil path

end Cursor

------------------------------------------------------------
-- Labels on Pages of Markup
------------------------------------------------------------

namespace Markup

variable {label : String}

/- A label that is a selector finds the elements that it matches. -/
theorem Element.select_of_parse?
    {chains : List Css.Chain}
    (hLabel : Css.parse? label = some chains)
    (e : Element) :
    Cursor.select e label = .ok (Css.select chains e) := by
  change e.select label = _
  rw [Element.select, hLabel]

/- A label that is no selector finds nothing. -/
theorem Element.select_of_parse?_eq_none
    (hLabel : Css.parse? label = none)
    (e : Element) :
    Cursor.select e label = .error ⟨label⟩ := by
  change e.select label = _
  rw [Element.select, hLabel]

/- What a label finds is below the element. -/
theorem Element.mem_below_of_select
    {e x : Element}
    {found : List Element}
    (hSelect : Cursor.select e label = .ok found)
    (hx : x ∈ found) :
    x ∈ e.below := by
  cases hLabel : Css.parse? label with
  | none =>
      rw [Element.select_of_parse?_eq_none hLabel] at hSelect
      cases hSelect
  | some chains =>
      rw [Element.select_of_parse? hLabel] at hSelect
      cases hSelect
      exact (List.mem_filter.mp hx).1

end Markup

end Gleaner
