import Gleaner.Proofs.Selector.Hits
import Gleaner.Proofs.Tree.Cascade
import Gleaner.Proofs.Tree.Data

/-
  The hits of an expression on pages of markup and on JSON values:
  what it means there that a node is inside another one.

  Main declarations:
    * `Markup.Element.IsWithin`
    * `Markup.isDescent_isWithin`
    * `Json.Place.child?`
    * `Json.Place.IsWithin`
    * `Json.isDescent_isWithin`
    * `Selector.hits_of_trees`
-/

namespace Gleaner

open Cursor

------------------------------------------------------------
-- Pages of Markup
------------------------------------------------------------

namespace Markup

/- The second element is the first one, or is below it. -/
def Element.IsWithin (e x : Element) : Prop :=
  x = e ∨ x ∈ e.below

/- Elements that are repeated after a path are apart. -/
theorem areApart_spread (level : Gleaner.Level) (e : Element) :
    AreApart (Selector.spread level e).2 := by
  have hScope := areApart_resolvePath_singleton e level.scope
  unfold Selector.spread
  cases level.style with
  | none =>
      simp only [expand_elements]
      exact hScope
  | some style =>
      simp only [expand_elements]
      exact areApart_resolvePath hScope style.value

/- Selectors of style sheets lead inwards. -/
theorem isDescent_isWithin : IsDescent Element.IsWithin where
  refl x := .inl rfl
  trans := by
    rintro x y z (rfl | hy) (rfl | hz)
    · exact .inl rfl
    · exact .inr hz
    · exact .inr hy
    · exact .inr (Element.mem_below_trans hy hz)
  select := by
    intro e label found hSelect x hx
    exact .inr (Element.mem_below_of_select hSelect hx)
  apart := areApart_spread

end Markup

------------------------------------------------------------
-- JSON Values
------------------------------------------------------------

namespace Json

namespace Place

/- The place one step further, if there is a value. -/
def child? (p : Place) (step : Step) : Option Place :=
  match step, p.value with
  | .field name, .object fields =>
      (lookup name fields).map fun v => ⟨step :: p.trail, v⟩
  | .item i, .array items => items[i]?.map fun v => ⟨step :: p.trail, v⟩
  | _, _ => none

/- The second place is the first one, or steps lead to it from there. -/
inductive IsWithin (p : Place) : Place → Prop
  | here : IsWithin p p
  | step
      {q r : Place}
      {s : Step}
      (hWithin : IsWithin p q)
      (hChild : q.child? s = some r) :
      IsWithin p r

variable {p q r : Place}

/- What is inside a place inside another one is inside that one. -/
theorem IsWithin.trans
    (hOuter : IsWithin p q)
    (hInner : IsWithin q r) :
    IsWithin p r := by
  induction hInner with
  | here => exact hOuter
  | step _ hChild ih => exact ih.step hChild

/- A label is one step. -/
theorem exists_child?_of_mem_below
    {label : String}
    (hq : q ∈ p.below label) :
    ∃ s, p.child? s = some q := by
  unfold below at hq
  split at hq
  · rename_i fields hValue
    refine ⟨.field label, ?_⟩
    simp only [child?, hValue]
    exact Option.mem_toList.mp hq
  · rename_i items hValue
    split at hq
    · rename_i i _
      refine ⟨.item i, ?_⟩
      simp only [child?, hValue]
      exact Option.mem_toList.mp hq
    · cases hq
  · cases hq

/- The items of a place are apart. -/
theorem areApart_items (p : Place) : AreApart p.items := by
  unfold items
  split
  · rename_i items _
    rw [AreApart, List.pairwise_map]
    apply (Selector.pairwise_zipIdx items).imp
    rintro ⟨_, i⟩ ⟨_, j⟩ hLess
    have hSteps : Step.item i :: p.trail ≠ Step.item j :: p.trail := by
      intro hSame
      cases hSame
      exact Nat.lt_irrefl _ hLess
    exact beq_eq_false_iff_ne.mpr hSteps
  · exact List.pairwise_singleton _ p

end Place

/- A path leads to one place at most, and its items are apart. -/
theorem areApart_expand_resolvePath (p : Place) (path : Path) :
    AreApart (expand (resolvePath [p] path)) := by
  rcases resolvePath_cases p path with ⟨hNone, _⟩ | ⟨q, hOne, _⟩
  · rw [hNone]
    exact .nil
  · rw [hOne, expand, List.flatMap_singleton]
    exact q.areApart_items

/- Places that are repeated on a level are apart. -/
theorem areApart_spread (level : Level) (p : Place) :
    AreApart (Selector.spread level p).2 := by
  unfold Selector.spread
  cases level.style with
  | none => exact areApart_expand_resolvePath p level.scope
  | some style =>
      rcases resolvePath_cases p level.scope with
        ⟨hNone, _⟩ | ⟨q, hOne, _⟩
      · simp only [hNone, resolvePath_of_nil]
        exact .nil
      · simp only [hOne]
        exact areApart_expand_resolvePath q style.value

/- Labels lead inwards. -/
theorem isDescent_isWithin : IsDescent Place.IsWithin where
  refl _ := .here
  trans := Place.IsWithin.trans
  select := by
    intro p label found hSelect q hq
    cases hSelect
    rcases Place.exists_child?_of_mem_below hq with ⟨s, hChild⟩
    exact .step .here hChild
  apart := areApart_spread

end Json

------------------------------------------------------------
-- Both Kinds of Trees
------------------------------------------------------------

/-
  Whatever the tree, the root and the expression: a hit is a node
  that is not empty, and is the innermost match or inside it, or
  it is some strict decimals; and two hits below one chain of
  matches are never the same node.
-/
theorem Selector.hits_of_trees (s : Selector) :
    (∀ root : Markup.Element,
      HitsFit Markup.Element.IsWithin root s) ∧
      ∀ root : Json.Place, HitsFit Json.Place.IsWithin root s :=
  ⟨fun root => hitsFit Markup.isDescent_isWithin root s,
    fun root => hitsFit Json.isDescent_isWithin root s⟩

end Gleaner
