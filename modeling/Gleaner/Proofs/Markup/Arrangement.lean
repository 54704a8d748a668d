import Gleaner.Markup.Arrangement

/-
  Documents in which the order of attributes is of no account:
  those without an element that has two of them.

  Main declarations:
    * `Markup.Arrangement.reversed`
    * `Markup.Document.isSparse`
    * `Markup.Document.arranged_source`
    * `Markup.Document.arranged_of_isSparse`
-/

namespace Gleaner

namespace Markup

/- The last attribute that was read comes first. -/
def Arrangement.reversed : Arrangement where
  order _ attributes := attributes.reverse
  perm _ attributes := attributes.reverse_perm

/- The element has one attribute at most. -/
def Tag.isSparse (t : Tag) : Bool :=
  decide (t.attributes.length ≤ 1)

namespace Node

mutual

/- All elements have one attribute at most. -/
def isSparse : Node → Bool
  | .element tag children => tag.isSparse && isSparseAll children
  | _ => true

/- All elements of some nodes have one attribute at most. -/
def isSparseAll : List Node → Bool
  | [] => true
  | node :: rest => isSparse node && isSparseAll rest

end

end Node

/- All elements of a document have one attribute at most. -/
def Document.isSparse (d : Document) : Bool :=
  d.tag.isSparse && Node.isSparseAll d.children

------------------------------------------------------------
-- Documents as They Are
------------------------------------------------------------

/- One attribute has but one order. -/
theorem Tag.arranged_of_isSparse
    (a : Arrangement)
    (path : List Nat)
    {t : Tag}
    (hSparse : t.isSparse = true) :
    t.arranged a path = t := by
  rcases t with ⟨space, name, attributes⟩
  simp only [isSparse, decide_eq_true_eq] at hSparse
  have hPerm := a.perm path attributes
  match attributes with
  | [] => rw [arranged, hPerm.eq_nil]
  | [one] => rw [arranged, hPerm.eq_singleton]
  | _ :: _ :: _ => simp at hSparse

namespace Node

mutual

/- The order of attributes is of no account in a sparse node. -/
theorem arranged_of_isSparse
    (a : Arrangement)
    (path : List Nat) :
    ∀ node : Node, node.isSparse = true → node.arranged a path = node
  | .text _, _ => by rw [arranged]
  | .comment _, _ => by rw [arranged]
  | .element tag children, hSparse => by
      rw [isSparse, Bool.and_eq_true] at hSparse
      rw [arranged, tag.arranged_of_isSparse a path hSparse.1,
        arrangedAll_of_isSparseAll a path 0 children hSparse.2]

theorem arrangedAll_of_isSparseAll
    (a : Arrangement)
    (path : List Nat)
    (index : Nat) :
    ∀ nodes : List Node, isSparseAll nodes = true →
      arrangedAll a path index nodes = nodes
  | [], _ => by rw [arrangedAll]
  | node :: rest, hSparse => by
      rw [isSparseAll, Bool.and_eq_true] at hSparse
      rw [arrangedAll, arranged_of_isSparse a _ node hSparse.1,
        arrangedAll_of_isSparseAll a path (index + 1) rest hSparse.2]

end

mutual

/- Attributes in the order in which they were read stay in it. -/
theorem arranged_source (path : List Nat) :
    ∀ node : Node, node.arranged .source path = node
  | .text _ => by rw [arranged]
  | .comment _ => by rw [arranged]
  | .element tag children => by
      rw [arranged, arrangedAll_source path 0 children]
      rfl

theorem arrangedAll_source (path : List Nat) (index : Nat) :
    ∀ nodes : List Node,
      arrangedAll .source path index nodes = nodes
  | [] => by rw [arrangedAll]
  | node :: rest => by
      rw [arrangedAll, arranged_source _ node,
        arrangedAll_source path (index + 1) rest]

end

end Node

namespace Document

/- A document in the order in which it was read is as it was read. -/
@[simp] theorem arranged_source (number : Nat) (d : Document) :
    d.arranged .source number = d := by
  rw [arranged, Node.arrangedAll_source]
  rfl

/- The order of attributes is of no account in a sparse document. -/
theorem arranged_of_isSparse
    {d : Document}
    (hSparse : d.isSparse = true)
    (a : Arrangement)
    (number : Nat) :
    d.arranged a number = d := by
  rw [isSparse, Bool.and_eq_true] at hSparse
  rw [arranged, d.tag.arranged_of_isSparse a [number] hSparse.1,
    Node.arrangedAll_of_isSparseAll a [number] 0 d.children hSparse.2]

end Document

end Markup

end Gleaner
