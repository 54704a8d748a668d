import Gleaner.Markup.Node

/-
  The order of attributes.  A tree keeps the attributes of an
  element without their order, and so they may stand in any
  order when the element is written.

  Key definitions include:
    * `Markup.Arrangement`
    * `Markup.Arrangement.source`
    * `Markup.Tag.arranged`
    * `Markup.Node.arranged`
    * `Markup.Document.arranged`
-/

namespace Gleaner

namespace Markup

/-
  The order in which elements show their attributes.  An element
  is told by its path: the number of the tree it is in, and those
  of the children that lead to it.
-/
structure Arrangement where
  order : List Nat → List Attribute → List Attribute
  perm :
    ∀ (path : List Nat) (attributes : List Attribute),
      (order path attributes).Perm attributes

/- The order in which the attributes were read. -/
def Arrangement.source : Arrangement where
  order _ attributes := attributes
  perm _ attributes := .refl attributes

/- The tag of an element with its attributes in order. -/
def Tag.arranged (a : Arrangement) (path : List Nat) (t : Tag) : Tag :=
  { t with attributes := a.order path t.attributes }

namespace Node

mutual

/- A node with the attributes of all its elements in order. -/
def arranged (a : Arrangement) (path : List Nat) : Node → Node
  | .text s => .text s
  | .comment s => .comment s
  | .element tag children =>
      .element (tag.arranged a path) (arrangedAll a path 0 children)

/- The children of an element, from the one with a number on. -/
def arrangedAll (a : Arrangement) (path : List Nat) (index : Nat) :
    List Node → List Node
  | [] => []
  | node :: rest =>
      arranged a (path ++ [index]) node ::
        arrangedAll a path (index + 1) rest

end

end Node

/- The document of a number with all attributes in order. -/
def Document.arranged (a : Arrangement) (number : Nat)
    (d : Document) : Document where
  whole := d.whole
  tag := d.tag.arranged a [number]
  children := Node.arrangedAll a [number] 0 d.children

end Markup

end Gleaner
