import Gleaner.Markup.Node

/-
  Elements of a document together with what surrounds them, so
  that parents and siblings can be reached from each of them.

  Key definitions include:
    * `Markup.Frame`
    * `Markup.Element`
    * `Markup.Document.element`
    * `Markup.Element.path`
    * `Markup.Element.below`
    * `Markup.Element.parent?`
    * `Markup.Element.ancestors`
    * `Markup.Element.earlier`
    * `Markup.Element.later`
-/

namespace Gleaner

namespace Markup

------------------------------------------------------------
-- Places
------------------------------------------------------------

/-
  What surrounds a node: the tag of its parent, the siblings
  before it, the nearest one first, and the siblings after it.
-/
structure Frame where
  tag : Tag
  before : List Node
  after : List Node
deriving Repr

/-
  An element and what surrounds it, the innermost frame first.
  `whole` tells whether it belongs to a whole page.
-/
structure Element where
  whole : Bool
  frames : List Frame
  tag : Tag
  children : List Node
deriving Repr

/- The outermost element of a document. -/
def Document.element (d : Document) : Element :=
  ⟨d.whole, [], d.tag, d.children⟩

namespace Element

/- The node that an element is. -/
def node (e : Element) : Node :=
  .element e.tag e.children

/-
  The numbers of the children that lead from the outermost
  element to this one.
-/
def path (e : Element) : List Nat :=
  (e.frames.map (·.before.length)).reverse

------------------------------------------------------------
-- Downwards
------------------------------------------------------------

/-
  The elements among some siblings and below them, in document
  order.  `before` are the siblings in front of them.
-/
def among (whole : Bool) (frames : List Frame) (tag : Tag)
    (before : List Node) : List Node → List Element
  | [] => []
  | .element t children :: after =>
      let inner := ⟨tag, before, after⟩ :: frames
      ⟨whole, inner, t, children⟩ ::
        (among whole inner t [] children ++
          among whole frames tag (.element t children :: before) after)
  | .text s :: after =>
      among whole frames tag (.text s :: before) after
  | .comment s :: after =>
      among whole frames tag (.comment s :: before) after

/- The elements below an element in document order. -/
def below (e : Element) : List Element :=
  among e.whole e.frames e.tag [] e.children

------------------------------------------------------------
-- Upwards and Sideways
------------------------------------------------------------

/- The element around an element. -/
def parent? (e : Element) : Option Element :=
  match e.frames with
  | [] => none
  | frame :: frames =>
      some ⟨e.whole, frames, frame.tag,
        frame.before.reverse ++ e.node :: frame.after⟩

/- The elements around a node with the given frames. -/
def around (whole : Bool) : List Frame → Node → List Element
  | [], _ => []
  | frame :: frames, node =>
      let children := frame.before.reverse ++ node :: frame.after
      ⟨whole, frames, frame.tag, children⟩ ::
        around whole frames (.element frame.tag children)

/- The elements around an element, the nearest one first. -/
def ancestors (e : Element) : List Element :=
  around e.whole e.frames e.node

/- The element siblings in front of a place, the nearest first. -/
def siblingsBefore (whole : Bool) (frames : List Frame) (tag : Tag) :
    List Node → List Node → List Element
  | [], _ => []
  | .element t children :: before, after =>
      ⟨whole, ⟨tag, before, after⟩ :: frames, t, children⟩ ::
        siblingsBefore whole frames tag before
          (.element t children :: after)
  | node :: before, after =>
      siblingsBefore whole frames tag before (node :: after)

/- The element siblings before an element, the nearest first. -/
def earlier (e : Element) : List Element :=
  match e.frames with
  | [] => []
  | frame :: frames =>
      siblingsBefore e.whole frames frame.tag frame.before
        (e.node :: frame.after)

/- The tags of the element siblings after an element. -/
def laterTags (e : Element) : List Tag :=
  match e.frames with
  | [] => []
  | frame :: _ => frame.after.filterMap Node.tag?

/- The tags of the element siblings before an element. -/
def earlierTags (e : Element) : List Tag :=
  match e.frames with
  | [] => []
  | frame :: _ => frame.before.filterMap Node.tag?

end Element

end Markup

end Gleaner
