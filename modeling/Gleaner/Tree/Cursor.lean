/-
  Handles on the nodes of a fetched document.  Selector
  expressions are evaluated through this interface alone, so
  one grammar walks markup and JSON alike.

  Key definitions include:
    * `UnreadableLabel`
    * `Cursor`
    * `Cursor.keepNew`
    * `Cursor.selectAll`
    * `Cursor.expand`
-/

namespace Gleaner

------------------------------------------------------------
-- The Interface
------------------------------------------------------------

/- A label that the kind of document cannot read. -/
structure UnreadableLabel where
  label : String
deriving DecidableEq, Repr

/-
  What a handle on a node has to offer.

  `select` lists the nodes below that match a label, and a
  missing node is an empty list.  `items` are the nodes visited
  when the node repeats.  `rendered` is the text as a reader
  sees it.  `sameNode` tells whether two handles point at one
  node.  `coverMedia` and `inlineMedia` are the references to
  media that the node holds.
-/
class Cursor (N : Type) where
  select : N → String → Except UnreadableLabel (List N)
  items : N → List N
  text : N → String
  rendered : N → String
  markup : N → String
  isEmpty : N → Bool
  sameNode : N → N → Bool
  coverMedia : N → List String
  inlineMedia : N → List String

namespace Cursor

variable {N : Type}
variable [Cursor N]

------------------------------------------------------------
-- Many Nodes
------------------------------------------------------------

/-
  Drop empty nodes, nodes in `seen`, and repetitions of a node.
-/
def keepNew (seen : List N) : List N → List N
  | [] => []
  | node :: rest =>
      if isEmpty node || seen.any (sameNode · node) then
        keepNew seen rest
      else
        node :: keepNew (seen ++ [node]) rest

/-
  The nodes that match a label below some nodes, in their order
  and each of them once.
-/
def selectAll
    (nodes : List N)
    (label : String) :
    Except UnreadableLabel (List N) := do
  let found ← nodes.mapM (select · label)
  return keepNew [] found.flatten

/- The nodes visited when some nodes repeat. -/
def expand (nodes : List N) : List N :=
  nodes.flatMap items

end Cursor

end Gleaner
