import Gleaner.Product.Page
import Gleaner.Selector.Resolve

/-
  Reading one field of a product with the expressions that may
  find it.

  Key definitions include:
    * `nonEmpty`
    * `firstUseful`
-/

namespace Gleaner

/- A list with an item in it. -/
def nonEmpty (items : List α) : Option (List α) :=
  if items.isEmpty then none else some items

/-
  What the first expression yields that finds something of use.
  An expression that finds nothing is passed over.
-/
def firstUseful {N T : Type} [Cursor N]
    (root : N)
    (read : List (Match N) → Option T)
    (candidates : List Selector) : Option T :=
  candidates.findSome? fun candidate =>
    match candidate.resolve root with
    | [] => none
    | found => read found

end Gleaner
