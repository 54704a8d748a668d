import Gleaner.Selector.Resolve
import Gleaner.Text.Blank
import Gleaner.Tree.Page
import Gleaner.Url.Parse

/-
  The link of a landing page to its order page.

  Key definitions include:
    * `Web.linksOf`
    * `Web.orderLink?`
-/

namespace Gleaner

namespace Web

/- The links of the elements that an expression finds. -/
def linksOf (root : Markup.Element) (order : List Selector) :
    List (List Char) :=
  ((order.flatMap fun s => s.resolve root).filterMap fun found =>
    found.node?.bind fun e => e.tag.attribute? "href").map fun href =>
      Text.trim href.toList

/-
  The address of the order page: the first link with a slash in
  it, as it is found from the page.
-/
def orderLink?
    (body : String)
    (address : String)
    (order : List Selector) : Option String :=
  match Url.parse address with
  | .error _ => none
  | .ok base =>
      let root := (Markup.parseDocument body).element
      match (linksOf root order).find? (·.contains '/') with
      | none => none
      | some href =>
          match base.join (String.ofList href) with
          | .ok url => some url.text
          | .error _ => none

end Web

end Gleaner
