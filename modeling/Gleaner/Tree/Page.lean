import Gleaner.Css.Matching
import Gleaner.Css.Parse
import Gleaner.Markup.Media
import Gleaner.Markup.Serialize
import Gleaner.Tree.Cursor

/-
  Pages of markup as documents: a node is an element, and a
  label is a selector of style sheets.

  Key definitions include:
    * `Markup.Element.select`
    * the instance `Cursor Markup.Element`
-/

namespace Gleaner

namespace Markup

namespace Element

/- The markup inside an element. -/
def markup (e : Element) : String :=
  String.ofList (innerMarkup e.children)

/- Nothing but white space is inside an element. -/
def isBlank (e : Element) : Bool :=
  (Text.trim (innerMarkup e.children)).isEmpty

/- The elements below an element that a selector matches. -/
def select (e : Element) (label : String) :
    Except UnreadableLabel (List Element) :=
  match Css.parse? label with
  | some chains => .ok (Css.select chains e)
  | none => .error ⟨label⟩

end Element

end Markup

instance : Cursor Markup.Element where
  select := Markup.Element.select
  items e := [e]
  text := Markup.Element.text
  rendered := Markup.Element.text
  markup := Markup.Element.markup
  isEmpty := Markup.Element.isBlank
  sameNode a b := a.path == b.path
  coverMedia := Markup.coverMedia
  inlineMedia := Markup.inlineMedia

end Gleaner
