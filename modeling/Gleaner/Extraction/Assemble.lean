import Gleaner.Extraction.Description
import Gleaner.Extraction.Fields
import Gleaner.Extraction.Rows
import Gleaner.Json.Parse
import Gleaner.Markup.Arrangement
import Gleaner.Template.Basic
import Gleaner.Tree.Data
import Gleaner.Tree.Page

/-
  The record of a fetched page.

  Key definitions include:
    * `Content`
    * `Extract.assemble`
    * `Extract.record`
-/

namespace Gleaner

/-
  What was fetched: a page of markup, perhaps with its order
  page, or data.
-/
inductive Content
  | markup (body : String) (order : Option String)
  | data (bytes : List UInt8)
deriving DecidableEq, Repr

namespace Extract

/-
  The record of a page.  The specification and the goods are
  read from the order page if there is one.  A record without
  pictures or without a description cannot be used.
-/
def assemble {N : Type} [Cursor N]
    (page : Page)
    (t : Template)
    (now : Moment)
    (root : N)
    (order : Option N) : Extraction :=
  let detail := order.getD root
  let cover := (cover root page t.cover).getD []
  let description := (description root page t.description).getD []
  let goods := (goods detail page t.goods).getD []
  { record :=
      { pageUrl := page.address
        template := t.name
        cover := cover
        title := (title root t.title).getD ""
        price := (price root t.price).getD []
        currency := (goods.head?.map (currencyIn ·.text)).getD ""
        description := description
        specification :=
          (specification detail page t.specification).getD []
        goods := goods
        extractedAt := now }
    valid := !cover.isEmpty && !description.isEmpty }

/-
  The record of fetched content.  Markup is parsed to trees that
  keep attributes in orders of their own.  Data that cannot be
  read has no fields.
-/
def record (page : Page) (t : Template) (now : Moment)
    (arrangement : Markup.Arrangement) : Content → Extraction
  | .markup body order =>
      let root (number : Nat) (text : String) : Markup.Element :=
        ((Markup.parseDocument text).arranged arrangement
          number).element
      assemble page t now (root 0 body) (order.map (root 1))
  | .data bytes =>
      assemble page t now
        (Json.Place.root ((Json.parseBytes? bytes).getD .null)) none

end Extract

end Gleaner
