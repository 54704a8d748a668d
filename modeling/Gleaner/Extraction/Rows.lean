import Gleaner.Extraction.Candidates
import Gleaner.Product.Record

/-
  The fields of a product that consist of rows: the
  specification, and what is on offer.

  Key definitions include:
    * `Extract.overMedia`
    * `Extract.traits`
    * `Extract.specification`
    * `Extract.currencies`
    * `Extract.currencyIn`
    * `Extract.offers`
    * `Extract.goods`
-/

namespace Gleaner

namespace Extract

variable {N : Type}
variable [Cursor N]

/- One row for each medium, or one without a medium. -/
def overMedia (row : String → α) (media : List String) : List α :=
  if media.isEmpty then [row ""] else media.map row

/- The text that a reader sees, without blanks around it. -/
def shownText (n : N) : String :=
  Text.strip (Cursor.rendered n)

/- The addresses of the media inside a node. -/
def mediaOf (page : Page) (n : N) : List String :=
  page.mediaUrls (Cursor.inlineMedia n)

------------------------------------------------------------
-- Specification
------------------------------------------------------------

/- The rows of a match that has a value or media. -/
def traits (page : Page) (m : Match N) : List Trait :=
  let (value, media) :=
    match m.hit with
    | .node n => (shownText n, mediaOf page n)
    | .values vs => (String.intercalate "," vs, [])
  if value.isEmpty && media.isEmpty then []
  else
    overMedia
      (fun medium =>
        ⟨page.domain, m.position.style, m.position.key, value, medium⟩)
      media

/- The specification of the product. -/
def specification (root : N) (page : Page)
    (candidates : List Selector) : Option (List Trait) :=
  firstUseful root
    (fun found => nonEmpty (found.flatMap (traits page))) candidates

------------------------------------------------------------
-- Goods
------------------------------------------------------------

/- The names of currencies, longer ones before bare signs. -/
def currencies : List String :=
  ["USD", "US$", "NTD", "NT$", "TWD", "HKD", "HK$", "RMB", "CNY",
    "JPY", "EUR", "GBP", "SGD", "MYR", "THB", "AUD", "CAD", "€",
    "£", "¥", "$"]

/- The first of the currencies that stands in a text. -/
def currencyIn (text : String) : String :=
  (currencies.find? fun c =>
    Text.contains c.toList text.toList).getD ""

/- The rows of a match that has a text. -/
def offers (page : Page) (m : Match N) : List Offer :=
  let (price, text, media) :=
    match m.hit with
    | .node n =>
        let text := shownText n
        ((Decimal.values text).head?.getD "", text, mediaOf page n)
    | .values vs =>
        (vs.head?.getD "", String.intercalate "," vs, [])
  if text.isEmpty then []
  else
    overMedia (fun medium => ⟨page.domain, price, text, medium⟩) media

/- What is on offer on the page. -/
def goods (root : N) (page : Page) (candidates : List Selector) :
    Option (List Offer) :=
  firstUseful root
    (fun found => nonEmpty (found.flatMap (offers page))) candidates

end Extract

end Gleaner
