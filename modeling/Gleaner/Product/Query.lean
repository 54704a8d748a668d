import Gleaner.Product.Codec
import Gleaner.Text.Blank

/-
  Parts of a record that can be asked for by name, and the
  event that tells of a record.

  Key definitions include:
    * `Record.Part`
    * `Record.Part.ofName`
    * `Record.part`
    * `Record.event`
-/

namespace Gleaner

namespace Record

/- A part of a record, or all of it. -/
inductive Part
  | cover
  | title
  | currency
  | price
  | description
  | goods
  | specification
  | whole
deriving DecidableEq, Repr

/- The part with a name; all of a record under any other name. -/
def Part.ofName (name : String) : Part :=
  match Text.strip name with
  | "cover" => .cover
  | "title" => .title
  | "currency" => .currency
  | "price" => .price
  | "desc" | "description" => .description
  | "good" | "goods" => .goods
  | "spec" | "specification" => .specification
  | _ => .whole

/- The value of a part of a record. -/
def part (r : Record) : Part → Json
  | .cover => .ofTexts r.cover
  | .title => .text r.title
  | .currency => .text r.currency
  | .price => .ofTexts r.price
  | .description => descriptionJson r.description
  | .goods => goodsJson r.goods
  | .specification => specificationJson r.specification
  | .whole => r.toJson

/- The event that tells of a record. -/
def event (r : Record) : Json :=
  .ofFields
    [("event", .text "product.harvested"),
      ("page_url", .text r.pageUrl),
      ("page_hash", .text r.pageHash),
      ("title", .text r.title), ("price", .ofTexts r.price),
      ("currency", .text r.currency),
      ("cover", .ofOption .text r.cover.head?),
      ("goods", .ofNat r.goods.length),
      ("extracted_at", .text r.extractedAt.writeWithOffset)]

end Record

end Gleaner
