import Gleaner.Json.Basic
import Gleaner.Product.Record

/-
  Records as JSON values.

  Key definitions include:
    * `Passage.toJson`
    * `Record.toJson`
    * `Passage.ofJson?`
    * `Record.ofJson?`
-/

namespace Gleaner

------------------------------------------------------------
-- Writing
------------------------------------------------------------

/- A passage with its kind. -/
def Passage.toJson : Passage → Json
  | .text s =>
      .ofFields [("kind", .text "text"), ("value", .text s)]
  | .media url =>
      .ofFields [("kind", .text "media"), ("value", .text url)]

/- A row of the specification. -/
def Trait.toJson (t : Trait) : Json :=
  .ofFields
    [("domain_hash", .text t.domain), ("style", .text t.style),
      ("position", .text t.position), ("value", .text t.value),
      ("media", .text t.media)]

/- A bundle or a variant. -/
def Offer.toJson (o : Offer) : Json :=
  .ofFields
    [("domain_hash", .text o.domain), ("price", .text o.price),
      ("text", .text o.text), ("media", .text o.media)]

/- A description. -/
def descriptionJson (ps : List Passage) : Json :=
  .array (ps.map Passage.toJson)

/- A specification. -/
def specificationJson (ts : List Trait) : Json :=
  .array (ts.map Trait.toJson)

/- Bundles and variants. -/
def goodsJson (os : List Offer) : Json :=
  .array (os.map Offer.toJson)

/- A record without its moment. -/
def Record.fieldsJson (r : Record) : List (String × Json) :=
  [("page_url", .text r.pageUrl), ("template", .text r.template),
    ("cover", .ofTexts r.cover), ("title", .text r.title),
    ("price", .ofTexts r.price), ("currency", .text r.currency),
    ("description", descriptionJson r.description),
    ("specification", specificationJson r.specification),
    ("goods", goodsJson r.goods)]

/- A record. -/
def Record.toJson (r : Record) : Json :=
  .ofFields (r.fieldsJson ++
    [("extracted_at", .text r.extractedAt.write)])

------------------------------------------------------------
-- Reading
------------------------------------------------------------

namespace Json

/- The text that a value is. -/
def text? : Json → Option String
  | .text s => some s
  | _ => none

/- The values in an array, all of which can be read. -/
def list? (read : Json → Option α) : Json → Option (List α)
  | .array items => items.mapM read
  | _ => none

/-
  The fields of an object with some names, or the items of an
  array that has as many.
-/
def fields? (names : List String) : Json → Option (List Json)
  | .object fields => names.mapM fun n => lookup n fields
  | .array items => if items.length = names.length then some items else none
  | _ => none

/- A name: a text, or the only field of an object, without value. -/
def name? : Json → Option String
  | .text s => some s
  | .object [(name, .null)] => some name
  | _ => none

end Json

/- The passage that a value describes. -/
def Passage.ofJson? (v : Json) : Option Passage := do
  match ← v.fields? ["kind", "value"] with
  | [kind, value] =>
      match ← kind.name? with
      | "text" => return .text (← value.text?)
      | "media" => return .media (← value.text?)
      | _ => none
  | _ => none

/- The row of a specification that a value describes. -/
def Trait.ofJson? (v : Json) : Option Trait := do
  let fields ←
    v.fields? ["domain_hash", "style", "position", "value", "media"]
  match ← fields.mapM Json.text? with
  | [domain, style, position, value, media] =>
      return ⟨domain, style, position, value, media⟩
  | _ => none

/- The bundle or variant that a value describes. -/
def Offer.ofJson? (v : Json) : Option Offer := do
  let fields ← v.fields? ["domain_hash", "price", "text", "media"]
  match ← fields.mapM Json.text? with
  | [domain, price, text, media] => return ⟨domain, price, text, media⟩
  | _ => none

/- The names of the parts of a record. -/
def Record.fieldNames : List String :=
  ["page_url", "template", "cover", "title", "price", "currency",
    "description", "specification", "goods", "extracted_at"]

/- The record that a value describes. -/
def Record.ofJson? (v : Json) : Option Record := do
  match ← v.fields? Record.fieldNames with
  | [pageUrl, template, cover, title, price, currency, description,
      specification, goods, extractedAt] =>
      return {
        pageUrl := ← pageUrl.text?
        template := ← template.text?
        cover := ← cover.list? Json.text?
        title := ← title.text?
        price := ← price.list? Json.text?
        currency := ← currency.text?
        description := ← description.list? Passage.ofJson?
        specification := ← specification.list? Trait.ofJson?
        goods := ← goods.list? Offer.ofJson?
        extractedAt := ← Moment.read? (← extractedAt.text?) }
  | _ => none

end Gleaner
