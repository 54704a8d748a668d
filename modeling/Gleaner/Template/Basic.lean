import Gleaner.Selector.Parse

/-
  Templates: how the pages of a shop are fetched, and the
  expressions that find the fields of its products.

  Key definitions include:
    * `PageKind`
    * `PageKind.ofName`
    * `Template`
    * `Template.name`
    * `Template.extend`
-/

namespace Gleaner

------------------------------------------------------------
-- Kinds of Pages
------------------------------------------------------------

/-
  What a page is: markup, markup that only a browser completes,
  or the data of a product.
-/
inductive PageKind
  | html
  | web
  | json
deriving DecidableEq, Repr

/- The name of a kind as it is compared. -/
def PageKind.fold (name : String) : String :=
  (Text.strip name).toLower

/- The kind with a name, or the name if there is none. -/
def PageKind.ofName (name : String) : Except String PageKind :=
  match PageKind.fold name with
  | "html" => .ok .html
  | "web" => .ok .web
  | "json" => .ok .json
  | other => .error other

/- The name of a kind. -/
def PageKind.name : PageKind → String
  | .html => "html"
  | .web => "web"
  | .json => "json"

------------------------------------------------------------
-- Templates
------------------------------------------------------------

/-
  How the products of a shop are found.  `order` leads to a page
  of its own that holds the specification and the goods.
-/
structure Template where
  domain : String
  kind : PageKind
  order : List Selector
  cover : List Selector
  title : List Selector
  price : List Selector
  description : List Selector
  specification : List Selector
  goods : List Selector
deriving DecidableEq, Repr

namespace Template

/- A template that finds nothing. -/
def blank (domain : String) (kind : PageKind) : Template :=
  ⟨domain, kind, [], [], [], [], [], [], []⟩

/- The name of a template in the records that it leads to. -/
def name (t : Template) : String :=
  match t.kind with
  | .json => "common-json"
  | .html | .web => "common-html"

/-
  A template with more expressions for every field.  The kind of
  the pages and the way to the order page are replaced.
-/
def extend (t more : Template) : Template :=
  { domain := t.domain
    kind := more.kind
    order := more.order
    cover := t.cover ++ more.cover
    title := t.title ++ more.title
    price := t.price ++ more.price
    description := t.description ++ more.description
    specification := t.specification ++ more.specification
    goods := t.goods ++ more.goods }

end Template

end Gleaner
