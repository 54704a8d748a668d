import Gleaner.Extraction.Candidates

/-
  The short fields of a product: its pictures, its title and
  its prices.

  Key definitions include:
    * `Extract.cover`
    * `Extract.title`
    * `Extract.price`
-/

namespace Gleaner

namespace Extract

variable {N : Type}
variable [Cursor N]

/- The addresses of the pictures of a match. -/
def coverOf (page : Page) (m : Match N) : List String :=
  match m.hit with
  | .node n => page.mediaUrls (Cursor.coverMedia n)
  | .values vs => page.mediaUrls vs

/- The addresses of the pictures of the product. -/
def cover (root : N) (page : Page) (candidates : List Selector) :
    Option (List String) :=
  firstUseful root
    (fun found => nonEmpty (found.flatMap (coverOf page))) candidates

/- The texts of some matches that are not blank, with commas. -/
def titleOf (found : List (Match N)) : Option String :=
  let titles := (found.map (Text.strip ∘ Match.text)).filter (!·.isEmpty)
  (nonEmpty titles).map (String.intercalate ",")

/- The title of the product. -/
def title (root : N) (candidates : List Selector) : Option String :=
  firstUseful root titleOf candidates

/- The prices of a match: the numbers that a reader sees. -/
def priceOf (m : Match N) : List String :=
  match m.hit with
  | .node n => Decimal.values (Cursor.rendered n)
  | .values vs => vs

/- The prices of the product. -/
def price (root : N) (candidates : List Selector) :
    Option (List String) :=
  firstUseful root (fun found => nonEmpty (found.flatMap priceOf))
    candidates

end Extract

end Gleaner
