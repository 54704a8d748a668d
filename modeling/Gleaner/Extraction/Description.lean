import Gleaner.Extraction.Candidates
import Gleaner.Markup.Media
import Gleaner.Product.Record

/-
  The description of a product, line by line.

  Key definitions include:
    * `Extract.passagesOfLine`
    * `Extract.passages`
    * `Extract.description`
-/

namespace Gleaner

namespace Extract

/- The passages of a line: its text, and then its media. -/
def passagesOfLine (page : Page) (line : String) : List Passage :=
  let text := Text.strip (Markup.renderedText line)
  (if text.isEmpty then [] else [.text text]) ++
    (page.mediaUrls (Markup.mediaIn line)).map .media

/- The passages of the lines of some markup. -/
def passages (page : Page) (markup : String) : List Passage :=
  let lines := (Text.cutAt (· == '\n') markup.toList).map Text.trim
  (lines.filter (!·.isEmpty)).flatMap fun line =>
    passagesOfLine page (String.ofList line)

variable {N : Type}
variable [Cursor N]

/- The passages of a match; numbers are text. -/
def passagesOf (page : Page) (m : Match N) : List Passage :=
  match m.hit with
  | .node n => passages page (Cursor.markup n)
  | .values vs => vs.map .text

/- The description of the product. -/
def description (root : N) (page : Page)
    (candidates : List Selector) : Option (List Passage) :=
  firstUseful root
    (fun found => nonEmpty (found.flatMap (passagesOf page)))
    candidates

end Extract

end Gleaner
