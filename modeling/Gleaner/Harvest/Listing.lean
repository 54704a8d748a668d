import Gleaner.Text.Blank
import Gleaner.Text.Cut
import Gleaner.Text.Utf8

/-
  The list of landing pages to harvest.

  Key definitions include:
    * `Listing.isEntry`
    * `Listing.ofChars`
    * `Listing.ofBytes?`
-/

namespace Gleaner

namespace Listing

/- A line that is neither blank nor a comment. -/
def isEntry (line : List Char) : Bool :=
  !line.isEmpty && line.head? != some '#'

/- The addresses in a text, one on a line. -/
def ofChars (cs : List Char) : List String :=
  (((Text.lines cs).map Text.trim).filter isEntry).map String.ofList

/- The addresses in a file, if it holds a text. -/
def ofBytes? (bytes : List UInt8) : Option (List String) :=
  (Utf8.decode? bytes).map ofChars

end Listing

end Gleaner
