import Gleaner.Markup.Element
import Gleaner.Markup.Parse
import Gleaner.Text.Blank

/-
  The media and the text that markup shows.

  Key definitions include:
    * `Markup.coverMedia`
    * `Markup.inlineMedia`
    * `Markup.looksLikeMarkup`
    * `Markup.mediaIn`
    * `Markup.renderedText`
-/

namespace Gleaner

namespace Markup

------------------------------------------------------------
-- Media of Elements
------------------------------------------------------------

/- The trimmed value of an attribute that is not blank. -/
def Tag.reference? (t : Tag) (name : String) : Option String :=
  ((t.attribute? name).map Text.strip).filter (!·.isEmpty)

/- The picture that an image shows on its own or when it is seen. -/
def Tag.cover? (t : Tag) : Option String :=
  (t.reference? "src").or
    ((t.reference? "data-src").or (t.reference? "data-original"))

/- The references of the images below an element. -/
def coverMedia (e : Element) : List String :=
  (e.below.filter (·.tag.name == "img")).filterMap (·.tag.cover?)

/-
  The references of an image or of a video: of a video its own
  source, its poster and the sources below it.
-/
def embedded (e : Element) : List String :=
  if e.tag.name == "img" then
    ((e.tag.reference? "data-original").or
      (e.tag.reference? "src")).toList
  else if e.tag.name == "video" then
    (e.tag.reference? "src").toList ++
      (e.tag.reference? "poster").toList ++
      (e.below.filter (·.tag.name == "source")).filterMap
        (·.tag.reference? "src")
  else []

/- The references of images and videos below an element. -/
def inlineMedia (e : Element) : List String :=
  e.below.flatMap embedded

/- The text below an element. -/
def Element.text (e : Element) : String :=
  String.ofList (Node.textContentAll e.children)

------------------------------------------------------------
-- Media of Texts
------------------------------------------------------------

/- A text with both angle brackets is taken for markup. -/
def looksLikeMarkup (s : String) : Bool :=
  s.toList.contains '<' && s.toList.contains '>'

/- The references of images and videos in a text that is markup. -/
def mediaIn (s : String) : List String :=
  if looksLikeMarkup s then inlineMedia (parseFragment s).element
  else []

/- The text that a reader of markup sees; other texts are kept. -/
def renderedText (s : String) : String :=
  if looksLikeMarkup s then (parseFragment s).element.text
  else s

end Markup

end Gleaner
