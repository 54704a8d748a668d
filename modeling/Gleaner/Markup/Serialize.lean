import Gleaner.Markup.Node

/-
  Writing markup: the text from which a tree would be parsed.

  Key definitions include:
    * `Markup.isVoid`
    * `Markup.holdsRawText`
    * `Markup.escapeText`
    * `Markup.escapeValue`
    * `Markup.Node.write`
    * `Markup.innerMarkup`
-/

namespace Gleaner

namespace Markup

------------------------------------------------------------
-- Kinds of Elements
------------------------------------------------------------

/- Elements that are written without content and end tag. -/
def voidNames : List String :=
  ["area", "base", "basefont", "bgsound", "br", "col", "embed",
    "frame", "hr", "img", "input", "keygen", "link", "meta",
    "param", "source", "track", "wbr"]

/- The element is written without content and end tag. -/
def isVoid (t : Tag) : Bool :=
  t.isHtmlIn voidNames

/- Elements whose text is written without references. -/
def rawTextNames : List String :=
  ["style", "script", "xmp", "iframe", "noembed", "noframes",
    "plaintext"]

/- The text of the element is written without references. -/
def holdsRawText (t : Tag) : Bool :=
  t.isHtmlIn rawTextNames

------------------------------------------------------------
-- Texts and Attributes
------------------------------------------------------------

/- A character of a text, or the reference that stands for it. -/
def escapeText (c : Char) : List Char :=
  if c == '&' then ['&', 'a', 'm', 'p', ';']
  else if c == '\u00A0' then ['&', 'n', 'b', 's', 'p', ';']
  else if c == '<' then ['&', 'l', 't', ';']
  else if c == '>' then ['&', 'g', 't', ';']
  else [c]

/- A character of a value, or the reference that stands for it. -/
def escapeValue (c : Char) : List Char :=
  if c == '&' then ['&', 'a', 'm', 'p', ';']
  else if c == '\u00A0' then ['&', 'n', 'b', 's', 'p', ';']
  else if c == '"' then ['&', 'q', 'u', 'o', 't', ';']
  else [c]

/- What is written before the name of an attribute. -/
def Attribute.lead (a : Attribute) : List Char :=
  match a.space with
  | .plain => []
  | .xml => ['x', 'm', 'l', ':']
  | .xlink => ['x', 'l', 'i', 'n', 'k', ':']
  | .xmlns =>
      if a.name == "xmlns" then [] else ['x', 'm', 'l', 'n', 's', ':']

/- An attribute with the blank in front of it. -/
def Attribute.write (a : Attribute) : List Char :=
  ' ' :: a.lead ++ a.name.toList ++ ['=', '"'] ++
    a.value.toList.flatMap escapeValue ++ ['"']

/- The start tag of an element. -/
def Tag.writeStart (t : Tag) : List Char :=
  '<' :: t.name.toList ++ t.attributes.flatMap Attribute.write ++ ['>']

/- The end tag of an element. -/
def Tag.writeEnd (t : Tag) : List Char :=
  ['<', '/'] ++ t.name.toList ++ ['>']

------------------------------------------------------------
-- Trees
------------------------------------------------------------

namespace Node

mutual

/- A node, below an element whose text is raw or not. -/
def write (raw : Bool) : Node → List Char
  | .text s => if raw then s.toList else s.toList.flatMap escapeText
  | .comment s => ['<', '!', '-', '-'] ++ s.toList ++ ['-', '-', '>']
  | .element tag children =>
      if isVoid tag then tag.writeStart
      else
        tag.writeStart ++ writeAll (holdsRawText tag) children ++
          tag.writeEnd

/- Some nodes, one after another. -/
def writeAll (raw : Bool) : List Node → List Char
  | [] => []
  | node :: rest => write raw node ++ writeAll raw rest

end

end Node

/-
  The markup of the children of an element.  The element itself
  does not matter: raw text stands raw only inside an element
  that is written too.
-/
def innerMarkup (children : List Node) : List Char :=
  Node.writeAll false children

end Markup

end Gleaner
