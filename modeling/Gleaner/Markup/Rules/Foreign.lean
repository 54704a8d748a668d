import Gleaner.Markup.Rules.Other

/-
  Tree construction inside graphics and mathematics.

  Key definitions include:
    * `Markup.Rules.isForeign`
    * `Markup.Rules.foreign`
-/

namespace Gleaner

namespace Markup

namespace Rules

open Build

------------------------------------------------------------
-- Where the Rules Apply
------------------------------------------------------------

/- The token is text. -/
def isText : Token → Bool
  | .blank _ | .words _ | .null => true
  | _ => false

/- The rules of foreign content apply to a token below a tag. -/
def isForeignBelow (tag : Tag) (token : Token) : Bool :=
  if tag.space == .html then false
  else if holdsMathText tag &&
      (isText token ||
        match token with
        | .startTag t => t.name != "mglyph" && t.name != "malignmark"
        | _ => false) then false
  else if holdsMarkup tag &&
      (isText token ||
        match token with
        | .startTag _ => true
        | _ => false) then false
  else if tag.space == .mathml && tag.name == "annotation-xml" then
    match token with
    | .startTag t => t.name != "svg"
    | _ => true
  else true

/- The rules of foreign content apply to a token. -/
def isForeign (token : Token) : Build Bool := do
  let b ← get
  if token == .eof || b.openIds.isEmpty then return false
  else return isForeignBelow (← adjustedTag) token

------------------------------------------------------------
-- The Rules
------------------------------------------------------------

/- Start tags that end foreign content. -/
def breakoutNames : List String :=
  ["b", "big", "blockquote", "body", "br", "center", "code", "dd",
    "div", "dl", "dt", "em", "embed", "h1", "h2", "h3", "h4", "h5",
    "h6", "head", "hr", "i", "img", "li", "listing", "menu",
    "meta", "nobr", "ol", "p", "pre", "ruby", "s", "small", "span",
    "strong", "strike", "sub", "sup", "table", "tt", "u", "ul",
    "var"]

/- The start tag ends foreign content. -/
def breaksOut (t : StartTag) : Bool :=
  breakoutNames.contains t.name ||
    (t.name == "font" &&
      t.attributes.any fun (n, _) => ["color", "face", "size"].contains n)

/- An element inside foreign content. -/
def insertForeign (t : StartTag) : Build Outcome := do
  let space := (← adjustedTag).space
  let tag := foreignTag space t
  let tag :=
    if space == .svg then
      { tag with name := restoreCase svgNames tag.name }
    else tag
  let _ ← insertTag tag (!t.selfClosing)
  return .done

/-
  Close the elements down to one with the name of an end tag.
  An element of the main language in between hands the tag over
  to its own rules.
-/
def closeForeign (name : String) (mode : Mode) (a : Arena) :
    Bool → List Nat → Build Outcome
  | _, [] => return .done
  | _, [_] => return .done
  | first, id :: rest => do
      let tag := a.tagOf id
      if !first && tag.space == .html then return .rules mode
      else if tag.name.toLower == name.toLower then do
        modify fun b => { b with openIds := rest }
        return .done
      else closeForeign name mode a false rest

/- Elements in which the main language goes on. -/
def endsForeign (t : Tag) : Bool :=
  t.space == .html || holdsMathText t || holdsMarkup t

/- Inside graphics and mathematics. -/
def foreign : Token → Build Outcome
  | .null => do
      insertText ['\uFFFD']
      return .done
  | .blank cs => do
      insertText cs
      return .done
  | .words cs => do
      insertText cs
      forbidFrameset
      return .done
  | .comment s => do
      insertComment s
      return .done
  | .startTag t => do
      if breaksOut t && !(← get).fragment then
        modify fun b =>
          { b with
            openIds := dropUntil endsForeign b.arena (b.openIds.drop 1) }
        return .again
      else insertForeign t
  | .endTag name => do
      let b ← get
      closeForeign name b.mode b.arena true b.openIds
  | _ => return .done

end Rules

end Markup

end Gleaner
