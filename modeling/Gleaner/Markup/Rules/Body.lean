import Gleaner.Markup.Rules.Head

/-
  Tree construction inside the body.

  Key definitions include:
    * `Markup.Rules.bodyStart`
    * `Markup.Rules.bodyEnd`
    * `Markup.Rules.inBody`
-/

namespace Gleaner

namespace Markup

namespace Rules

open Build

------------------------------------------------------------
-- Foreign Elements
------------------------------------------------------------

/- The written names of attributes of graphics. -/
def svgAttributes : List String :=
  ["attributeName", "attributeType", "baseFrequency", "baseProfile",
    "calcMode", "clipPathUnits", "diffuseConstant", "edgeMode",
    "filterUnits", "glyphRef", "gradientTransform",
    "gradientUnits", "kernelMatrix", "kernelUnitLength",
    "keyPoints", "keySplines", "keyTimes", "lengthAdjust",
    "limitingConeAngle", "markerHeight", "markerUnits",
    "markerWidth", "maskContentUnits", "maskUnits", "numOctaves",
    "pathLength", "patternContentUnits", "patternTransform",
    "patternUnits", "pointsAtX", "pointsAtY", "pointsAtZ",
    "preserveAlpha", "preserveAspectRatio", "primitiveUnits",
    "refX", "refY", "repeatCount", "repeatDur",
    "requiredExtensions", "requiredFeatures", "specularConstant",
    "specularExponent", "spreadMethod", "startOffset",
    "stdDeviation", "stitchTiles", "surfaceScale",
    "systemLanguage", "tableValues", "targetX", "targetY",
    "textLength", "viewBox", "viewTarget", "xChannelSelector",
    "yChannelSelector", "zoomAndPan"]

/- The written names of elements of graphics. -/
def svgNames : List String :=
  ["altGlyph", "altGlyphDef", "altGlyphItem", "animateColor",
    "animateMotion", "animateTransform", "clipPath", "feBlend",
    "feColorMatrix", "feComponentTransfer", "feComposite",
    "feConvolveMatrix", "feDiffuseLighting", "feDisplacementMap",
    "feDistantLight", "feDropShadow", "feFlood", "feFuncA",
    "feFuncB", "feFuncG", "feFuncR", "feGaussianBlur", "feImage",
    "feMerge", "feMergeNode", "feMorphology", "feOffset",
    "fePointLight", "feSpecularLighting", "feSpotLight", "feTile",
    "feTurbulence", "foreignObject", "glyphRef", "linearGradient",
    "radialGradient", "textPath"]

/- The written form of a name that was read in small letters. -/
def restoreCase (written : List String) (name : String) : String :=
  (written.find? (·.toLower == name)).getD name

/- An attribute of a foreign element. -/
def foreignAttribute (space : Space) (name value : String) : Attribute :=
  let xlinks :=
    ["actuate", "arcrole", "href", "role", "show", "title", "type"]
  match Text.cutAt (· == ':') name.toList with
  | [pre, local'] =>
      let lead := String.ofList pre
      let rest := String.ofList local'
      if lead == "xlink" && xlinks.contains rest then
        ⟨.xlink, rest, value⟩
      else if lead == "xml" && ["base", "lang", "space"].contains rest then
        ⟨.xml, rest, value⟩
      else if lead == "xmlns" && rest == "xlink" then
        ⟨.xmlns, rest, value⟩
      else ⟨.plain, name, value⟩
  | _ =>
      if name == "xmlns" then ⟨.xmlns, name, value⟩
      else
        match space with
        | .svg => ⟨.plain, restoreCase svgAttributes name, value⟩
        | .mathml =>
            ⟨.plain,
              if name == "definitionurl" then "definitionURL" else name,
              value⟩
        | .html => ⟨.plain, name, value⟩

/- The tag of a foreign element. -/
def foreignTag (space : Space) (t : StartTag) : Tag :=
  ⟨space, t.name,
    t.attributes.map fun (n, v) => foreignAttribute space n v⟩

/- The outermost element of foreign content. -/
def enterForeign (space : Space) (t : StartTag) : Build Outcome := do
  reconstruct
  let _ ← insertTag (foreignTag space t) (!t.selfClosing)
  return .done

------------------------------------------------------------
-- Start Tags
------------------------------------------------------------

/- Elements that end a paragraph. -/
def blockNames : List String :=
  ["address", "article", "aside", "blockquote", "center", "details",
    "dialog", "dir", "div", "dl", "fieldset", "figcaption",
    "figure", "footer", "header", "hgroup", "main", "menu", "nav",
    "ol", "p", "section", "summary", "ul"]

/- The names of headings. -/
def headingNames : List String :=
  ["h1", "h2", "h3", "h4", "h5", "h6"]

/- The names of formatting elements other than links. -/
def formattingNames : List String :=
  ["b", "big", "code", "em", "font", "i", "s", "small", "strike",
    "strong", "tt", "u"]

/- A hidden field of a form. -/
def isHidden (t : StartTag) : Bool :=
  t.attributes.any fun (n, v) => n == "type" && v.toLower == "hidden"

/- The second open element, if it is the body. -/
def bodyElement? : Build (Option Nat) := do
  let b ← get
  match b.openIds.reverse with
  | _ :: id :: _ =>
      return if (b.arena.tagOf id).isHtml "body" then some id else none
  | _ => return none

/- An item of a list closes the item before it. -/
def itemToClose? (names : List String) (a : Arena) :
    List Nat → Option String
  | [] => none
  | id :: rest =>
      let tag := a.tagOf id
      if tag.isHtmlIn names then some tag.name
      else if isSpecial tag && !tag.isHtmlIn ["address", "div", "p"] then
        none
      else itemToClose? names a rest

/- A link inside a link closes the outer one. -/
def closeOuterLink : Build Unit := do
  let b ← get
  match (sinceMarker b.formatting).find? fun (id, _) =>
      (b.arena.tagOf id).isHtml "a" with
  | some (id, _) => do
      adopt "a"
      removeFormatting id
      removeOpen id
  | none => pure ()

/- An element in its place, after the formatting around it. -/
def insertInline (t : StartTag) : Build Unit := do
  reconstruct
  let _ ← insert t

/- The start tag of a frameset in place of a body. -/
def replaceBody (t : StartTag) : Build Unit := do
  if (← get).framesetOk then
    match ← bodyElement? with
    | some body => do
        modify fun b =>
          { b with
            arena := b.arena.detach body
            openIds := b.openIds.drop (b.openIds.length - 1) }
        let _ ← insert t
        setMode .inFrameset
    | none => pure ()

/- A start tag inside the body. -/
def bodyStart (t : StartTag) : Build Outcome := do
  match t.name with
  | "html" => do
      if !(← hasOpen "template") then
        addMissing (← outermost) t.attributes
      return .done
  | "base" | "basefont" | "bgsound" | "link" | "meta" | "noframes"
  | "script" | "style" | "template" | "title" =>
      return .rules .inHead
  | "body" => do
      match ← bodyElement? with
      | some body =>
          if !(← hasOpen "template") then do
            forbidFrameset
            addMissing body t.attributes
      | none => pure ()
      return .done
  | "frameset" => do
      replaceBody t
      return .done
  | "pre" | "listing" => do
      closeParagraphInScope
      let _ ← insert t
      modify fun b => { b with skipNewline := true }
      forbidFrameset
      return .done
  | "form" => do
      let inTemplate ← hasOpen "template"
      if (← get).form.isSome && !inTemplate then return .done
      closeParagraphInScope
      let id ← insert t
      if !inTemplate then modify fun b => { b with form := some id }
      return .done
  | "li" | "dd" | "dt" => do
      forbidFrameset
      let names := if t.name == "li" then ["li"] else ["dd", "dt"]
      let b ← get
      match itemToClose? names b.arena b.openIds with
      | some name => do
          closeImpliedExcept name
          popUntilNamed name
      | none => pure ()
      closeParagraphInScope
      let _ ← insert t
      return .done
  | "plaintext" => do
      closeParagraphInScope
      let _ ← insert t
      modify fun b => { b with textMode := .plain }
      return .done
  | "button" => do
      if ← inScopeNamed defaultScope "button" then do
        closeImplied impliedNames
        popUntilNamed "button"
      insertInline t
      forbidFrameset
      return .done
  | "a" => do
      closeOuterLink
      reconstruct
      insertFormatting t
      return .done
  | "nobr" => do
      reconstruct
      if ← inScopeNamed defaultScope "nobr" then do
        adopt "nobr"
        reconstruct
      insertFormatting t
      return .done
  | "applet" | "marquee" | "object" => do
      insertInline t
      pushMarker
      forbidFrameset
      return .done
  | "table" => do
      if !(← get).oldLayout then closeParagraphInScope
      let _ ← insert t
      forbidFrameset
      setMode .inTable
      return .done
  | "area" | "br" | "embed" | "img" | "keygen" | "wbr" | "input" => do
      reconstruct
      let _ ← insertClosed t
      if !(t.name == "input" && isHidden t) then forbidFrameset
      return .done
  | "param" | "source" | "track" => do
      let _ ← insertClosed t
      return .done
  | "hr" => do
      closeParagraphInScope
      let _ ← insertClosed t
      forbidFrameset
      return .done
  | "image" => do
      reconstruct
      let _ ← insertClosed { t with name := "img" }
      forbidFrameset
      return .done
  | "textarea" => do
      forbidFrameset
      insertTextElement t (.references t.name.toList)
      modify fun b => { b with skipNewline := true }
      return .done
  | "xmp" => do
      closeParagraphInScope
      reconstruct
      forbidFrameset
      insertTextElement t (.raw t.name.toList)
      return .done
  | "iframe" => do
      forbidFrameset
      insertTextElement t (.raw t.name.toList)
      return .done
  | "noembed" | "noscript" => do
      insertTextElement t (.raw t.name.toList)
      return .done
  | "select" => do
      insertInline t
      forbidFrameset
      let mode := (← get).mode
      setMode
        (if [Mode.inTable, .inCaption, .inTableBody, .inRow, .inCell].contains
            mode then .inSelectInTable
        else .inSelect)
      return .done
  | "optgroup" | "option" => do
      if ← currentIn ["option"] then pop
      insertInline t
      return .done
  | "rb" | "rtc" => do
      if ← inScopeNamed defaultScope "ruby" then
        closeImplied impliedNames
      let _ ← insert t
      return .done
  | "rp" | "rt" => do
      if ← inScopeNamed defaultScope "ruby" then
        closeImpliedExcept "rtc"
      let _ ← insert t
      return .done
  | "math" => enterForeign .mathml t
  | "svg" => enterForeign .svg t
  | "caption" | "col" | "colgroup" | "frame" | "head" | "tbody" | "td"
  | "tfoot" | "th" | "thead" | "tr" => return .done
  | name =>
      if blockNames.contains name then do
        closeParagraphInScope
        let _ ← insert t
        return .done
      else if headingNames.contains name then do
        closeParagraphInScope
        if ← currentIn headingNames then pop
        let _ ← insert t
        return .done
      else if formattingNames.contains name then do
        reconstruct
        insertFormatting t
        return .done
      else do
        insertInline t
        return .done

------------------------------------------------------------
-- End Tags
------------------------------------------------------------

/- Elements whose end tags close everything inside them. -/
def closingNames : List String :=
  ["address", "article", "aside", "blockquote", "button", "center",
    "details", "dialog", "dir", "div", "dl", "fieldset",
    "figcaption", "figure", "footer", "header", "hgroup",
    "listing", "main", "menu", "nav", "ol", "pre", "section",
    "summary", "ul"]

/- Close an element that is in the usual scope. -/
def closeInScope (scope : Tag → Bool) (name : String)
    (implied : List String) : Build Bool := do
  if ← inScopeNamed scope name then
    closeImplied implied
    popUntilNamed name
    return true
  else return false

/- The end tag of a form. -/
def closeForm : Build Unit := do
  if ← hasOpen "template" then
    let _ ← closeInScope defaultScope "form" impliedNames
  else
    match (← get).form with
    | none => pure ()
    | some id => do
        modify fun b => { b with form := none }
        if ← inScopeId id then
          closeImplied impliedNames
          removeOpen id

/- An end tag inside the body. -/
def bodyEnd (name : String) : Build Outcome := do
  match name with
  | "template" => return .rules .inHead
  | "body" => do
      if ← inScopeNamed defaultScope "body" then setMode .afterBody
      return .done
  | "html" => do
      if ← inScopeNamed defaultScope "body" then again .afterBody
      else return .done
  | "form" => do
      closeForm
      return .done
  | "p" => do
      if !(← inScopeNamed buttonScope "p") then
        let _ ← insertImplied "p"
      closeParagraph
      return .done
  | "li" => do
      let _ ← closeInScope listScope name
        (impliedNames.filter (· != name))
      return .done
  | "dd" | "dt" => do
      let _ ← closeInScope defaultScope name
        (impliedNames.filter (· != name))
      return .done
  | "a" | "nobr" => do
      adopt name
      return .done
  | "applet" | "marquee" | "object" => do
      if ← closeInScope defaultScope name impliedNames then clearToMarker
      return .done
  | "br" => bodyStart ⟨"br", [], false⟩
  | _ =>
      if closingNames.contains name then do
        let _ ← closeInScope defaultScope name impliedNames
        return .done
      else if headingNames.contains name then do
        if ← inScope defaultScope (·.isHtmlIn headingNames) then
          closeImplied impliedNames
          popUntil (·.isHtmlIn headingNames)
        return .done
      else if formattingNames.contains name then do
        adopt name
        return .done
      else do
        closeOrdinary name
        return .done

------------------------------------------------------------
-- All Tokens
------------------------------------------------------------

/- Text inside the body. -/
def bodyText (cs : List Char) (isBlank : Bool) : Build Unit := do
  reconstruct
  insertText cs
  if !isBlank then forbidFrameset

/- Inside the body. -/
def inBody : Token → Build Outcome
  | .null => return .done
  | .blank cs => do
      bodyText cs true
      return .done
  | .words cs => do
      bodyText cs false
      return .done
  | .comment s => do
      insertComment s
      return .done
  | .startTag t => bodyStart t
  | .endTag name => bodyEnd name
  | .doctype _ => return .done
  | .eof => do
      if (← get).templateModes.isEmpty then return .done
      else return .rules .inTemplate

end Rules

end Markup

end Gleaner
