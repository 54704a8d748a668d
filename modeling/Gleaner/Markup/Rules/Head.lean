import Gleaner.Markup.Builder

/-
  Tree construction in front of the body, and inside elements
  that hold nothing but text.

  Key definitions include:
    * `Markup.Outcome`
    * `Markup.Rules.initial`
    * `Markup.Rules.beforeHtml`
    * `Markup.Rules.beforeHead`
    * `Markup.Rules.inHead`
    * `Markup.Rules.afterHead`
    * `Markup.Rules.text`
-/

namespace Gleaner

namespace Markup

/-
  What becomes of a token: it is used up, it is read again in
  the mode that was set, the rules of another mode apply to it,
  or those of the body apply and misplaced nodes go outside
  their table.
-/
inductive Outcome
  | done
  | again
  | rules (m : Mode)
  | fostered
deriving DecidableEq, Repr

namespace Rules

open Build

------------------------------------------------------------
-- Before the Head
------------------------------------------------------------

/- Read the token again in another mode. -/
def again (m : Mode) : Build Outcome := do
  setMode m
  return .again

/- In front of everything.  Without a type the page is an old one. -/
def initial : Token → Build Outcome
  | .blank _ => return .done
  | .comment s => do
      commentBelow 0 s
      return .done
  | _ => do
      modify fun b => { b with oldLayout := true }
      again .beforeHtml

/- End tags that imply the elements which are missing. -/
def impliesElements (name : String) : Bool :=
  ["head", "body", "html", "br"].contains name

/- In front of the outermost element. -/
def beforeHtml : Token → Build Outcome
  | .comment s => do
      commentBelow 0 s
      return .done
  | .blank _ => return .done
  | token => do
      let implied : Build Outcome := do
        createRoot []
        again .beforeHead
      match token with
      | .startTag t =>
          if t.name == "html" then do
            createRoot t.attributes
            setMode .beforeHead
            return .done
          else implied
      | .endTag name =>
          if impliesElements name then implied else return .done
      | _ => implied

/- In front of the head. -/
def beforeHead : Token → Build Outcome
  | .blank _ => return .done
  | .comment s => do
      insertComment s
      return .done
  | token => do
      let implied : Build Outcome := do
        let id ← insertImplied "head"
        modify fun b => { b with head := some id }
        again .inHead
      match token with
      | .startTag t =>
          if t.name == "html" then return .rules .inBody
          else if t.name == "head" then do
            let id ← insert t
            modify fun b => { b with head := some id, mode := .inHead }
            return .done
          else implied
      | .endTag name =>
          if impliesElements name then implied else return .done
      | _ => implied

------------------------------------------------------------
-- The Head
------------------------------------------------------------

/- The end tag of a template. -/
def closeTemplate : Build Outcome := do
  if ← hasOpen "template" then
    closeImplied thoroughNames
    popUntilNamed "template"
    clearToMarker
    modify fun b => { b with templateModes := b.templateModes.tail }
    resetMode
  return .done

/- The start tag of a template. -/
def openTemplate (t : StartTag) : Build Outcome := do
  let _ ← insert t
  pushMarker
  forbidFrameset
  modify fun b =>
    { b with
      mode := .inTemplate
      templateModes := .inTemplate :: b.templateModes }
  return .done

/- Inside the head. -/
def inHead : Token → Build Outcome
  | .blank cs => do
      insertText cs
      return .done
  | .comment s => do
      insertComment s
      return .done
  | token => do
      let implied : Build Outcome := do
        pop
        again .afterHead
      match token with
      | .startTag t =>
          match t.name with
          | "html" => return .rules .inBody
          | "base" | "basefont" | "bgsound" | "link" | "meta" => do
              let _ ← insertClosed t
              return .done
          | "title" => do
              insertTextElement t (.references "title".toList)
              return .done
          | "noframes" | "style" | "noscript" => do
              insertTextElement t (.raw t.name.toList)
              return .done
          | "script" => do
              insertTextElement t .script
              return .done
          | "template" => openTemplate t
          | "head" => return .done
          | _ => implied
      | .endTag name =>
          match name with
          | "head" => do
              pop
              setMode .afterHead
              return .done
          | "body" | "html" | "br" => implied
          | "template" => closeTemplate
          | _ => return .done
      | _ => implied

/- Start tags that belong into the head wherever they stand. -/
def headNames : List String :=
  ["base", "basefont", "bgsound", "link", "meta", "noframes",
    "script", "style", "template", "title"]

/-
  Between the head and the body.  What belongs into the head is
  still put there.
-/
def afterHead : Token → Build Outcome
  | .blank cs => do
      insertText cs
      return .done
  | .comment s => do
      insertComment s
      return .done
  | token => do
      let implied : Build Outcome := do
        let _ ← insertImplied "body"
        again .inBody
      match token with
      | .startTag t =>
          match t.name with
          | "html" => return .rules .inBody
          | "body" => do
              let _ ← insert t
              forbidFrameset
              setMode .inBody
              return .done
          | "frameset" => do
              let _ ← insert t
              setMode .inFrameset
              return .done
          | "head" => return .done
          | name =>
              if headNames.contains name then do
                let head := (← get).head.getD 0
                push head
                let _ ← inHead token
                removeOpen head
                return .done
              else implied
      | .endTag name =>
          match name with
          | "template" => return .rules .inHead
          | "body" | "html" | "br" => implied
          | _ => return .done
      | _ => implied

------------------------------------------------------------
-- Elements of Text
------------------------------------------------------------

/- Inside an element that holds nothing but text. -/
def text : Token → Build Outcome
  | .blank cs | .words cs => do
      insertText cs
      return .done
  | .null => return .done
  | .eof => do
      pop
      again (← get).returnMode
  | .endTag _ => do
      pop
      setMode (← get).returnMode
      return .done
  | _ => return .done

end Rules

end Markup

end Gleaner
