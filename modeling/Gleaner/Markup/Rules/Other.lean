import Gleaner.Markup.Rules.Table

/-
  Tree construction inside selections, templates and framesets,
  and behind the body.

  Key definitions include:
    * `Markup.Rules.inSelect`
    * `Markup.Rules.inSelectInTable`
    * `Markup.Rules.inTemplate`
    * `Markup.Rules.afterBody`
    * `Markup.Rules.inFrameset`
    * `Markup.Rules.afterFrameset`
-/

namespace Gleaner

namespace Markup

namespace Rules

open Build

------------------------------------------------------------
-- Selections
------------------------------------------------------------

/- Leave a selection and read the token again. -/
def leaveSelect : Build Outcome := do
  popUntilNamed "select"
  resetMode
  return .again

/- Close a selection if there is one. -/
def closeSelect : Build Outcome := do
  if ← inScopeNamed selectScope "select" then
    popUntilNamed "select"
    resetMode
  return .done

/- The end tag of a group of options. -/
def closeGroup : Build Outcome := do
  let b ← get
  match b.openIds with
  | option :: group :: _ =>
      if (b.arena.tagOf option).isHtml "option" &&
          (b.arena.tagOf group).isHtml "optgroup" then pop
  | _ => pure ()
  if ← currentIn ["optgroup"] then pop
  return .done

/- Inside a selection. -/
def inSelect : Token → Build Outcome
  | .null => return .done
  | .blank cs | .words cs => do
      insertText cs
      return .done
  | .comment s => do
      insertComment s
      return .done
  | .startTag t => do
      match t.name with
      | "html" => return .rules .inBody
      | "option" => do
          if ← currentIn ["option"] then pop
          let _ ← insert t
          return .done
      | "optgroup" => do
          if ← currentIn ["option"] then pop
          if ← currentIn ["optgroup"] then pop
          let _ ← insert t
          return .done
      | "select" => closeSelect
      | "input" | "keygen" | "textarea" => do
          if ← inScopeNamed selectScope "select" then leaveSelect
          else return .done
      | "script" | "template" => return .rules .inHead
      | _ => return .done
  | .endTag name => do
      match name with
      | "optgroup" => closeGroup
      | "option" => do
          if ← currentIn ["option"] then pop
          return .done
      | "select" => closeSelect
      | "template" => return .rules .inHead
      | _ => return .done
  | .eof => return .rules .inBody
  | .doctype _ => return .done

/- The parts of a table that end a selection in it. -/
def selectEnders : List String :=
  ["caption", "table", "tbody", "tfoot", "thead", "tr", "td", "th"]

/- Inside a selection in a table. -/
def inSelectInTable (token : Token) : Build Outcome := do
  match token with
  | .startTag t =>
      if selectEnders.contains t.name then leaveSelect
      else return .rules .inSelect
  | .endTag name =>
      if selectEnders.contains name then
        if ← inScopeNamed tableScope name then leaveSelect
        else return .done
      else return .rules .inSelect
  | _ => return .rules .inSelect

------------------------------------------------------------
-- Templates
------------------------------------------------------------

/- Read the token again in the mode that it starts a template with. -/
def switchTemplate (m : Mode) : Build Outcome := do
  modify fun b => { b with templateModes := m :: b.templateModes.tail }
  again m

/- Inside a template. -/
def inTemplate : Token → Build Outcome
  | .null | .blank _ | .words _ | .comment _ => return .rules .inBody
  | .startTag t =>
      if headNames.contains t.name then return .rules .inHead
      else
        match t.name with
        | "caption" | "colgroup" | "tbody" | "tfoot" | "thead" =>
            switchTemplate .inTable
        | "col" => switchTemplate .inColumnGroup
        | "tr" => switchTemplate .inTableBody
        | "td" | "th" => switchTemplate .inRow
        | _ => switchTemplate .inBody
  | .endTag name =>
      return if name == "template" then .rules .inHead else .done
  | .eof => do
      if ← hasOpen "template" then
        popUntilNamed "template"
        clearToMarker
        modify fun b => { b with templateModes := b.templateModes.tail }
        resetMode
        return .again
      else return .done
  | .doctype _ => return .done

------------------------------------------------------------
-- Behind the Body
------------------------------------------------------------

/- Behind the body. -/
def afterBody : Token → Build Outcome
  | .blank _ => return .rules .inBody
  | .comment s => do
      commentBelow (← outermost) s
      return .done
  | .startTag t =>
      if t.name == "html" then return .rules .inBody else again .inBody
  | .endTag name => do
      if name == "html" then
        if !(← get).fragment then setMode .afterAfterBody
        return .done
      else again .inBody
  | .eof => return .done
  | _ => again .inBody

/- Behind the outermost element. -/
def afterAfterBody : Token → Build Outcome
  | .blank _ => return .rules .inBody
  | .comment s => do
      commentBelow 0 s
      return .done
  | .startTag t =>
      if t.name == "html" then return .rules .inBody else again .inBody
  | .eof => return .done
  | _ => again .inBody

------------------------------------------------------------
-- Framesets
------------------------------------------------------------

/- Inside a frameset. -/
def inFrameset : Token → Build Outcome
  | .blank cs => do
      insertText cs
      return .done
  | .comment s => do
      insertComment s
      return .done
  | .startTag t => do
      match t.name with
      | "html" => return .rules .inBody
      | "frameset" => do
          let _ ← insert t
          return .done
      | "frame" => do
          let _ ← insertClosed t
          return .done
      | "noframes" => return .rules .inHead
      | _ => return .done
  | .endTag name => do
      if name == "frameset" && 1 < (← get).openIds.length then
        pop
        if !(← get).fragment && !(← currentIn ["frameset"]) then
          setMode .afterFrameset
      return .done
  | _ => return .done

/- Behind the outermost frameset. -/
def afterFrameset : Token → Build Outcome
  | .blank cs => do
      insertText cs
      return .done
  | .comment s => do
      insertComment s
      return .done
  | .startTag t =>
      match t.name with
      | "html" => return .rules .inBody
      | "noframes" => return .rules .inHead
      | _ => return .done
  | .endTag name => do
      if name == "html" then setMode .afterAfterFrameset
      return .done
  | _ => return .done

/- Behind everything, with framesets. -/
def afterAfterFrameset : Token → Build Outcome
  | .blank _ => return .rules .inBody
  | .comment s => do
      commentBelow 0 s
      return .done
  | .startTag t =>
      match t.name with
      | "html" => return .rules .inBody
      | "noframes" => return .rules .inHead
      | _ => return .done
  | _ => return .done

end Rules

end Markup

end Gleaner
