import Gleaner.Markup.Rules.Body

/-
  Tree construction inside tables.

  Key definitions include:
    * `Markup.Rules.inTable`
    * `Markup.Rules.inTableText`
    * `Markup.Rules.inCaption`
    * `Markup.Rules.inColumnGroup`
    * `Markup.Rules.inTableBody`
    * `Markup.Rules.inRow`
    * `Markup.Rules.inCell`
-/

namespace Gleaner

namespace Markup

namespace Rules

open Build

------------------------------------------------------------
-- Names
------------------------------------------------------------

/- The elements in which parts of tables stand. -/
def tableContext : List String :=
  ["table", "template", "html"]

/- The elements in which rows stand. -/
def bodyContext : List String :=
  ["tbody", "tfoot", "thead", "template", "html"]

/- The elements in which cells stand. -/
def rowContext : List String :=
  ["tr", "template", "html"]

/- The parts of a table from the caption to the cells. -/
def partNames : List String :=
  ["caption", "col", "colgroup", "tbody", "td", "tfoot", "th",
    "thead", "tr"]

/- The parts of a table that hold rows. -/
def sectionNames : List String :=
  ["tbody", "tfoot", "thead"]

------------------------------------------------------------
-- Tables
------------------------------------------------------------

/- Text between the parts of a table. -/
def tableText : Build Outcome := do
  if ← currentIn tableNames then
    modify fun b => { b with returnMode := b.mode, pending := [] }
    again .inTableText
  else return .fostered

/- A start tag between the parts of a table. -/
def tableStart (t : StartTag) : Build Outcome := do
  match t.name with
  | "caption" => do
      popUntilCurrent tableContext
      pushMarker
      let _ ← insert t
      setMode .inCaption
      return .done
  | "colgroup" => do
      popUntilCurrent tableContext
      let _ ← insert t
      setMode .inColumnGroup
      return .done
  | "col" => do
      popUntilCurrent tableContext
      let _ ← insertImplied "colgroup"
      again .inColumnGroup
  | "tbody" | "tfoot" | "thead" => do
      popUntilCurrent tableContext
      let _ ← insert t
      setMode .inTableBody
      return .done
  | "td" | "th" | "tr" => do
      popUntilCurrent tableContext
      let _ ← insertImplied "tbody"
      again .inTableBody
  | "table" => do
      if ← inScopeNamed tableScope "table" then
        popUntilNamed "table"
        resetMode
        return .again
      else return .done
  | "style" | "script" | "template" => return .rules .inHead
  | "input" => do
      if isHidden t then
        let _ ← insertClosed t
        return .done
      else return .fostered
  | "form" => do
      if !(← hasOpen "template") && (← get).form.isNone then
        let id ← insertClosed t
        modify fun b => { b with form := some id }
      return .done
  | _ => return .fostered

/- Between the parts of a table. -/
def inTable : Token → Build Outcome
  | .null | .blank _ | .words _ => tableText
  | .comment s => do
      insertComment s
      return .done
  | .startTag t => tableStart t
  | .endTag name => do
      match name with
      | "table" => do
          if ← inScopeNamed tableScope "table" then
            popUntilNamed "table"
            resetMode
          return .done
      | "template" => return .rules .inHead
      | _ =>
          if name == "body" || name == "html" || partNames.contains name
          then return .done
          else return .fostered
  | .eof => return .rules .inBody
  | .doctype _ => return .done

/- Some words stand among the text of a table. -/
def hasWords (tokens : List Token) : Bool :=
  tokens.any fun
    | .words _ => true
    | _ => false

/- Text that was collected between the parts of a table. -/
def flushPending (outside : Bool) : List Token → Build Unit
  | [] => pure ()
  | token :: rest => do
      match token, outside with
      | .blank cs, true => bodyText cs true
      | .words cs, true => bodyText cs false
      | .blank cs, false | .words cs, false => insertText cs
      | _, _ => pure ()
      flushPending outside rest

/- While text between the parts of a table is collected. -/
def inTableText : Token → Build Outcome
  | .null => return .done
  | .blank cs => do
      modify fun b => { b with pending := b.pending ++ [.blank cs] }
      return .done
  | .words cs => do
      modify fun b => { b with pending := b.pending ++ [.words cs] }
      return .done
  | _ => do
      let pending := (← get).pending
      modify fun b => { b with pending := [] }
      if hasWords pending then
        modify fun b => { b with fostering := true }
        flushPending true pending
        modify fun b => { b with fostering := false }
      else flushPending false pending
      again (← get).returnMode

------------------------------------------------------------
-- Captions and Columns
------------------------------------------------------------

/- Close the caption; `false` means that there is none. -/
def closeCaption : Build Bool := do
  if ← closeInScope tableScope "caption" impliedNames then
    clearToMarker
    setMode .inTable
    return true
  else return false

/- Inside a caption. -/
def inCaption (token : Token) : Build Outcome := do
  match token with
  | .startTag t =>
      if partNames.contains t.name then
        return if ← closeCaption then .again else .done
      else return .rules .inBody
  | .endTag name =>
      if name == "caption" then
        let _ ← closeCaption
        return .done
      else if name == "table" then
        return if ← closeCaption then .again else .done
      else if name == "body" || name == "html" || partNames.contains name
      then return .done
      else return .rules .inBody
  | _ => return .rules .inBody

/- Inside a group of columns. -/
def inColumnGroup (token : Token) : Build Outcome := do
  let otherwise : Build Outcome := do
    if ← currentIn ["colgroup"] then
      pop
      again .inTable
    else return .done
  match token with
  | .blank cs => do
      insertText cs
      return .done
  | .comment s => do
      insertComment s
      return .done
  | .startTag t =>
      match t.name with
      | "html" => return .rules .inBody
      | "col" => do
          let _ ← insertClosed t
          return .done
      | "template" => return .rules .inHead
      | _ => otherwise
  | .endTag name =>
      match name with
      | "colgroup" => do
          if ← currentIn ["colgroup"] then
            pop
            setMode .inTable
          return .done
      | "col" => return .done
      | "template" => return .rules .inHead
      | _ => otherwise
  | .eof => return .rules .inBody
  | _ => otherwise

------------------------------------------------------------
-- Rows and Cells
------------------------------------------------------------

/- Leave a section of a table and read the token again. -/
def leaveSection : Build Outcome := do
  if ← inScope tableScope (·.isHtmlIn ["table", "tbody", "tfoot"]) then
    popUntilCurrent bodyContext
    pop
    again .inTable
  else return .done

/- Inside a section of a table. -/
def inTableBody (token : Token) : Build Outcome := do
  match token with
  | .startTag t =>
      match t.name with
      | "tr" => do
          popUntilCurrent bodyContext
          let _ ← insert t
          setMode .inRow
          return .done
      | "th" | "td" => do
          popUntilCurrent bodyContext
          let _ ← insertImplied "tr"
          again .inRow
      | "caption" | "col" | "colgroup" | "tbody" | "tfoot" | "thead" =>
          leaveSection
      | _ => return .rules .inTable
  | .endTag name =>
      if sectionNames.contains name then
        if ← inScopeNamed tableScope name then
          popUntilCurrent bodyContext
          pop
          setMode .inTable
        return .done
      else if name == "table" then leaveSection
      else if name == "body" || name == "html" || partNames.contains name
      then return .done
      else return .rules .inTable
  | _ => return .rules .inTable

/- Close the row; `false` means that there is none. -/
def closeRow : Build Bool := do
  if ← inScopeNamed tableScope "tr" then
    popUntilCurrent rowContext
    pop
    setMode .inTableBody
    return true
  else return false

/- Inside a row. -/
def inRow (token : Token) : Build Outcome := do
  match token with
  | .startTag t =>
      match t.name with
      | "th" | "td" => do
          popUntilCurrent rowContext
          let _ ← insert t
          setMode .inCell
          pushMarker
          return .done
      | "caption" | "col" | "colgroup" | "tbody" | "tfoot" | "thead"
      | "tr" =>
          return if ← closeRow then .again else .done
      | _ => return .rules .inTable
  | .endTag name =>
      if name == "tr" then
        let _ ← closeRow
        return .done
      else if name == "table" then
        return if ← closeRow then .again else .done
      else if sectionNames.contains name then
        if ← inScopeNamed tableScope name then
          return if ← closeRow then .again else .done
        else return .done
      else if name == "body" || name == "html" || partNames.contains name
      then return .done
      else return .rules .inTable
  | _ => return .rules .inTable

/- Close the cell and read the token again. -/
def leaveCell : Build Outcome := do
  closeImplied impliedNames
  popUntil (·.isHtmlIn ["td", "th"])
  clearToMarker
  again .inRow

/- Inside a cell. -/
def inCell (token : Token) : Build Outcome := do
  match token with
  | .startTag t =>
      if partNames.contains t.name then
        if ← inScope tableScope (·.isHtmlIn ["td", "th"]) then leaveCell
        else return .done
      else return .rules .inBody
  | .endTag name =>
      if name == "td" || name == "th" then
        if ← closeInScope tableScope name impliedNames then
          clearToMarker
          setMode .inRow
        return .done
      else if ["body", "caption", "col", "colgroup", "html"].contains name
      then return .done
      else if ["table", "tbody", "tfoot", "thead", "tr"].contains name then
        if ← inScopeNamed tableScope name then leaveCell
        else return .done
      else return .rules .inBody
  | _ => return .rules .inBody

end Rules

end Markup

end Gleaner
