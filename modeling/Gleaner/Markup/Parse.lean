import Gleaner.Markup.Doctype
import Gleaner.Markup.Rules.Foreign

/-
  Reading markup as a tree, the way it is shown.  Every text is
  read; what is missing is added and what is misplaced is moved.

  Key definitions include:
    * `Markup.rulesOf`
    * `Markup.consume`
    * `Markup.run`
    * `Markup.parseDocument`
    * `Markup.parseFragment`
-/

namespace Gleaner

namespace Markup

------------------------------------------------------------
-- One Token
------------------------------------------------------------

/- The rules of a mode. -/
def rulesOf : Mode → Token → Build Outcome
  | .initial => Rules.initial
  | .beforeHtml => Rules.beforeHtml
  | .beforeHead => Rules.beforeHead
  | .inHead => Rules.inHead
  | .afterHead => Rules.afterHead
  | .inBody => Rules.inBody
  | .text => Rules.text
  | .inTable => Rules.inTable
  | .inTableText => Rules.inTableText
  | .inCaption => Rules.inCaption
  | .inColumnGroup => Rules.inColumnGroup
  | .inTableBody => Rules.inTableBody
  | .inRow => Rules.inRow
  | .inCell => Rules.inCell
  | .inSelect => Rules.inSelect
  | .inSelectInTable => Rules.inSelectInTable
  | .inTemplate => Rules.inTemplate
  | .afterBody => Rules.afterBody
  | .inFrameset => Rules.inFrameset
  | .afterFrameset => Rules.afterFrameset
  | .afterAfterBody => Rules.afterAfterBody
  | .afterAfterFrameset => Rules.afterAfterFrameset

/- A token belongs outside the table that is open. -/
def setFostering (on : Bool) : Build Unit :=
  modify fun b => { b with fostering := on }

/-
  Follow an outcome through the rules that it names.  The result
  tells whether the token is read again.  No chain of rules is
  longer than six.
-/
def follow (token : Token) : Nat → Outcome → Build Bool
  | 0, _ => return false
  | _, .done => return false
  | _, .again => return true
  | left + 1, .rules m => do
      follow token left (← rulesOf m token)
  | left + 1, .fostered => do
      setFostering true
      let again ← follow token left (← Rules.inBody token)
      setFostering false
      return again

/- Apply the rules once. -/
def consumeOnce (token : Token) : Build Bool := do
  let outcome ←
    if ← Rules.isForeign token then Rules.foreign token
    else rulesOf (← get).mode token
  follow token 6 outcome

/- Read a token as often as the rules ask for, within a bound. -/
def consumeWithin (token : Token) : Nat → Build Unit
  | 0 => pure ()
  | left + 1 => do
      if ← consumeOnce token then consumeWithin token left

/-
  Read a token.  Every repetition but a few closes an element or
  a template.
-/
def consume (token : Token) : Build Unit := do
  let b ← get
  consumeWithin token (2 * (b.openIds.length + b.templateModes.length) + 32)

/- A line feed right behind some start tags is left out. -/
def skipFirst (skip : Bool) : Token → Option Token
  | .blank ('\n' :: cs) =>
      if skip then
        if cs.isEmpty then none else some (.blank cs)
      else some (.blank ('\n' :: cs))
  | token => some token

/- Read a token and note the document type. -/
def receive (token : Token) : Build Unit := do
  let skip := (← get).skipNewline
  modify fun b => { b with skipNewline := false }
  match token with
  | .doctype d =>
      modify fun b =>
        if b.mode == .initial then
          { b with mode := .beforeHtml, oldLayout := d.isOld }
        else b
  | _ =>
      match skipFirst skip token with
      | some token => consume token
      | none => pure ()

------------------------------------------------------------
-- Whole Texts
------------------------------------------------------------

/- Read some tokens. -/
def receiveAll : List Token → Build Unit
  | [] => pure ()
  | token :: rest => do
      receive token
      receiveAll rest

/- Raw sections are allowed inside foreign content. -/
def allowsSections : Build Bool := do
  let b ← get
  if b.openIds.isEmpty then return false
  else return (← Build.adjustedTag).space != .html

/- Read a text.  Every round uses up at least one character. -/
def runWithin : Nat → List Char → Build Unit
  | 0, _ => receive .eof
  | _, [] => receive .eof
  | left + 1, cs => do
      let mode := (← get).textMode
      let (tokens, rest) := next mode (← allowsSections) cs
      if mode != .plain then
        modify fun b => { b with textMode := .data }
      -- text does not end the mode, and its end tag does
      match mode, tokens with
      | .data, _ => pure ()
      | _, .endTag _ :: _ => pure ()
      | _, [] => pure ()
      | _, _ => modify fun b => { b with textMode := mode }
      receiveAll tokens
      runWithin left rest

/- A text without the mark that may start it. -/
def dropMark : List Char → List Char
  | '\uFEFF' :: rest => rest
  | cs => cs

/- Read a text from the state given. -/
def run (b : Builder) (s : String) : Builder :=
  let cs := normalizeLines (dropMark s.toList)
  ((runWithin (cs.length + 1) cs).run b).2

/- The state in front of a page. -/
def Builder.empty : Builder :=
  { arena := .empty
    mode := .initial
    returnMode := .initial
    templateModes := []
    openIds := []
    formatting := []
    head := none
    form := none
    framesetOk := true
    skipNewline := false
    fostering := false
    oldLayout := false
    pending := []
    fragment := false
    textMode := .data }

/- The state in front of a fragment, which stands in a body. -/
def Builder.inFragment : Builder :=
  ((do
      Build.createRoot []
      Build.setMode .inBody : Build Unit).run
    { Builder.empty with fragment := true }).2

/- The document that construction led to. -/
def Builder.document (b : Builder) : Document :=
  let a := b.arena
  let root := (a.cell 0).children.find? fun id =>
    match (a.cell id).content with
    | .element _ => true
    | _ => false
  match root with
  | some id => ⟨!b.fragment, a.tagOf id, a.nodesBelow id⟩
  | none => ⟨!b.fragment, ⟨.html, "html", []⟩, []⟩

/- The document that a page describes. -/
def parseDocument (s : String) : Document :=
  (run .empty s).document

/- The document that a piece of a page describes. -/
def parseFragment (s : String) : Document :=
  (run .inFragment s).document

end Markup

end Gleaner
