import Gleaner.Markup.Arena
import Gleaner.Markup.Token

/-
  The state of tree construction, and the operations on the
  open elements and the active formatting elements.

  Key definitions include:
    * `Markup.Mode`
    * `Markup.Formatting`
    * `Markup.Builder`
    * `Markup.Build`
    * `Markup.Build.insert`
    * `Markup.Build.adopt`
    * `Markup.Build.resetMode`
-/

namespace Gleaner

namespace Markup

------------------------------------------------------------
-- The State
------------------------------------------------------------

/- The part of a document that is being read. -/
inductive Mode
  | initial
  | beforeHtml
  | beforeHead
  | inHead
  | afterHead
  | inBody
  | text
  | inTable
  | inTableText
  | inCaption
  | inColumnGroup
  | inTableBody
  | inRow
  | inCell
  | inSelect
  | inSelectInTable
  | inTemplate
  | afterBody
  | inFrameset
  | afterFrameset
  | afterAfterBody
  | afterAfterFrameset
deriving DecidableEq, Repr, Inhabited

/-
  An entry of the list of active formatting elements: a marker,
  or an element with the start tag that it came from.
-/
inductive Formatting
  | marker
  | element (id : Nat) (tag : StartTag)
deriving DecidableEq, Repr

/-
  The state of tree construction.  The open elements and the
  formatting elements stand with the latest one first.
-/
structure Builder where
  arena : Arena
  mode : Mode
  returnMode : Mode
  templateModes : List Mode
  openIds : List Nat
  formatting : List Formatting
  head : Option Nat
  form : Option Nat
  framesetOk : Bool
  skipNewline : Bool
  fostering : Bool
  oldLayout : Bool
  pending : List Token
  fragment : Bool
  textMode : TextMode

/- Operations on the state. -/
abbrev Build := StateM Builder

namespace Build

------------------------------------------------------------
-- Open Elements
------------------------------------------------------------

/- The tag of an element. -/
def tagOf (id : Nat) : Build Tag := do
  return (← get).arena.tagOf id

/- The latest open element. -/
def current : Build Nat := do
  return (← get).openIds.headD 0

/- The tag of the latest open element. -/
def currentTag : Build Tag := do
  tagOf (← current)

/- The latest open element is one of some names. -/
def currentIn (names : List String) : Build Bool := do
  return (← currentTag).isHtmlIn names

/-
  The tag that decides about foreign content: the context of a
  fragment stands for its outermost element.
-/
def adjustedTag : Build Tag := do
  let b ← get
  if b.fragment && b.openIds.length == 1 then return ⟨.html, "body", []⟩
  else currentTag

/- Close the latest open element. -/
def pop : Build Unit :=
  modify fun b => { b with openIds := b.openIds.tail }

/- Open an element. -/
def push (id : Nat) : Build Unit :=
  modify fun b => { b with openIds := id :: b.openIds }

/- Drop elements from the front up to one that is kept. -/
def dropUntil (stop : Tag → Bool) (a : Arena) : List Nat → List Nat
  | [] => []
  | id :: rest =>
      if stop (a.tagOf id) then id :: rest else dropUntil stop a rest

/- Close open elements up to one that is kept. -/
def popUntilCurrent (names : List String) : Build Unit :=
  modify fun b =>
    { b with
      openIds := dropUntil (·.isHtmlIn names) b.arena b.openIds }

/- Close open elements up to one that is closed too. -/
def popUntil (stop : Tag → Bool) : Build Unit :=
  modify fun b =>
    { b with openIds := (dropUntil stop b.arena b.openIds).drop 1 }

/- Close open elements up to one of a name, and that one. -/
def popUntilNamed (name : String) : Build Unit :=
  popUntil (·.isHtml name)

/- Close one open element wherever it stands. -/
def removeOpen (id : Nat) : Build Unit :=
  modify fun b => { b with openIds := b.openIds.filter (· != id) }

/- Some open element has a name. -/
def hasOpen (name : String) : Build Bool := do
  let b ← get
  return b.openIds.any fun id => (b.arena.tagOf id).isHtml name

------------------------------------------------------------
-- Scopes
------------------------------------------------------------

/- The names that end every scope but the ones of tables. -/
def scopeNames : List String :=
  ["applet", "caption", "html", "table", "td", "th", "marquee",
    "object", "template"]

/- An element of mathematics that holds text. -/
def holdsMathText (t : Tag) : Bool :=
  t.space == .mathml && ["mi", "mo", "mn", "ms", "mtext"].contains t.name

/- An element of graphics that holds markup. -/
def holdsMarkup (t : Tag) : Bool :=
  t.space == .svg && ["foreignObject", "desc", "title"].contains t.name

/- The elements that end the usual scope. -/
def defaultScope (t : Tag) : Bool :=
  t.isHtmlIn scopeNames || holdsMathText t || holdsMarkup t

/- The elements that end the scope of items of lists. -/
def listScope (t : Tag) : Bool :=
  defaultScope t || t.isHtmlIn ["ol", "ul"]

/- The elements that end the scope of buttons. -/
def buttonScope (t : Tag) : Bool :=
  defaultScope t || t.isHtml "button"

/- The elements that end the scope of tables. -/
def tableScope (t : Tag) : Bool :=
  t.isHtmlIn ["html", "table", "template"]

/- The elements that end the scope of selections. -/
def selectScope (t : Tag) : Bool :=
  !t.isHtmlIn ["optgroup", "option"]

/- Some element is found before the end of a scope. -/
def findInScope (scope : Tag → Bool) (wanted : Nat → Tag → Bool)
    (a : Arena) : List Nat → Bool
  | [] => false
  | id :: rest =>
      let tag := a.tagOf id
      if wanted id tag then true
      else if scope tag then false
      else findInScope scope wanted a rest

/- Some element with a tag of a kind is in scope. -/
def inScope (scope : Tag → Bool) (wanted : Tag → Bool) : Build Bool := do
  let b ← get
  return findInScope scope (fun _ t => wanted t) b.arena b.openIds

/- Some element of a name is in scope. -/
def inScopeNamed (scope : Tag → Bool) (name : String) : Build Bool :=
  inScope scope (·.isHtml name)

/- An element is in the usual scope. -/
def inScopeId (id : Nat) : Build Bool := do
  let b ← get
  return findInScope defaultScope (fun i _ => i == id) b.arena b.openIds

------------------------------------------------------------
-- Insertion
------------------------------------------------------------

/- The place where a node goes. -/
inductive Place
  | inside (parent : Nat)
  | around (table above : Nat)

/- The outermost open element. -/
def outermost : Build Nat := do
  return (← get).openIds.getLastD 0

/-
  The place next to the innermost open table, or in a template
  that is opened later.
-/
def fosterPlace (a : Arena) (outer : Nat) : List Nat → Place
  | [] => .inside outer
  | id :: rest =>
      let tag := a.tagOf id
      if tag.isHtml "template" then .inside id
      else if tag.isHtml "table" then .around id (rest.headD 0)
      else fosterPlace a outer rest

/- The names inside which nothing but parts of tables may stand. -/
def tableNames : List String :=
  ["table", "tbody", "tfoot", "thead", "tr"]

/- The place of the next node. -/
def placeFor (target? : Option Nat) : Build Place := do
  let b ← get
  let target := target?.getD (← current)
  if b.fostering && (b.arena.tagOf target).isHtmlIn tableNames then
    return fosterPlace b.arena (← outermost) b.openIds
  else
    return .inside target

/- Put a node where it belongs. -/
def insertNode (id : Nat) (target? : Option Nat) : Build Unit := do
  let place ← placeFor target?
  modify fun b =>
    let a := b.arena
    { b with
      arena :=
        match place with
        | .inside parent => a.append parent id
        | .around table above =>
            if (a.cell table).parent.isSome then a.insertBefore table id
            else a.append above id }

/- Put text where it belongs. -/
def insertText (cs : List Char) : Build Unit := do
  let place ← placeFor none
  let s := String.ofList cs
  modify fun b =>
    let a := b.arena
    { b with
      arena :=
        match place with
        | .inside parent => a.appendText parent s
        | .around table above =>
            if (a.cell table).parent.isSome then
              a.insertTextBefore table s
            else a.appendText above s }

/- A new node that has no place yet. -/
def create (content : Content) : Build Nat := do
  let b ← get
  let (arena, id) := b.arena.create content
  set { b with arena := arena }
  return id

/- Insert a comment below an element. -/
def commentBelow (parent : Nat) (s : String) : Build Unit := do
  let id ← create (.comment s)
  modify fun b => { b with arena := b.arena.append parent id }

/- Insert a comment where it belongs. -/
def insertComment (s : String) : Build Unit := do
  insertNode (← create (.comment s)) none

/- The tag of the main language that a start tag stands for. -/
def htmlTag (t : StartTag) : Tag :=
  ⟨.html, t.name, t.attributes.map fun (n, v) => ⟨.plain, n, v⟩⟩

/- Insert an element and open it if asked for. -/
def insertTag (tag : Tag) (opened : Bool) : Build Nat := do
  let id ← create (.element tag)
  insertNode id none
  if opened then push id
  return id

/- Insert the element of a start tag and open it. -/
def insert (t : StartTag) : Build Nat :=
  insertTag (htmlTag t) true

/- Insert the element of a start tag without opening it. -/
def insertClosed (t : StartTag) : Build Nat :=
  insertTag (htmlTag t) false

/- Insert and open an element that has no tag in the text. -/
def insertImplied (name : String) : Build Nat :=
  insert ⟨name, [], false⟩

/- Open the outermost element of a document. -/
def createRoot (attributes : List (String × String)) : Build Unit := do
  let id ← create (.element (htmlTag ⟨"html", attributes, false⟩))
  modify fun b => { b with arena := b.arena.append 0 id }
  push id

/- Add the attributes that an element does not have yet. -/
def addMissing (id : Nat) (attributes : List (String × String)) :
    Build Unit :=
  modify fun b =>
    { b with
      arena := b.arena.update id fun c =>
        match c.content with
        | .element tag =>
            let missing := attributes.filter fun (n, _) =>
              !tag.attributes.any fun a => a.space == .plain && a.name == n
            { c with
              content := .element
                { tag with
                  attributes := tag.attributes ++
                    missing.map fun (n, v) => ⟨.plain, n, v⟩ } }
        | _ => c }

------------------------------------------------------------
-- Implied End Tags
------------------------------------------------------------

/- The names of elements that may be closed silently. -/
def impliedNames : List String :=
  ["dd", "dt", "li", "option", "optgroup", "p", "rb", "rp", "rt", "rtc"]

/- The names of elements that the end of a template closes. -/
def thoroughNames : List String :=
  impliedNames ++
    ["caption", "colgroup", "tbody", "td", "tfoot", "th", "thead", "tr"]

/- Close the latest elements while they have one of some names. -/
def closeImplied (names : List String) : Build Unit :=
  modify fun b =>
    { b with
      openIds := dropUntil (!·.isHtmlIn names) b.arena b.openIds }

/- Close elements silently, except those of a name. -/
def closeImpliedExcept (name : String) : Build Unit :=
  closeImplied (impliedNames.filter (· != name))

/- Close a paragraph and what is open in it. -/
def closeParagraph : Build Unit := do
  closeImpliedExcept "p"
  popUntilNamed "p"

/- Close a paragraph if there is one before a button. -/
def closeParagraphInScope : Build Unit := do
  if ← inScopeNamed buttonScope "p" then closeParagraph

------------------------------------------------------------
-- Active Formatting Elements
------------------------------------------------------------

/- The entries behind the latest marker, the latest one first. -/
def sinceMarker : List Formatting → List (Nat × StartTag)
  | [] => []
  | .marker :: _ => []
  | .element id tag :: rest => (id, tag) :: sinceMarker rest

/- The entry belongs to an element. -/
def Formatting.holds (id : Nat) : Formatting → Bool
  | .marker => false
  | .element i _ => i == id

/- Put a marker behind the latest entry. -/
def pushMarker : Build Unit :=
  modify fun b => { b with formatting := .marker :: b.formatting }

/- Drop the entries back to the latest marker, and the marker. -/
def clearToMarker : Build Unit :=
  modify fun b =>
    { b with
      formatting := (b.formatting.dropWhile (· != .marker)).drop 1 }

/- Drop the entry of an element. -/
def removeFormatting (id : Nat) : Build Unit :=
  modify fun b =>
    { b with
      formatting := b.formatting.filter (!Formatting.holds id ·) }

/- Two lists of attributes hold the same. -/
def sameAttributes (a b : List (String × String)) : Bool :=
  a.length == b.length && a.all b.contains

/- Two start tags are the same up to the order of attributes. -/
def sameTag (a b : StartTag) : Bool :=
  a.name == b.name && sameAttributes a.attributes b.attributes

/-
  Insert a formatting element.  Of three equal entries behind
  the latest marker the earliest is dropped.
-/
def insertFormatting (t : StartTag) : Build Unit := do
  let equal :=
    (sinceMarker (← get).formatting).filter fun (_, tag) => sameTag t tag
  if 3 ≤ equal.length then
    match equal.getLast? with
    | some (id, _) => removeFormatting id
    | none => pure ()
  let id ← insert t
  modify fun b => { b with formatting := .element id t :: b.formatting }

/- The entry needs no reconstruction. -/
def isSettled (openIds : List Nat) : Formatting → Bool
  | .marker => true
  | .element id _ => openIds.contains id

/- Open the elements of some entries again, the last one first. -/
def reopen : List Formatting → Build (List Formatting)
  | [] => return []
  | .marker :: rest => return .marker :: (← reopen rest)
  | .element _ tag :: rest => do
      let rest ← reopen rest
      let id ← insert tag
      return .element id tag :: rest

/- Open again the latest formatting elements that were closed. -/
def reconstruct : Build Unit := do
  let b ← get
  let closed := b.formatting.takeWhile (!isSettled b.openIds ·)
  let kept := b.formatting.dropWhile (!isSettled b.openIds ·)
  let reopened ← reopen closed
  modify fun b => { b with formatting := reopened ++ kept }

------------------------------------------------------------
-- Misnested Formatting Elements
------------------------------------------------------------

/- The names of elements with a special place in documents. -/
def specialNames : List String :=
  ["address", "applet", "area", "article", "aside", "base",
    "basefont", "bgsound", "blockquote", "body", "br", "button",
    "caption", "center", "col", "colgroup", "dd", "details", "dir",
    "div", "dl", "dt", "embed", "fieldset", "figcaption", "figure",
    "footer", "form", "frame", "frameset", "h1", "h2", "h3", "h4",
    "h5", "h6", "head", "header", "hgroup", "hr", "html", "iframe",
    "img", "input", "isindex", "li", "link", "listing", "main",
    "marquee", "menu", "meta", "nav", "noembed", "noframes",
    "noscript", "object", "ol", "p", "param", "plaintext", "pre",
    "script", "section", "select", "source", "style", "summary",
    "table", "tbody", "td", "template", "textarea", "tfoot", "th",
    "thead", "title", "tr", "track", "ul", "wbr", "xmp"]

/- An element with a special place in documents. -/
def isSpecial (t : Tag) : Bool :=
  t.isHtmlIn specialNames

/- The end tag of an element that has no rules of its own. -/
def closeOrdinary (name : String) : Build Unit := do
  let b ← get
  let stop (t : Tag) := t.isHtml name || isSpecial t
  match dropUntil stop b.arena b.openIds with
  | id :: rest =>
      if (b.arena.tagOf id).isHtml name then
        -- what is implied lies above the element that is closed
        set { b with openIds := rest }
  | [] => pure ()

/- Replace an element of a list. -/
def replaceId (old new : Nat) (ids : List Nat) : List Nat :=
  ids.map fun id => if id == old then new else id

/- Replace the element of an entry. -/
def replaceEntry (old new : Nat) (tag : StartTag) :
    List Formatting → List Formatting :=
  List.map fun e =>
    if Formatting.holds old e then .element new tag else e

/- Put an entry behind the entry of an element. -/
def putAfter (id : Nat) (entry : Formatting) :
    List Formatting → List Formatting
  | [] => []
  | e :: rest =>
      if Formatting.holds id e then entry :: e :: rest
      else e :: putAfter id entry rest

/-
  Rebuild the elements between a formatting element and the
  block below it, from the inside out.  The result is the last
  node that was moved, and the copy after which the entry of
  the formatting element goes.
-/
def rebuildBetween (block : Nat) :
    Nat → List Nat → Nat → Option Nat → Build (Nat × Option Nat)
  | _, [], last, mark => return (last, mark)
  | count, node :: rest, last, mark => do
      let entry? := (← get).formatting.find? (Formatting.holds node)
      match entry? with
      | some (.element _ tag) =>
          if 3 ≤ count then do
            removeFormatting node
            removeOpen node
            rebuildBetween block (count + 1) rest last mark
          else do
            let copy ← create (.element (htmlTag tag))
            modify fun b =>
              { b with
                openIds := replaceId node copy b.openIds
                formatting := replaceEntry node copy tag b.formatting }
            let mark := if last == block then some copy else mark
            modify fun b => { b with arena := b.arena.append copy last }
            rebuildBetween block (count + 1) rest copy mark
      | _ => do
          removeOpen node
          rebuildBetween block (count + 1) rest last mark

/-
  Put the entry of the copy of a formatting element in the
  place of the old entry, or behind the one it is marked with.
-/
def placeEntry (old copy : Nat) (tag : StartTag) (mark : Option Nat) :
    Build Unit :=
  modify fun b =>
    { b with
      formatting :=
        match mark with
        | none => replaceEntry old copy tag b.formatting
        | some id =>
            (putAfter id (.element copy tag) b.formatting).filter
              (!Formatting.holds old ·) }

/- The end of one round of `adopt`. -/
inductive Round
  | again
  | finished
  | ordinary

/- One round of moving a block out of a formatting element. -/
def adoptOnce (name : String) : Build Round := do
  let b ← get
  match (sinceMarker b.formatting).find? fun (_, t) => t.name == name with
  | none => return .ordinary
  | some (element, tag) =>
      if !b.openIds.contains element then
        removeFormatting element
        return .finished
      else if !(← inScopeId element) then return .finished
      else
        let inside := b.openIds.takeWhile (· != element)
        let outside := (b.openIds.dropWhile (· != element)).drop 1
        match inside.reverse.find? fun id => isSpecial (b.arena.tagOf id) with
        | none =>
            set { b with openIds := outside }
            removeFormatting element
            return .finished
        | some block =>
            let between := (inside.dropWhile (· != block)).drop 1
            let (last, mark) ← rebuildBetween block 0 between block none
            modify fun b => { b with arena := b.arena.detach last }
            insertNode last (some (outside.headD 0))
            let copy ← create (.element (htmlTag tag))
            modify fun b =>
              { b with
                arena :=
                  (b.arena.moveChildren block copy).append block copy }
            placeEntry element copy tag mark
            removeOpen element
            modify fun b =>
              { b with
                openIds :=
                  b.openIds.takeWhile (· != block) ++ copy ::
                    b.openIds.dropWhile (· != block) }
            return .again

/- Up to some rounds; the end tag may turn out to be ordinary. -/
def adoptWithin (name : String) : Nat → Build Unit
  | 0 => pure ()
  | left + 1 => do
      match ← adoptOnce name with
      | .again => adoptWithin name left
      | .finished => pure ()
      | .ordinary => closeOrdinary name

/-
  Close a formatting element, also when blocks that it contains
  stay open: the blocks are moved out and the formatting is
  repeated inside them.  There are at most eight rounds.
-/
def adopt (name : String) : Build Unit := do
  let b ← get
  let id ← current
  let known := b.formatting.any (Formatting.holds id)
  if (b.arena.tagOf id).isHtml name && !known then pop
  else adoptWithin name 8

------------------------------------------------------------
-- The Mode After a Close
------------------------------------------------------------

/- The mode for a selection, by the elements around it. -/
def selectMode (a : Arena) : List Nat → Mode
  | [] => .inSelect
  | id :: rest =>
      let tag := a.tagOf id
      if tag.isHtml "template" then .inSelect
      else if tag.isHtml "table" then .inSelectInTable
      else selectMode a rest

/- The mode that the open elements ask for. -/
def modeFor (b : Builder) : List Nat → Mode
  | [] => .inBody
  | id :: rest =>
      let last := rest.isEmpty
      let tag :=
        if last && b.fragment then ⟨.html, "body", []⟩
        else b.arena.tagOf id
      if tag.space != .html then modeFor b rest
      else
        match tag.name with
        | "select" => selectMode b.arena rest
        | "td" | "th" => if last then modeFor b rest else .inCell
        | "tr" => .inRow
        | "tbody" | "thead" | "tfoot" => .inTableBody
        | "caption" => .inCaption
        | "colgroup" => .inColumnGroup
        | "table" => .inTable
        | "template" => b.templateModes.headD .inTemplate
        | "head" => if last then modeFor b rest else .inHead
        | "body" => .inBody
        | "frameset" => .inFrameset
        | "html" => if b.head.isNone then .beforeHead else .afterHead
        | _ => modeFor b rest

/- Set the mode by the open elements. -/
def resetMode : Build Unit :=
  modify fun b => { b with mode := modeFor b b.openIds }

/- Set the mode. -/
def setMode (m : Mode) : Build Unit :=
  modify fun b => { b with mode := m }

/- Framesets are no longer allowed. -/
def forbidFrameset : Build Unit :=
  modify fun b => { b with framesetOk := false }

/- Insert an element whose content is text of a kind. -/
def insertTextElement (t : StartTag) (mode : TextMode) : Build Unit := do
  let _ ← insert t
  modify fun b =>
    { b with returnMode := b.mode, mode := .text, textMode := mode }

end Build

end Markup

end Gleaner
