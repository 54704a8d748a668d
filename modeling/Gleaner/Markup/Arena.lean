import Gleaner.Markup.Node

/-
  A tree under construction: numbered cells that know their
  parent and their children, so that parts can be moved.

  Key definitions include:
    * `Markup.Content`
    * `Markup.Cell`
    * `Markup.Arena`
    * `Markup.Arena.create`
    * `Markup.Arena.append`
    * `Markup.Arena.insertBefore`
    * `Markup.Arena.detach`
    * `Markup.Arena.moveChildren`
    * `Markup.Arena.nodesBelow`
-/

namespace Gleaner

namespace Markup

------------------------------------------------------------
-- Cells
------------------------------------------------------------

/- What a cell holds. -/
inductive Content
  | document
  | element (tag : Tag)
  | text (s : String)
  | comment (s : String)
deriving Repr, Inhabited

/- A node of a tree under construction. -/
structure Cell where
  content : Content
  parent : Option Nat
  children : List Nat
deriving Repr, Inhabited

/- All cells; the first one is the document. -/
structure Arena where
  cells : Array Cell

namespace Arena

/- The document alone. -/
def empty : Arena :=
  ⟨#[⟨.document, none, []⟩]⟩

/- A cell; one that does not exist is like an empty document. -/
def cell (a : Arena) (id : Nat) : Cell :=
  a.cells.getD id ⟨.document, none, []⟩

/- Change a cell. -/
def update (a : Arena) (id : Nat) (f : Cell → Cell) : Arena :=
  ⟨a.cells.modify id f⟩

/- A new cell that has no place in the tree yet. -/
def create (a : Arena) (content : Content) : Arena × Nat :=
  (⟨a.cells.push ⟨content, none, []⟩⟩, a.cells.size)

/- The tag of an element. -/
def tagOf (a : Arena) (id : Nat) : Tag :=
  match (a.cell id).content with
  | .element tag => tag
  | _ => ⟨.html, "", []⟩

------------------------------------------------------------
-- Moving Cells
------------------------------------------------------------

/- Take a cell out of the children of its parent. -/
def detach (a : Arena) (id : Nat) : Arena :=
  match (a.cell id).parent with
  | none => a
  | some parent =>
      (a.update parent fun c =>
        { c with children := c.children.filter (· != id) }).update id
          fun c => { c with parent := none }

/- Make a cell the last child of another. -/
def append (a : Arena) (parent id : Nat) : Arena :=
  ((a.detach id).update parent fun c =>
    { c with children := c.children ++ [id] }).update id
      fun c => { c with parent := some parent }

/- Put `new` in front of `old` in a list. -/
def putBefore (old new : Nat) : List Nat → List Nat
  | [] => [new]
  | x :: rest =>
      if x == old then new :: x :: rest else x :: putBefore old new rest

/- Make a cell the sibling in front of another. -/
def insertBefore (a : Arena) (sibling id : Nat) : Arena :=
  let a := a.detach id
  match (a.cell sibling).parent with
  | none => a
  | some parent =>
      (a.update parent fun c =>
        { c with children := putBefore sibling id c.children }).update id
          fun c => { c with parent := some parent }

/- Append all children of one cell to another. -/
def moveChildren (a : Arena) (source target : Nat) : Arena :=
  (a.cell source).children.foldl (fun a id => a.append target id) a

------------------------------------------------------------
-- Text
------------------------------------------------------------

/- Extend a cell of text; `false` means that it holds no text. -/
def extend (a : Arena) (id : Nat) (s : String) : Arena × Bool :=
  match (a.cell id).content with
  | .text _ =>
      (a.update id fun c =>
        match c.content with
        | .text t => { c with content := .text (t ++ s) }
        | _ => c, true)
  | _ => (a, false)

/- Append text to a cell, joined to the text that it ends with. -/
def appendText (a : Arena) (parent : Nat) (s : String) : Arena :=
  let fresh (a : Arena) :=
    let (a, id) := a.create (.text s)
    a.append parent id
  match (a.cell parent).children.getLast? with
  | some last =>
      match a.extend last s with
      | (a, true) => a
      | (a, false) => fresh a
  | none => fresh a

/- The element of a list in front of another one. -/
def before? (old : Nat) : List Nat → Option Nat
  | x :: y :: rest => if y == old then some x else before? old (y :: rest)
  | _ => none

/- Put text in front of a cell, joined to the text before it. -/
def insertTextBefore (a : Arena) (sibling : Nat) (s : String) : Arena :=
  let fresh (a : Arena) :=
    let (a, id) := a.create (.text s)
    a.insertBefore sibling id
  match (a.cell sibling).parent with
  | none => a
  | some parent =>
      match before? sibling (a.cell parent).children with
      | some last =>
          match a.extend last s with
          | (a, true) => a
          | (a, false) => fresh a
      | none => fresh a

------------------------------------------------------------
-- The Finished Tree
------------------------------------------------------------

/- The nodes of some cells, down to a depth. -/
def nodesWithin (a : Arena) : Nat → List Nat → List Node
  | 0, _ => []
  | left + 1, ids =>
      ids.filterMap fun id =>
        let c := a.cell id
        match c.content with
        | .document => none
        | .text s => some (.text s)
        | .comment s => some (.comment s)
        | .element tag => some (.element tag (nodesWithin a left c.children))

/- The nodes below a cell.  No path is longer than all cells. -/
def nodesBelow (a : Arena) (id : Nat) : List Node :=
  a.nodesWithin a.cells.size (a.cell id).children

end Arena

end Markup

end Gleaner
