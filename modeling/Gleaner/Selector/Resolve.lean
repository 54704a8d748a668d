import Gleaner.Decimal.Scan
import Gleaner.Selector.Position
import Gleaner.Text.Blank
import Gleaner.Tree.Cursor

/-
  Evaluating selector expressions.  A label that matches
  nothing and a label that cannot be read are both a miss, and
  never an error.

  Key definitions include:
    * `Hit`
    * `Match`
    * `Cursor.narrow`
    * `Cursor.resolvePath`
    * `Cursor.styleLabels`
    * `Selector.pickTail`
    * `Selector.walk`
    * `Selector.resolve`
-/

namespace Gleaner

------------------------------------------------------------
-- Matches
------------------------------------------------------------

/- A node, or the numbers found below one. -/
inductive Hit (N : Type)
  | node (n : N)
  | values (vs : List String)

/- What an expression found, and where. -/
structure Match (N : Type) where
  hit : Hit N
  position : Position

namespace Match

variable {N : Type}

/- The text of a match; numbers are joined by commas. -/
def text [Cursor N] (m : Match N) : String :=
  match m.hit with
  | .node n => Cursor.text n
  | .values vs => String.intercalate "," vs

/- The node of a match. -/
def node? (m : Match N) : Option N :=
  match m.hit with
  | .node n => some n
  | .values _ => none

end Match

------------------------------------------------------------
-- Paths
------------------------------------------------------------

namespace Cursor

variable {N : Type}
variable [Cursor N]

/- One step of a path; an unreadable label is a miss. -/
def narrow (nodes : List N) (label : String) : List N :=
  match selectAll nodes label with
  | .ok found => found
  | .error _ => []

/- The nodes that a path leads to from some nodes. -/
def resolvePath (nodes : List N) (path : Path) : List N :=
  path.foldl narrow (nodes.filter (!isEmpty ·))

/- The style labels found below some nodes, each of them once. -/
def styleLabels (containers : List N) (key : Path) : List String :=
  let texts :=
    (expand (resolvePath containers key)).map (Text.strip ∘ text)
  (texts.filter (!·.isEmpty)).eraseDups

end Cursor

------------------------------------------------------------
-- Expressions
------------------------------------------------------------

namespace Selector

variable {N : Type}
variable [Cursor N]

open Cursor

/-
  What the tail picks below a node.  Alternatives yield the
  numbers that a reader sees, and no match without one.
-/
def pickTail (tail : Tail) (position : Position) (node : N) :
    List (Match N) :=
  let nodes := resolvePath [node] tail.path
  match tail.multi with
  | none => nodes.map fun n => ⟨.node n, position⟩
  | some alternatives =>
      nodes.filterMap fun n =>
        let found := alternatives.flatMap (resolvePath [n])
        let values := found.flatMap (Decimal.values ∘ rendered)
        if values.isEmpty then none
        else some ⟨.values values, position⟩

/- The style labels and the repeated nodes of a level. -/
def spread (level : Level) (node : N) : List String × List N :=
  let containers := resolvePath [node] level.scope
  match level.style with
  | some style =>
      (styleLabels containers style.key,
        expand (resolvePath containers style.value))
  | none => ([], expand containers)

/-
  The position of each repeated node of a level.  With style
  labels, the slot is the round in which its label was taken.
-/
def place
    (level : Level)
    (labels : List String)
    (position : Position)
    (count : Nat) : List Position :=
  match labels with
  | [] =>
      (List.range count).map (position.enter level.mapping none)
  | _ :: _ =>
      (zipStyles labels count).map fun (label, round) =>
        position.enter level.mapping (some label) round

/- Visit the levels from a node, then pick the tail. -/
def walk (tail : Tail) :
    List Level → Position → N → List (Match N)
  | [], position, node => pickTail tail position node
  | level :: rest, position, node =>
      let (labels, nodes) := spread level node
      let positions := place level labels position nodes.length
      (nodes.zip positions).flatMap fun (n, p) =>
        walk tail rest p n

/- Everything that an expression finds below a root. -/
def resolve (root : N) (s : Selector) : List (Match N) :=
  walk s.tail s.levels .outside root

end Selector

end Gleaner
