import Gleaner.Json.Print
import Gleaner.Markup.Media
import Gleaner.Tree.Cursor

/-
  JSON values as documents: a label is the name of a field, or
  the number of an item counted from zero.

  Key definitions include:
    * `Json.Step`
    * `Json.Place`
    * `Json.Place.root`
    * the instance `Cursor Json.Place`
-/

namespace Gleaner

namespace Json

------------------------------------------------------------
-- Places
------------------------------------------------------------

/- A step from a value to a value inside it. -/
inductive Step
  | field (name : String)
  | item (i : Nat)
deriving DecidableEq, Repr

/- A value and the steps that lead to it, the last one first. -/
structure Place where
  trail : List Step
  value : Json
deriving Repr

namespace Place

/- The place of a whole value. -/
def root (v : Json) : Place :=
  ⟨[], v⟩

/- The value that a label leads to. -/
def below (p : Place) (label : String) : List Place :=
  match p.value with
  | .object fields =>
      ((lookup label fields).map fun v =>
        ⟨.field label :: p.trail, v⟩).toList
  | .array items =>
      match Text.readNat? Text.maxWord label.toList with
      | some i =>
          ((items[i]?).map fun v => ⟨.item i :: p.trail, v⟩).toList
      | none => []
  | _ => []

/- The items of an array; any other value is its only item. -/
def items (p : Place) : List Place :=
  match p.value with
  | .array items =>
      items.zipIdx.map fun (v, i) => ⟨.item i :: p.trail, v⟩
  | _ => [p]

/- A text as it is, nothing for `null`, else the compact text. -/
def text (p : Place) : String :=
  match p.value with
  | .null => ""
  | .text s => s
  | v => v.compact

/- The value holds nothing, or is a text of white space only. -/
def isEmpty (p : Place) : Bool :=
  match p.value with
  | .null => true
  | .text s => (Text.strip s).isEmpty
  | .array items => items.isEmpty
  | .object fields => fields.isEmpty
  | .bool _ | .number _ => false

/- The images of a text that is markup, or else the text itself. -/
def coverMedia (p : Place) : List String :=
  match p.value with
  | .text s =>
      if Markup.looksLikeMarkup s then
        Markup.coverMedia (Markup.parseFragment s).element
      else if (Text.strip s).isEmpty then []
      else [Text.strip s]
  | _ => []

/- The media of a text that is markup. -/
def inlineMedia (p : Place) : List String :=
  match p.value with
  | .text s => Markup.mediaIn s
  | _ => []

end Place

end Json

instance : Cursor Json.Place where
  select p label := .ok (p.below label)
  items := Json.Place.items
  text := Json.Place.text
  rendered p := Markup.renderedText p.text
  markup := Json.Place.text
  isEmpty := Json.Place.isEmpty
  sameNode a b := a.trail == b.trail
  coverMedia := Json.Place.coverMedia
  inlineMedia := Json.Place.inlineMedia

end Gleaner
