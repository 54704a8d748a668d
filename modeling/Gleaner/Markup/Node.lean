/-
  Trees of parsed markup.

  Key definitions include:
    * `Markup.Space`
    * `Markup.AttributeSpace`
    * `Markup.Attribute`
    * `Markup.Tag`
    * `Markup.Node`
    * `Markup.Document`
    * `Markup.Tag.attribute?`
    * `Markup.Node.textContent`
    * the instance `DecidableEq Markup.Node`
-/

namespace Gleaner

namespace Markup

------------------------------------------------------------
-- Names
------------------------------------------------------------

/- The language that an element belongs to. -/
inductive Space
  | html
  | svg
  | mathml
deriving DecidableEq, Repr, Inhabited

/- The language that an attribute belongs to, mostly none. -/
inductive AttributeSpace
  | plain
  | xlink
  | xml
  | xmlns
deriving DecidableEq, Repr

/- A named value of an element. -/
structure Attribute where
  space : AttributeSpace
  name : String
  value : String
deriving DecidableEq, Repr

/- What an element is, apart from what it holds. -/
structure Tag where
  space : Space
  name : String
  attributes : List Attribute
deriving DecidableEq, Repr, Inhabited

namespace Tag

/- The tag belongs to the main language and has a name. -/
def isHtml (t : Tag) (name : String) : Bool :=
  t.space == .html && t.name == name

/- The tag belongs to the main language and has one of some names. -/
def isHtmlIn (t : Tag) (names : List String) : Bool :=
  t.space == .html && names.contains t.name

/- The value of the plain attribute with a name. -/
def attribute? (t : Tag) (name : String) : Option String :=
  (t.attributes.find? fun a =>
    a.space == .plain && a.name == name).map (·.value)

end Tag

------------------------------------------------------------
-- Trees
------------------------------------------------------------

/- A piece of text, a comment, or an element with its children. -/
inductive Node
  | text (s : String)
  | comment (s : String)
  | element (tag : Tag) (children : List Node)
deriving Repr, Inhabited

namespace Node

mutual

/- The text below a node in document order, comments left out. -/
def textContent : Node → List Char
  | .text s => s.toList
  | .comment _ => []
  | .element _ children => textContentAll children

/- The text of some nodes. -/
def textContentAll : List Node → List Char
  | [] => []
  | node :: rest => textContent node ++ textContentAll rest

end

mutual

/- Whether two nodes are the same. -/
def decEq : (a b : Node) → Decidable (a = b)
  | .text s, .text t => decidable_of_iff (s = t) (by simp)
  | .comment s, .comment t => decidable_of_iff (s = t) (by simp)
  | .element s as, .element t bs =>
      match decEqAll as bs with
      | isTrue h => decidable_of_iff (s = t) (by simp [h])
      | isFalse h => isFalse (by simp [h])
  | .text _, .comment _ => isFalse nofun
  | .text _, .element _ _ => isFalse nofun
  | .comment _, .text _ => isFalse nofun
  | .comment _, .element _ _ => isFalse nofun
  | .element _ _, .text _ => isFalse nofun
  | .element _ _, .comment _ => isFalse nofun

/- Whether some nodes are the same as others, one by one. -/
def decEqAll : (as bs : List Node) → Decidable (as = bs)
  | [], [] => isTrue rfl
  | [], _ :: _ => isFalse nofun
  | _ :: _, [] => isFalse nofun
  | a :: as, b :: bs =>
      match decEq a b, decEqAll as bs with
      | isTrue h, isTrue hRest => isTrue (by rw [h, hRest])
      | isFalse h, _ => isFalse (by simp [h])
      | _, isFalse h => isFalse (by simp [h])

end

instance : DecidableEq Node := decEq

/- The tag of an element. -/
def tag? : Node → Option Tag
  | .element tag _ => some tag
  | _ => none

end Node

/-
  A parsed document: its outermost element, and whether it was
  parsed as a whole page or as a fragment of one.
-/
structure Document where
  whole : Bool
  tag : Tag
  children : List Node
deriving DecidableEq, Repr

end Markup

end Gleaner
