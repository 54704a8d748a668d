import Gleaner.Css.Basic
import Gleaner.Markup.Element
import Gleaner.Text.Blank
import Gleaner.Text.Cut

/-
  Which elements of a document a selector matches.

  Key definitions include:
    * `Css.AttributeTest.holds`
    * `Css.Nth.holds`
    * `Css.Simple.holds`
    * `Css.Chain.holds`
    * `Css.select`
-/

namespace Gleaner

namespace Css

open Markup

------------------------------------------------------------
-- Names and Values
------------------------------------------------------------

/- The spelling that a name has on an element. -/
def nameOn (t : Tag) (name : String) : String :=
  if t.space == .html then name.toLower else name

/- The value of the first attribute called `id`. -/
def idOf (t : Tag) : Option String :=
  (t.attributes.find? (·.name == "id")).map (·.value)

/- The words of the attributes called `class`. -/
def classesOf (t : Tag) : List (List Char) :=
  (t.attributes.filter (·.name == "class")).flatMap fun a =>
    Text.words Text.isBlank a.value.toList

/- The white space between the words of a value. -/
def isWordBreak (c : Char) : Bool :=
  c == ' ' || c == '\t' || c == '\n' || c == '\r' || c == '\x0c'

/- Whether letters in both cases are the same on an element. -/
def CaseRule.isIgnored (r : CaseRule) (t : Tag) : Bool :=
  match r with
  | .exact => false
  | .ignored => true
  | .ignoredInHtml => t.space == .html

/- A text with its letters made equal where case is ignored. -/
def fold (ignored : Bool) (s : String) : List Char :=
  if ignored then s.toLower.toList else s.toList

namespace AttributeTest

/-
  A value passes the comparison on an element.  Every value
  starts with, ends with and contains the empty text.
-/
def holds (test : AttributeTest) (t : Tag) (value : String) : Bool :=
  let ignored := test.caseRule.isIgnored t
  let wanted := fold ignored test.value
  let given := fold ignored value
  match test.operator with
  | .equal => given == wanted
  | .dash =>
      given == wanted || Text.startsWith (wanted ++ ['-']) given
  | .includes => (Text.cutAt isWordBreak given).contains wanted
  | .starts => Text.startsWith wanted given
  | .ends => Text.startsWith wanted.reverse given.reverse
  | .contains => Text.contains wanted given

end AttributeTest

/- An element has an attribute that passes the comparison, if any. -/
def hasAttribute
    (anySpace : Bool)
    (name : String)
    (test : Option AttributeTest)
    (t : Tag) : Bool :=
  t.attributes.any fun a =>
    (anySpace || a.space == .plain) && a.name == nameOn t name &&
      match test with
      | none => true
      | some test => test.holds t a.value

------------------------------------------------------------
-- Siblings
------------------------------------------------------------

/- Two elements have one name in one language. -/
def isSameType (a b : Tag) : Bool :=
  a.space == b.space && a.name == b.name

/- The number of an element among the siblings that count. -/
def indexOf (sameType fromEnd : Bool) (e : Element) : Nat :=
  let others := if fromEnd then e.laterTags else e.earlierTags
  (others.filter fun t => !sameType || isSameType t e.tag).length + 1

namespace Nth

/-
  A number is the offset and some steps.  Distances from the
  offset are numbers of 32 bits; none is farther than that.
-/
def picks (n : Nth) (index : Nat) : Bool :=
  let distance : Int := index - n.offset
  if distance < -0x80000000 || 0x7FFFFFFF < distance then false
  else if n.step == 0 then distance == 0
  else distance % n.step == 0 && 0 ≤ distance / n.step

/- An element has a number that is picked. -/
def holds (n : Nth) (e : Element) : Bool :=
  n.picks (indexOf n.sameType n.fromEnd e)

end Nth

/- An element holds nothing but comments. -/
def isHollow (e : Element) : Bool :=
  e.children.all fun
    | .comment _ => true
    | _ => false

------------------------------------------------------------
-- Selectors
------------------------------------------------------------

mutual

/- A condition holds of an element, below some scope. -/
def Simple.holds (scope : List Nat) (e : Element) : Simple → Bool
  | .any => true
  | .unnamed => false
  | .name n => e.tag.name == nameOn e.tag n
  | .id n => idOf e.tag == some n
  | .class n => (classesOf e.tag).contains n.toList
  | .attribute anySpace n test => hasAttribute anySpace n test e.tag
  | .nth n => n.holds e
  | .only sameType =>
      indexOf sameType false e == 1 && indexOf sameType true e == 1
  | .root => e.whole && e.frames.isEmpty
  | .empty => isHollow e
  | .scope => e.path == scope
  | .not chains => !anyHolds scope e chains

/- All conditions hold of an element. -/
def allHold (scope : List Nat) (e : Element) : List Simple → Bool
  | [] => true
  | s :: rest => s.holds scope e && allHold scope e rest

/- A chain matches an element and those it is related to. -/
def Chain.holds (scope : List Nat) (e : Element) : Chain → Bool
  | .single conditions => allHold scope e conditions
  | .step left c conditions =>
      allHold scope e conditions &&
        match c with
        | .descendant =>
            e.ancestors.any fun a => left.holds scope a
        | .child =>
            e.parent?.any fun a => left.holds scope a
        | .next =>
            e.earlier.head?.any fun a => left.holds scope a
        | .later =>
            e.earlier.any fun a => left.holds scope a

/- Some chain matches an element. -/
def anyHolds (scope : List Nat) (e : Element) : List Chain → Bool
  | [] => false
  | chain :: rest => chain.holds scope e || anyHolds scope e rest

end

/-
  The elements below an element that some chain matches, in
  document order.  What is around the element counts as well.
-/
def select (chains : List Chain) (e : Element) : List Element :=
  e.below.filter fun d => anyHolds e.path d chains

end Css

end Gleaner
