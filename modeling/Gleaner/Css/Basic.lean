/-
  Selectors of style sheets.

  Key definitions include:
    * `Css.Combinator`
    * `Css.Operator`
    * `Css.CaseRule`
    * `Css.AttributeTest`
    * `Css.Nth`
    * `Css.Simple`
    * `Css.Chain`
-/

namespace Gleaner

namespace Css

------------------------------------------------------------
-- Parts
------------------------------------------------------------

/- How the elements of two neighbours in a chain are related. -/
inductive Combinator
  | descendant
  | child
  | next
  | later
deriving DecidableEq, Repr

/- How the value of an attribute is compared. -/
inductive Operator
  | equal
  | includes
  | dash
  | starts
  | ends
  | contains
deriving DecidableEq, Repr

/-
  Whether letters in both cases are the same: no, yes, or yes on
  elements of the main language.
-/
inductive CaseRule
  | exact
  | ignored
  | ignoredInHtml
deriving DecidableEq, Repr

/- A comparison with the value of an attribute. -/
structure AttributeTest where
  operator : Operator
  value : String
  caseRule : CaseRule
deriving DecidableEq, Repr

/- Which siblings are counted, and from which end. -/
structure Nth where
  sameType : Bool
  fromEnd : Bool
  step : Int
  offset : Int
deriving DecidableEq, Repr

------------------------------------------------------------
-- Selectors
------------------------------------------------------------

mutual

/- A condition on one element. -/
inductive Simple
  | any
  | unnamed
  | name (n : String)
  | id (n : String)
  | class (n : String)
  | attribute (anySpace : Bool) (n : String) (test : Option AttributeTest)
  | nth (n : Nth)
  | only (sameType : Bool)
  | root
  | empty
  | scope
  | not (chains : List Chain)

/-
  Conditions on an element, and on elements that are related to
  it, from the left to the right.
-/
inductive Chain
  | single (conditions : List Simple)
  | step (left : Chain) (c : Combinator) (conditions : List Simple)

end

end Css

end Gleaner
