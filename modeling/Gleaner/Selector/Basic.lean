import Gleaner.Text.Quoted

/-
  Selector expressions: labels that cascade into one another,
  levels that repeat, and a tail that picks the values.

  Key definitions include:
    * `Path`
    * `StylePair`
    * `Level`
    * `Tail`
    * `Selector`
    * `Selector.isList`
    * `Selector.Fault`
    * `Selector.Error`
    * `Selector.Error.message`
-/

namespace Gleaner

------------------------------------------------------------
-- Expressions
------------------------------------------------------------

/- Labels that are walked one after another. -/
abbrev Path := List String

/-
  Style labels are found under `key`, and the matches of
  `value` take them in turn.
-/
structure StylePair where
  key : Path
  value : Path
deriving DecidableEq, Repr

/-
  One level of repetition.  A mapping level numbers the
  variants of a product.
-/
structure Level where
  mapping : Bool
  scope : Path
  style : Option StylePair
deriving DecidableEq, Repr

/-
  What is picked below the last level: the nodes of a path, or
  the numbers that several paths lead to from there.
-/
structure Tail where
  path : Path
  multi : Option (List Path)
deriving DecidableEq, Repr

/- A selector expression and the text that it was read from. -/
structure Selector where
  source : String
  levels : List Level
  tail : Tail
deriving DecidableEq, Repr

namespace Selector

/- The expression repeats. -/
def isList (s : Selector) : Bool :=
  !s.levels.isEmpty

------------------------------------------------------------
-- Errors
------------------------------------------------------------

/- The ways in which a text fails to be an expression. -/
inductive Fault
  | empty
  | emptySegment
  | unbalanced
  | styleWithoutSeparator
  | misplacedStyle
  | misplacedMultiValue
deriving DecidableEq, Repr

/- A text that is no expression, and what is wrong with it. -/
structure Error where
  fault : Fault
  source : String
deriving DecidableEq, Repr

/- The wording of an error, with the whole text in quotes. -/
def Error.message (e : Error) : String :=
  let source := Quoted.encode e.source
  match e.fault with
  | .empty => "empty selector expression"
  | .emptySegment => "empty segment in " ++ source
  | .unbalanced => "unbalanced brackets in " ++ source
  | .styleWithoutSeparator => "style pair without ':' in " ++ source
  | .misplacedStyle =>
      "style pair must be the last segment of a level in " ++ source
  | .misplacedMultiValue =>
      "multi-value segment must end the expression in " ++ source

end Selector

end Gleaner
