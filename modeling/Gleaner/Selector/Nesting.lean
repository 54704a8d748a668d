/-
  Brackets and quotes of a selector expression: a reader that
  knows which brackets and which quote are open, and cuts at
  the top level.

  Key definitions include:
    * `Nesting`
    * `Nesting.step`
    * `Nesting.run`
    * `Selector.isBalanced`
    * `Selector.splitTop`
-/

namespace Gleaner

------------------------------------------------------------
-- Open Brackets and Quotes
------------------------------------------------------------

/-
  What is open: the quote character that ends the current
  quoted text, and the closing brackets that are due, the
  innermost first.
-/
structure Nesting where
  quote : Option Char
  due : List Char
deriving DecidableEq, Repr

namespace Nesting

/- Nothing is open. -/
def closed : Nesting :=
  ⟨none, []⟩

/- The closing bracket that belongs to an opening one. -/
def closerOf? : Char → Option Char
  | '{' => some '}'
  | '(' => some ')'
  | '[' => some ']'
  | _ => none

/- A quote character. -/
def isQuote (c : Char) : Bool :=
  c == '"' || c == '\''

/- A closing bracket. -/
def isCloser (c : Char) : Bool :=
  c == '}' || c == ')' || c == ']'

/-
  Read one character.  Inside quotes only the same quote has a
  meaning; a closing bracket has to be the one that is due.
-/
def step (n : Nesting) (c : Char) : Option Nesting :=
  match n.quote with
  | some q => some (if c == q then { n with quote := none } else n)
  | none =>
      if isQuote c then some { n with quote := some c }
      else
        match closerOf? c with
        | some closer => some { n with due := closer :: n.due }
        | none =>
            if isCloser c then
              match n.due with
              | d :: due =>
                  if d == c then some { n with due := due } else none
              | [] => none
            else some n

/- Read a text. -/
def run (n : Nesting) : List Char → Option Nesting
  | [] => some n
  | c :: rest =>
      match n.step c with
      | some n => run n rest
      | none => none

end Nesting

------------------------------------------------------------
-- Cutting at the Top Level
------------------------------------------------------------

namespace Selector

/- Every bracket and every quote of the text is closed. -/
def isBalanced (cs : List Char) : Bool :=
  Nesting.closed.run cs == some Nesting.closed

/- Put a character in front of the first piece. -/
def addToFirst (c : Char) : List (List Char) → List (List Char)
  | [] => [[c]]
  | piece :: pieces => (c :: piece) :: pieces

/-
  Cut a text at the separators outside brackets and quotes,
  where `n` is open at its start.
-/
def splitFrom (sep : Char) (n : Nesting) :
    List Char → Option (List (List Char))
  | [] => if n = .closed then some [[]] else none
  | c :: rest =>
      if n = .closed ∧ c = sep then
        (splitFrom sep n rest).map ([] :: ·)
      else
        match n.step c with
        | some n => (splitFrom sep n rest).map (addToFirst c)
        | none => none

/-
  The pieces of a text between the separators outside brackets
  and quotes, or `none` for a text that is not balanced.
-/
def splitTop (sep : Char) (cs : List Char) :
    Option (List (List Char)) :=
  splitFrom sep .closed cs

end Selector

end Gleaner
