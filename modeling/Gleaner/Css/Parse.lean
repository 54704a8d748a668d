import Gleaner.Css.Basic
import Gleaner.Css.Token

/-
  Reading selectors of style sheets.  One unreadable part makes
  the whole selector unreadable, while brackets and quotes that
  are open at the end are closed there.

  Key definitions include:
    * `Css.Part`
    * `Css.readNth`
    * `Css.readAttribute`
    * `Css.readCompound`
    * `Css.readChain`
    * `Css.readList`
    * `Css.parse?`
-/

namespace Gleaner

namespace Css

------------------------------------------------------------
-- Parts
------------------------------------------------------------

/-
  A token, the condition in square brackets, or the condition
  that a function with its arguments stands for.
-/
inductive Part
  | token (t : Token)
  | bracket (s : Simple)
  | call (s : Simple)

/- The parts without the white space in front of them. -/
def skipSpace : List Part → List Part
  | .token .space :: rest => skipSpace rest
  | parts => parts

------------------------------------------------------------
-- Counted Siblings
------------------------------------------------------------

/- The number behind `n-` in a name such as `n-12`. -/
def readMinusDigits? (name : String) : Option Int :=
  match name.toList with
  | n :: '-' :: digits =>
      if (n == 'n' || n == 'N') && !digits.isEmpty &&
          digits.all Text.isDigit then
        some (clamp (-(Text.ofDigits 10 Text.digitValue digits : Int)))
      else none
  | _ => none

/- The step with an unsigned offset, and what follows. -/
def readUnsigned (step sign : Int) (parts : List Part) :
    Option ((Int × Int) × List Part) :=
  match skipSpace parts with
  | .token (.number false (some n)) :: rest =>
      some ((step, sign * n), rest)
  | _ => none

/- The step with the offset behind `n`, if any, and what follows. -/
def readOffset (step : Int) (parts : List Part) :
    Option ((Int × Int) × List Part) :=
  match skipSpace parts with
  | .token (.delim '+') :: rest => readUnsigned step 1 rest
  | .token (.delim '-') :: rest => readUnsigned step (-1) rest
  | .token (.number true (some n)) :: rest => some ((step, n), rest)
  | _ => some ((step, 0), parts)

/- The step and offset that start with a step and a name. -/
def readStepped (step : Int) (name : String) (rest : List Part) :
    Option ((Int × Int) × List Part) :=
  if name.toLower == "n" then readOffset step rest
  else if name.toLower == "n-" then readUnsigned step (-1) rest
  else (readMinusDigits? name).map fun n => ((step, n), rest)

/- The step and the offset of a formula, and what follows it. -/
def readFormula (parts : List Part) :
    Option ((Int × Int) × List Part) :=
  match skipSpace parts with
  | .token (.number _ (some n)) :: rest => some ((0, n), rest)
  | .token (.dimension (some step) unit) :: rest =>
      readStepped step unit rest
  | .token (.ident name) :: rest =>
      if name.toLower == "even" then some ((2, 0), rest)
      else if name.toLower == "odd" then some ((2, 1), rest)
      else
        match name.toList with
        | '-' :: cs => readStepped (-1) (String.ofList cs) rest
        | _ => readStepped 1 name rest
  | .token (.delim '+') :: .token (.ident name) :: rest =>
      readStepped 1 name rest
  | _ => none

/- The condition that a formula stands for. -/
def readNth (sameType fromEnd : Bool) (parts : List Part) :
    Option Simple :=
  match readFormula parts with
  | some ((step, offset), rest) =>
      match skipSpace rest with
      | [] => some (.nth ⟨sameType, fromEnd, step, offset⟩)
      | _ :: _ => none
  | none => none

------------------------------------------------------------
-- Attributes
------------------------------------------------------------

/- Attributes whose values have no case on elements of markup. -/
def caselessNames : List String :=
  ["accept", "accept-charset", "align", "alink", "axis", "bgcolor",
    "charset", "checked", "clear", "codetype", "color", "compact",
    "declare", "defer", "dir", "direction", "disabled", "enctype",
    "face", "frame", "hreflang", "http-equiv", "lang", "language",
    "link", "media", "method", "multiple", "nohref", "noresize",
    "noshade", "nowrap", "readonly", "rel", "rev", "rules", "scope",
    "scrolling", "selected", "shape", "target", "text", "type",
    "valign", "valuetype", "vlink"]

/- The name of an attribute, and whether its language is free. -/
def readAttributeName :
    List Part → Option ((Bool × String) × List Part)
  | .token (.ident _) :: .token (.delim '|') :: _ => none
  | .token (.ident name) :: rest => some ((false, name), rest)
  | .token (.delim '*') :: .token (.delim '|') ::
      .token (.ident name) :: rest => some ((true, name), rest)
  | .token (.delim '|') :: .token (.ident name) :: rest =>
      some ((false, name), rest)
  | _ => none

/- The comparison that a token stands for. -/
def readOperator? : Token → Option Operator
  | .delim '=' => some .equal
  | .operator '~' => some .includes
  | .operator '|' => some .dash
  | .operator '^' => some .starts
  | .operator '$' => some .ends
  | .operator '*' => some .contains
  | _ => none

/- The case rule behind the value of an attribute. -/
def readCaseRule (usual : CaseRule) (parts : List Part) :
    Option CaseRule :=
  match skipSpace parts with
  | [] => some usual
  | .token (.ident flag) :: rest =>
      match skipSpace rest with
      | _ :: _ => none
      | [] =>
          if flag.toLower == "i" then some .ignored
          else if flag.toLower == "s" then some .exact
          else none
  | _ => none

/- The value of an attribute, and what follows it. -/
def readValue (parts : List Part) : Option (String × List Part) :=
  match skipSpace parts with
  | .token (.ident value) :: rest => some (value, rest)
  | .token (.string value) :: rest => some (value, rest)
  | _ => none

/- The condition in square brackets. -/
def readAttribute (parts : List Part) : Option Simple := do
  let ((anySpace, name), rest) ← readAttributeName (skipSpace parts)
  let usual :=
    if !anySpace && caselessNames.contains name.toLower then
      CaseRule.ignoredInHtml
    else .exact
  match skipSpace rest with
  | [] => return .attribute anySpace name none
  | .token t :: rest =>
      let operator ← readOperator? t
      let (value, rest) ← readValue rest
      let caseRule ← readCaseRule usual rest
      return .attribute anySpace name (some ⟨operator, value, caseRule⟩)
  | _ => none

------------------------------------------------------------
-- Chains
------------------------------------------------------------

/- The condition of a name behind a colon. -/
def readPseudo? (name : String) : Option Simple :=
  match name.toLower with
  | "first-child" => some (.nth ⟨false, false, 0, 1⟩)
  | "last-child" => some (.nth ⟨false, true, 0, 1⟩)
  | "only-child" => some (.only false)
  | "first-of-type" => some (.nth ⟨true, false, 0, 1⟩)
  | "last-of-type" => some (.nth ⟨true, true, 0, 1⟩)
  | "only-of-type" => some (.only true)
  | "root" => some .root
  | "empty" => some .empty
  | "scope" => some .scope
  | _ => none

/-
  The conditions on the name of an element, and what follows.
  A name of no language matches nothing.
-/
def readType : List Part → Option (List Simple × List Part)
  | .token (.ident _) :: .token (.delim '|') :: _ => none
  | .token (.ident name) :: rest => some ([.name name], rest)
  | .token (.delim '*') :: .token (.delim '|') :: rest =>
      match rest with
      | .token (.delim '*') :: rest => some ([.any], rest)
      | .token (.ident name) :: rest => some ([.name name], rest)
      | _ => none
  | .token (.delim '*') :: rest => some ([.any], rest)
  | .token (.delim '|') :: rest =>
      match rest with
      | .token (.delim '*') :: rest => some ([.unnamed], rest)
      | .token (.ident _) :: rest => some ([.unnamed], rest)
      | _ => none
  | parts => some ([], parts)

/- The conditions behind the name of an element. -/
def readConditions : List Part → Option (List Simple × List Part)
  | .token (.hash name) :: rest =>
      (readConditions rest).map fun (s, r) => (.id name :: s, r)
  | .token (.delim '.') :: .token (.ident name) :: rest =>
      (readConditions rest).map fun (s, r) => (.class name :: s, r)
  | .token (.delim '.') :: _ => none
  | .bracket condition :: rest =>
      (readConditions rest).map fun (s, r) => (condition :: s, r)
  | .token .colon :: .call condition :: rest =>
      (readConditions rest).map fun (s, r) => (condition :: s, r)
  | .token .colon :: .token (.ident name) :: rest =>
      match readPseudo? name with
      | some condition =>
          (readConditions rest).map fun (s, r) => (condition :: s, r)
      | none => none
  | .token .colon :: _ => none
  | parts => some ([], parts)

/- The conditions on one element, at least one. -/
def readCompound (parts : List Part) :
    Option (List Simple × List Part) := do
  let (type, rest) ← readType (skipSpace parts)
  let (conditions, rest) ← readConditions rest
  if (type ++ conditions).isEmpty then none
  else return (type ++ conditions, rest)

/- The combinator in front of some parts, and what follows it. -/
def readCombinator (spaced : Bool) :
    List Part → Option (Combinator × List Part)
  | .token .space :: rest => readCombinator true rest
  | .token (.delim '>') :: rest => some (.child, rest)
  | .token (.delim '+') :: rest => some (.next, rest)
  | .token (.delim '~') :: rest => some (.later, rest)
  | [] => none
  | part :: rest =>
      if spaced then some (.descendant, part :: rest) else none

/- The rest of a chain, within a bound on its length. -/
def readSteps : Nat → Chain → List Part → Option Chain
  | 0, _, _ => none
  | bound + 1, left, parts =>
      match readCombinator false parts with
      | some (c, rest) => do
          let (conditions, rest) ← readCompound rest
          readSteps bound (.step left c conditions) rest
      | none => if (skipSpace parts).isEmpty then some left else none

/- A chain that all the parts belong to. -/
def readChain (parts : List Part) : Option Chain := do
  let (conditions, rest) ← readCompound parts
  readSteps (rest.length + 1) (.single conditions) rest

/- The parts between commas. -/
def splitCommas : List Part → List (List Part)
  | [] => [[]]
  | .token .comma :: rest => [] :: splitCommas rest
  | part :: rest =>
      match splitCommas rest with
      | [] => [[part]]
      | piece :: pieces => (part :: piece) :: pieces

/- Chains that are separated by commas. -/
def readList (parts : List Part) : Option (List Chain) :=
  (splitCommas parts).mapM readChain

------------------------------------------------------------
-- Brackets
------------------------------------------------------------

/- A bracket that is open: a function or a square bracket. -/
inductive Opening
  | function (name : String)
  | square

/- The parts in a bracket, or outside all, the last one first. -/
abbrev Pile := List Part

/- The part that a bracket with its content stands for. -/
def Opening.close (o : Opening) (pile : Pile) : Option Part :=
  let parts := pile.reverse
  match o with
  | .square => (readAttribute parts).map .bracket
  | .function name =>
      match name.toLower with
      | "not" => (readList parts).map fun chains => .call (.not chains)
      | "nth-child" => (readNth false false parts).map .call
      | "nth-last-child" => (readNth false true parts).map .call
      | "nth-of-type" => (readNth true false parts).map .call
      | "nth-last-of-type" => (readNth true true parts).map .call
      | _ => none

/-
  The parts of some tokens.  `opened` are the open brackets with
  the parts in front of them, the innermost bracket first.
-/
def gather : List (Opening × Pile) → Pile → List Token →
    Option (List Part)
  | [], pile, [] => some pile.reverse
  | (o, before) :: opened, pile, [] =>
      match o.close pile with
      | some part => gather opened (part :: before) []
      | none => none
  | opened, pile, token :: rest =>
      match token, opened with
      | .function name, _ => gather ((.function name, pile) :: opened) [] rest
      | .openSquare, _ => gather ((.square, pile) :: opened) [] rest
      | .closeParen, (.function name, before) :: opened =>
          match (Opening.function name).close pile with
          | some part => gather opened (part :: before) rest
          | none => none
      | .closeSquare, (.square, before) :: opened =>
          match Opening.square.close pile with
          | some part => gather opened (part :: before) rest
          | none => none
      | token, opened => gather opened (.token token :: pile) rest
termination_by opened _ tokens => (tokens.length, opened.length)

/- The chains of a selector. -/
def parse? (s : String) : Option (List Chain) := do
  readList (← gather [] [] (tokenize s))

end Css

end Gleaner
