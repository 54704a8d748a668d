import Gleaner.Selector.Basic
import Gleaner.Selector.Nesting
import Gleaner.Text.Blank
import Gleaner.Text.Cut

/-
  Reading selector expressions.

  `;` ends a level, `|` cascades labels, `^` marks a mapping
  level, a last segment in braces is a style pair, and a last
  segment in parentheses lists alternatives.

  Key definitions include:
    * `Selector.stripMapping`
    * `Selector.readPath`
    * `Selector.readStyle`
    * `Selector.readLevel`
    * `Selector.readTail`
    * `Selector.parse`
-/

namespace Gleaner

namespace Selector

------------------------------------------------------------
-- Segments
------------------------------------------------------------

/-
  Take out the marks `^` that stand outside brackets.  The
  result tells whether there was one.  Quotes have no meaning
  here, and a bracket closes any other.
-/
def stripMapping (depth : Nat) : List Char → Bool × List Char
  | [] => (false, [])
  | c :: rest =>
      if c == '{' || c == '(' || c == '[' then
        let (found, kept) := stripMapping (depth + 1) rest
        (found, c :: kept)
      else if c == '}' || c == ')' || c == ']' then
        let (found, kept) := stripMapping (depth - 1) rest
        (found, c :: kept)
      else if c == '^' && depth == 0 then
        (true, (stripMapping depth rest).2)
      else
        let (found, kept) := stripMapping depth rest
        (found, c :: kept)

/- The text stands between `opener` and `closer`. -/
def isEnclosed (opener closer : Char) (cs : List Char) : Bool :=
  cs.head? == some opener && cs.getLast? == some closer

/- The segment is written as a style pair. -/
def isStyle (segment : List Char) : Bool :=
  isEnclosed '{' '}' segment

/- The segment is written as a list of alternatives. -/
def isMulti (segment : List Char) : Bool :=
  isEnclosed '(' ')' segment

/- A segment without its first and last character. -/
def inner (segment : List Char) : List Char :=
  segment.tail.dropLast

/- The trimmed segments of a cascade, none of them empty. -/
def readSegments (cs : List Char) : Except Fault (List (List Char)) :=
  match splitTop '|' cs with
  | none => .error .unbalanced
  | some pieces =>
      let segments := pieces.map Text.trim
      if segments.any List.isEmpty then .error .emptySegment
      else .ok segments

------------------------------------------------------------
-- Paths and Style Pairs
------------------------------------------------------------

/- The labels of a cascade. -/
def readPath (cs : List Char) : Except Fault Path := do
  let segments ← readSegments cs
  return segments.map String.ofList

/- A style pair: the first `:` outside brackets separates. -/
def readStyle (segment : List Char) : Except Fault StylePair :=
  match splitTop ':' (inner segment) with
  | none => .error .unbalanced
  | some (key :: value :: more) => do
      let key ← readPath key
      let value ← readPath (Text.joinWith [':'] (value :: more))
      return ⟨key, value⟩
  | some _ => .error .styleWithoutSeparator

------------------------------------------------------------
-- Levels
------------------------------------------------------------

/- The scope of a level, and the style pair that may end it. -/
def readScope :
    List (List Char) → Except Fault (Path × Option StylePair)
  | [] => .ok ([], none)
  | segment :: rest =>
      if isMulti segment then .error .misplacedMultiValue
      else if isStyle segment then
        if rest.isEmpty then do
          let style ← readStyle segment
          return ([], some style)
        else .error .misplacedStyle
      else do
        let (scope, style) ← readScope rest
        return (String.ofList segment :: scope, style)

/- One level of an expression. -/
def readLevel (cs : List Char) : Except Fault Level := do
  let (mapping, kept) := stripMapping 0 cs
  let segments ← readSegments kept
  let (scope, style) ← readScope segments
  return ⟨mapping, scope, style⟩

------------------------------------------------------------
-- The Tail
------------------------------------------------------------

/- No segment before the last is a pair or a list. -/
def checkLeading : List (List Char) → Except Fault Unit
  | [] => .ok ()
  | segment :: rest =>
      if isMulti segment then .error .misplacedMultiValue
      else if isStyle segment then .error .misplacedStyle
      else checkLeading rest

/- The alternatives of a last segment in parentheses. -/
def readAlternatives (segment : List Char) : Except Fault (List Path) :=
  match splitTop ',' (inner segment) with
  | none => .error .unbalanced
  | some pieces => pieces.mapM readPath

/-
  The part behind the last `;`.  A style pair at its end is one
  more level, which repeats on its own.
-/
def readTail (levels : List Level) (cs : List Char) :
    Except Fault (List Level × Tail) := do
  let kept := (stripMapping 0 cs).2
  if (Text.trim kept).isEmpty then
    if levels.isEmpty then .error .empty
    else return (levels, ⟨[], none⟩)
  else
    let segments ← readSegments kept
    let leading := segments.dropLast
    let last := segments.getLastD []
    checkLeading leading
    let path := leading.map String.ofList
    if isStyle last then
      let style ← readStyle last
      return (levels ++ [⟨false, path, some style⟩], ⟨[], none⟩)
    else if isMulti last then
      let alternatives ← readAlternatives last
      return (levels, ⟨path, some alternatives⟩)
    else
      return (levels, ⟨segments.map String.ofList, none⟩)

------------------------------------------------------------
-- Whole Expressions
------------------------------------------------------------

/- The levels and the tail that a text describes. -/
def readParts (cs : List Char) : Except Fault (List Level × Tail) :=
  if (Text.trim cs).isEmpty then .error .empty
  else
    match splitTop ';' cs with
    | none => .error .unbalanced
    | some parts => do
        let levels ← parts.dropLast.mapM readLevel
        readTail levels (parts.getLastD [])

/- Read an expression. -/
def parse (source : String) : Except Error Selector :=
  match readParts source.toList with
  | .ok (levels, tail) => .ok ⟨source, levels, tail⟩
  | .error fault => .error ⟨fault, source⟩

end Selector

end Gleaner
