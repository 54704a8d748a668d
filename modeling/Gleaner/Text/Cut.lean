/-
  Cutting and joining texts at fixed characters, and finding
  one text inside another.

  Key definitions include:
    * `Text.cutAt`
    * `Text.words`
    * `Text.joinWith`
    * `Text.lines`
    * `Text.dropPrefix?`
    * `Text.contains`
    * `Text.replaceFirst`
-/

namespace Gleaner

namespace Text

------------------------------------------------------------
-- Cutting
------------------------------------------------------------

/-
  The pieces of a text between the characters that satisfy
  `isCut`.  There is one piece more than there are cuts.
-/
def cutAt (isCut : Char → Bool) : List Char → List (List Char)
  | [] => [[]]
  | c :: rest =>
      if isCut c then
        [] :: cutAt isCut rest
      else
        match cutAt isCut rest with
        | [] => [[c]]
        | piece :: pieces => (c :: piece) :: pieces

/- The pieces between cuts that are not empty. -/
def words (isCut : Char → Bool) (cs : List Char) : List (List Char) :=
  (cutAt isCut cs).filter (!·.isEmpty)

/- A blank or the end of a line. -/
def isGap (c : Char) : Bool :=
  c == ' ' || c == '\n'

/- The pieces written one after another with `sep` between. -/
def joinWith (sep : List Char) : List (List Char) → List Char
  | [] => []
  | [piece] => piece
  | piece :: pieces => piece ++ sep ++ joinWith sep pieces

/- A line without the carriage return at its end. -/
def dropReturn (line : List Char) : List Char :=
  match line.reverse with
  | '\r' :: rest => rest.reverse
  | _ => line

/-
  The lines of a text.  A line ends at a line feed, with or
  without a carriage return before it, and the text behind
  the last line feed is a line unless it is empty.
-/
def lines (cs : List Char) : List (List Char) :=
  let pieces := cutAt (· == '\n') cs
  match pieces.reverse with
  | [] => []
  | last :: before =>
      before.reverse.map dropReturn ++
        (if last.isEmpty then [] else [last])

------------------------------------------------------------
-- Search
------------------------------------------------------------

/- What follows `pre` in a text that starts with it. -/
def dropPrefix? : List Char → List Char → Option (List Char)
  | [], cs => some cs
  | _ :: _, [] => none
  | p :: pre, c :: cs =>
      if p == c then dropPrefix? pre cs else none

/- Whether a text starts with `pre`. -/
def startsWith (pre cs : List Char) : Bool :=
  (dropPrefix? pre cs).isSome

/- Whether `part` stands somewhere in a text. -/
def contains (part : List Char) : List Char → Bool
  | [] => part.isEmpty
  | c :: cs => startsWith part (c :: cs) || contains part cs

/- Put `new` in the place of the first `old` of a text. -/
def replaceFirst (old new : List Char) : List Char → List Char
  | [] => if old.isEmpty then new else []
  | c :: cs =>
      match dropPrefix? old (c :: cs) with
      | some rest => new ++ rest
      | none => c :: replaceFirst old new cs

/- Two characters are the same up to the case of `A` to `Z`. -/
def sameIgnoringCase (a b : Char) : Bool :=
  a.toLower == b.toLower

/-
  What follows `pre` in a text that starts with it up to the
  case of `A` to `Z`.
-/
def dropPrefixIgnoringCase? :
    List Char → List Char → Option (List Char)
  | [], cs => some cs
  | _ :: _, [] => none
  | p :: pre, c :: cs =>
      if sameIgnoringCase p c then
        dropPrefixIgnoringCase? pre cs
      else none

end Text

end Gleaner
