import Gleaner.Json.Basic
import Gleaner.Decimal.Shortest

/-
  The compact text of a JSON value.

  Key definitions include:
    * `Json.escape`
    * `Json.quote`
    * `Json.Number.render`
    * `Json.render`
    * `Json.compact`
-/

namespace Gleaner

namespace Json

------------------------------------------------------------
-- Texts and Numbers
------------------------------------------------------------

/-
  The written form of one character of a text.  Only the quote,
  the backslash and the controls below the blank are escaped.
-/
def escape (c : Char) : List Char :=
  if c == '"' then ['\\', '"']
  else if c == '\\' then ['\\', '\\']
  else if c == '\x08' then ['\\', 'b']
  else if c == '\t' then ['\\', 't']
  else if c == '\n' then ['\\', 'n']
  else if c == '\x0c' then ['\\', 'f']
  else if c == '\r' then ['\\', 'r']
  else if c.toNat < 0x20 then
    ['\\', 'u', '0', '0', Text.hexDigitLower (c.toNat / 16),
      Text.hexDigitLower (c.toNat % 16)]
  else [c]

/- A text in quotes. -/
def quote (s : String) : List Char :=
  '"' :: s.toList.flatMap escape ++ ['"']

/- The written form of a number. -/
def Number.render : Number → List Char
  | .natural n => Text.showNat n
  | .negative n => '-' :: Text.showNat n
  | .real x => x.render

------------------------------------------------------------
-- Values
------------------------------------------------------------

mutual

/- The text of a value without any white space. -/
def render : Json → List Char
  | .null => ['n', 'u', 'l', 'l']
  | .bool true => ['t', 'r', 'u', 'e']
  | .bool false => ['f', 'a', 'l', 's', 'e']
  | .number n => n.render
  | .text s => quote s
  | .array [] => ['[', ']']
  | .array (item :: items) =>
      '[' :: render item ++ renderItems items ++ [']']
  | .object [] => ['\x7b', '\x7d']
  | .object ((name, value) :: fields) =>
      '\x7b' :: quote name ++ ':' :: render value ++
        renderFields fields ++ ['\x7d']

/- The items behind the first, each behind a comma. -/
def renderItems : List Json → List Char
  | [] => []
  | item :: items => ',' :: render item ++ renderItems items

/- The fields behind the first, each behind a comma. -/
def renderFields : List (String × Json) → List Char
  | [] => []
  | (name, value) :: fields =>
      ',' :: quote name ++ ':' :: render value ++ renderFields fields

end

/- The text of a value without any white space. -/
def compact (v : Json) : String :=
  String.ofList v.render

end Json

end Gleaner
