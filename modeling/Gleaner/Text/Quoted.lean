import Gleaner.Text.Printable

/-
  A text in double quotes, with escapes for what would be
  invisible or ambiguous.

  Key definitions include:
    * `Quoted.escape`
    * `Quoted.encode`
-/

namespace Gleaner

namespace Quoted

/- A code point in base sixteen between braces. -/
def codePoint (c : Char) : List Char :=
  ['\\', 'u', '\x7b'] ++ Text.showHex c.toNat ++ ['\x7d']

/-
  The written form of one character: a short escape, a code
  point, or the character itself.
-/
def escape (c : Char) : List Char :=
  if c == '\x00' then ['\\', '0']
  else if c == '\t' then ['\\', 't']
  else if c == '\n' then ['\\', 'n']
  else if c == '\r' then ['\\', 'r']
  else if c == '"' then ['\\', '"']
  else if c == '\\' then ['\\', '\\']
  else if Text.extendsGrapheme c then codePoint c
  else if Text.isPrintable c then [c]
  else codePoint c

/- A text in quotes. -/
def encode (s : String) : String :=
  String.ofList ('"' :: s.toList.flatMap escape ++ ['"'])

end Quoted

end Gleaner
