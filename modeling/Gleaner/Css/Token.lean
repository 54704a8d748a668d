import Gleaner.Text.Cut
import Gleaner.Text.Number

/-
  The tokens of style sheets, as far as selectors need them.

  Key definitions include:
    * `Css.Token`
    * `Css.takeName`
    * `Css.takeString`
    * `Css.takeNumeric`
    * `Css.tokenize`
-/

namespace Gleaner

namespace Css

------------------------------------------------------------
-- Tokens
------------------------------------------------------------

/-
  A token.  A number knows whether it has a sign, and its value
  if it is whole.  What no selector may hold is `other`.
-/
inductive Token
  | ident (s : String)
  | function (s : String)
  | hash (s : String)
  | string (s : String)
  | number (signed : Bool) (value : Option Int)
  | dimension (value : Option Int) (unit : String)
  | delim (c : Char)
  | operator (c : Char)
  | colon
  | comma
  | openParen
  | closeParen
  | openSquare
  | closeSquare
  | space
  | other
deriving DecidableEq, Repr

/- The white space of style sheets. -/
def isSpace (c : Char) : Bool :=
  c == ' ' || c == '\t' || c == '\n' || c == '\r' || c == '\x0c'

/- The ends of lines. -/
def isNewline (c : Char) : Bool :=
  c == '\n' || c == '\r' || c == '\x0c'

------------------------------------------------------------
-- Names
------------------------------------------------------------

/- A character that may stand first in a name. -/
def startsName (c : Char) : Bool :=
  Text.isLetter c || c == '_' || c == '\x00' || 0x80 ≤ c.toNat

/- A character that may stand in a name. -/
def isNameChar (c : Char) : Bool :=
  startsName c || Text.isDigit c || c == '-'

/- An escape may follow the backslash that the text starts with. -/
def startsEscape : List Char → Bool
  | '\\' :: c :: _ => !isNewline c
  | ['\\'] => true
  | _ => false

/- A name starts here. -/
def startsIdent : List Char → Bool
  | '-' :: c :: _ => startsName c || c == '-' || c == '\\'
  | c :: rest => startsName c || startsEscape (c :: rest)
  | [] => false

/- The character with a code, or the replacement character. -/
def ofCode (n : Nat) : Char :=
  if n == 0 || 0x10FFFF < n || (0xD800 ≤ n && n ≤ 0xDFFF) then '\uFFFD'
  else Char.ofNat n

/- A text without the one white space that it may start with. -/
def dropSpace : List Char → List Char
  | '\r' :: '\n' :: rest => rest
  | c :: rest => if isSpace c then rest else c :: rest
  | [] => []

/- An escape behind its backslash, and what follows it. -/
def takeEscape (cs : List Char) : Char × List Char :=
  let digits := (cs.take 6).takeWhile Text.isHexDigit
  if digits.isEmpty then
    match cs with
    | [] => ('\uFFFD', [])
    | c :: rest => (if c == '\x00' then '\uFFFD' else c, rest)
  else
    (ofCode (Text.ofDigits 16 Text.hexValue digits),
      dropSpace (cs.drop digits.length))

/- The rest of a name, and what follows it, within a bound. -/
def takeNameWithin : Nat → List Char → List Char × List Char
  | 0, cs => ([], cs)
  | _, [] => ([], [])
  | left + 1, c :: rest =>
      if isNameChar c then
        let (name, after) := takeNameWithin left rest
        ((if c == '\x00' then '\uFFFD' else c) :: name, after)
      else if startsEscape (c :: rest) then
        let (c, rest) := takeEscape rest
        let (name, after) := takeNameWithin left rest
        (c :: name, after)
      else ([], c :: rest)

/- The rest of a name, and what follows it. -/
def takeName (cs : List Char) : String × List Char :=
  let (name, rest) := takeNameWithin cs.length cs
  (String.ofList name, rest)

------------------------------------------------------------
-- Strings and Numbers
------------------------------------------------------------

/-
  The text up to a quote, and what follows it.  A line end is
  allowed behind a backslash only, where it has no meaning.
-/
def takeStringWithin (quote : Char) :
    Nat → List Char → Option (List Char × List Char)
  | 0, _ => none
  | _, [] => some ([], [])
  | left + 1, c :: rest =>
      let goOn (lead : List Char) (rest : List Char) :=
        (takeStringWithin quote left rest).map
          fun (text, after) => (lead ++ text, after)
      if c == quote then some ([], rest)
      else if isNewline c then none
      else if c == '\\' then
        match rest with
        | [] => some ([], [])
        | '\r' :: '\n' :: rest => goOn [] rest
        | d :: after =>
            if isNewline d then goOn [] after
            else
              let (c, rest) := takeEscape (d :: after)
              goOn [c] rest
      else goOn [if c == '\x00' then '\uFFFD' else c] rest

/- A quoted text behind its first quote, and what follows it. -/
def takeString (quote : Char) (cs : List Char) : Token × List Char :=
  match takeStringWithin quote (cs.length + 1) cs with
  | some (text, rest) => (.string (String.ofList text), rest)
  | none => (.other, [])

/- A number starts behind an optional sign. -/
def startsNumber : List Char → Bool
  | '.' :: c :: _ => Text.isDigit c
  | c :: _ => Text.isDigit c
  | [] => false

/- The bounds of whole numbers. -/
def clamp (n : Int) : Int :=
  max (-0x80000000) (min n 0x7FFFFFFF)

/- A fraction behind a whole number, and whether there is one. -/
def dropFraction : List Char → Bool × List Char
  | '.' :: c :: rest =>
      if Text.isDigit c then (true, rest.dropWhile Text.isDigit)
      else (false, '.' :: c :: rest)
  | cs => (false, cs)

/- An exponent behind a number, and whether there is one. -/
def dropExponent : List Char → Bool × List Char
  | e :: c :: rest =>
      if e == 'e' || e == 'E' then
        if Text.isDigit c then (true, rest.dropWhile Text.isDigit)
        else
          match rest with
          | d :: after =>
              if (c == '+' || c == '-') && Text.isDigit d then
                (true, after.dropWhile Text.isDigit)
              else (false, e :: c :: rest)
          | [] => (false, e :: c :: rest)
      else (false, e :: c :: rest)
  | cs => (false, cs)

/- A number with its sign, and what follows it. -/
def takeNumeric (cs : List Char) : Token × List Char :=
  let (signed, negative, cs) :=
    match cs with
    | '+' :: rest => (true, false, rest)
    | '-' :: rest => (true, true, rest)
    | _ => (false, false, cs)
  let digits := cs.takeWhile Text.isDigit
  let (hasFraction, rest) := dropFraction (cs.dropWhile Text.isDigit)
  let (hasExponent, rest) := dropExponent rest
  let n : Int := Text.ofDigits 10 Text.digitValue digits
  let value :=
    if hasFraction || hasExponent then none
    else some (clamp (if negative then -n else n))
  match rest with
  | '%' :: rest => (.other, rest)
  | _ =>
      if startsIdent rest then
        let (unit, rest) := takeName rest
        (.dimension value unit, rest)
      else (.number signed value, rest)

------------------------------------------------------------
-- All Tokens
------------------------------------------------------------

/- A name that may be the name of a function. -/
def takeIdentLike (cs : List Char) : Token × List Char :=
  let (name, rest) := takeName cs
  match rest with
  | '(' :: rest =>
      if name.toLower == "url" then (.other, rest)
      else (.function name, rest)
  | _ => (.ident name, rest)

/- A comment behind its start is left out. -/
def dropComment : List Char → List Char
  | [] => []
  | '*' :: '/' :: rest => rest
  | _ :: rest => dropComment rest

/- The next token of a text that is not empty, and what follows. -/
def nextToken : List Char → Option Token × List Char
  | [] => (none, [])
  | '/' :: '*' :: rest => (none, dropComment rest)
  | c :: rest =>
      let simple (t : Token) : Option Token × List Char := (some t, rest)
      let some' (r : Token × List Char) : Option Token × List Char :=
        (some r.1, r.2)
      let matching : Option Token × List Char :=
        match rest with
        | '=' :: rest => (some (.operator c), rest)
        | _ => simple (.delim c)
      if isSpace c then (some .space, rest.dropWhile isSpace)
      else if c == '"' || c == '\'' then some' (takeString c rest)
      else if c == '#' then
        if startsIdent rest then
          let (name, rest) := takeName rest
          (some (.hash name), rest)
        else simple .other
      else if c == '$' || c == '*' || c == '^' || c == '|' || c == '~' then
        matching
      else if c == '(' then simple .openParen
      else if c == ')' then simple .closeParen
      else if c == '[' then simple .openSquare
      else if c == ']' then simple .closeSquare
      else if c == ',' then simple .comma
      else if c == ':' then simple .colon
      else if c == '+' then
        if startsNumber rest then some' (takeNumeric (c :: rest))
        else simple (.delim c)
      else if c == '-' then
        if startsNumber rest then some' (takeNumeric (c :: rest))
        else if Text.startsWith ['-', '>'] rest then
          (some .other, rest.drop 2)
        else if startsIdent (c :: rest) then
          some' (takeIdentLike (c :: rest))
        else simple (.delim c)
      else if startsNumber (c :: rest) then some' (takeNumeric (c :: rest))
      else if startsIdent (c :: rest) then some' (takeIdentLike (c :: rest))
      else if c == '.' || c == '>' || c == '=' then simple (.delim c)
      else simple .other

/- The tokens of a text.  Every round uses up a character. -/
def tokenizeWithin : Nat → List Char → List Token
  | 0, _ => []
  | _, [] => []
  | left + 1, cs =>
      match nextToken cs with
      | (some token, rest) => token :: tokenizeWithin left rest
      | (none, rest) => tokenizeWithin left rest

/- The tokens of a text. -/
def tokenize (s : String) : List Token :=
  tokenizeWithin s.length s.toList

end Css

end Gleaner
