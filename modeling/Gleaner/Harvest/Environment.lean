import Gleaner.Text.Blank
import Gleaner.Text.Cut
import Gleaner.Text.Letter

/-
  Variables of the environment, and files that add to them.

  Key definitions include:
    * `Environment`
    * `Environment.Quoting`
    * `Environment.entries`
    * `Environment.Spot`
    * `Environment.readValue`
    * `Environment.readEntry`
    * `Environment.load`
-/

namespace Gleaner

/- Variables by their names; the first of a name counts. -/
structure Environment where
  bindings : List (String × String)
deriving DecidableEq, Repr

namespace Environment

/- The value of a variable. -/
def get? (e : Environment) (name : String) : Option String :=
  e.bindings.lookup name

/- Give a variable a value unless it has one. -/
def add (e : Environment) (name value : String) : Environment :=
  match e.get? name with
  | some _ => e
  | none => ⟨e.bindings ++ [(name, value)]⟩

------------------------------------------------------------
-- Entries of a File
------------------------------------------------------------

/-
  What quotes a character of a file.  A gap is one blank, behind
  which a comment may start.
-/
inductive Quoting
  | plain
  | gap
  | escape
  | weak
  | weakEscape
  | strong
  | strongEscape
deriving DecidableEq, Repr

/- What quotes the character behind an unquoted one. -/
def Quoting.behindPlain (c : Char) : Quoting :=
  if c == '\\' then .escape
  else if c == '"' then .weak
  else if c == '\'' then .strong
  else .plain

/- What quotes the character behind another. -/
def Quoting.behind (c : Char) : Quoting → Quoting
  | .plain =>
      if Text.isBlank c && c != '\n' && c != '\r' then .gap
      else behindPlain c
  | .gap => behindPlain c
  | .escape => .plain
  | .weak =>
      if c == '\\' then .weakEscape
      else if c == '"' then .plain
      else .weak
  | .weakEscape => .weak
  | .strong =>
      if c == '\\' then .strongEscape
      else if c == '\'' then .plain
      else .strong
  | .strongEscape => .strong

/-
  Follow the quotes through a line.  A comment ends it: what
  stands before the comment is the second result.
-/
def followQuotes : Quoting → List Char → Option Quoting × List Char
  | q, [] => (some q, [])
  | q, c :: rest =>
      if q == .gap && c == '#' then (none, [])
      else
        let (final, kept) := followQuotes (q.behind c) rest
        (final, c :: kept)

/- A line without the line feed and carriage return at its end. -/
def dropLineEnd (line : List Char) : List Char :=
  match line.reverse with
  | '\n' :: rest => Text.dropReturn rest.reverse
  | _ => line

/- The lines of a text, with their line feeds. -/
def fullLines (cs : List Char) : List (List Char) :=
  let pieces := Text.cutAt (· == '\n') cs
  pieces.dropLast.map (· ++ ['\n']) ++
    (pieces.getLast?.toList.filter (!·.isEmpty))

/-
  The entries of a file.  A quoted line feed does not end an
  entry.  The last entry is `none` if the file ends too early.
-/
def entriesFrom (start : List Char) (q : Quoting) :
    List (List Char) → List (Option (List Char))
  | [] => if q == .plain then [] else [none]
  | line :: rest =>
      let whole := start ++ line
      if (Text.trimStart whole).head? == some '#' then
        some [] :: entriesFrom [] .plain rest
      else
        match followQuotes q line with
        | (none, kept) =>
            some (start ++ kept) :: entriesFrom [] .plain rest
        | (some .plain, _) =>
            some (dropLineEnd whole) :: entriesFrom [] .plain rest
        | (some q, _) => entriesFrom whole q rest

/- The entries of a file; a mark of its encoding is passed over. -/
def entries (cs : List Char) : List (Option (List Char)) :=
  let text :=
    match cs with
    | '\uFEFF' :: rest => rest
    | _ => cs
  entriesFrom [] .plain (fullLines text)

------------------------------------------------------------
-- Values
------------------------------------------------------------

/-
  Where a character of a value stands: unquoted, in double or
  single quotes, behind a backslash, in the name of a variable
  with or without braces, behind the value, or in a comment.
  `quoted` tells whether double quotes are open around it.
-/
inductive Spot
  | plain
  | weak
  | strong
  | escape (quoted : Bool)
  | name (quoted : Bool) (read : List Char)
  | braced (quoted : Bool) (read : List Char)
  | ending
  | comment
deriving DecidableEq, Repr

namespace Spot

/- The spot around a name or an escape. -/
def around (quoted : Bool) : Spot :=
  if quoted then .weak else .plain

/- The characters that a backslash stands before. -/
def escapable : List Char :=
  ['\\', '\'', '"', '$', ' ']

/- The value of a variable whose name was read. -/
def valueOf (e : Environment) (read : List Char) : List Char :=
  ((e.get? (String.ofList read)).getD "").toList

/- Behind a character: the next spot, and what the value gets. -/
def step (e : Environment) (c : Char) :
    Spot → Option (Spot × List Char)
  | .comment => some (.comment, [])
  | .ending =>
      if c == ' ' || c == '\t' then some (.ending, [])
      else if c == '#' then some (.comment, [])
      else none
  | .escape quoted =>
      if escapable.contains c then some (around quoted, [c])
      else if c == 'n' then some (around quoted, ['\n'])
      else none
  | .strong =>
      some (if c == '\'' then (.plain, []) else (.strong, [c]))
  | .name quoted read =>
      if Text.isAlphanumeric c then
        some (.name quoted (read ++ [c]), [])
      else if c == '\x7b' && read.isEmpty then
        some (.braced quoted [], [])
      else if c == '$' then some (.name quoted [], valueOf e read)
      else some (around quoted, valueOf e read ++ [c])
  | .braced quoted read =>
      if c == '\x7d' then some (around quoted, valueOf e read)
      else some (.braced quoted (read ++ [c]), [])
  | .weak =>
      some
        (if c == '$' then (.name true [], [])
        else if c == '"' then (.plain, [])
        else if c == '\\' then (.escape true, [])
        else (.weak, [c]))
  | .plain =>
      some
        (if c == '$' then (.name false [], [])
        else if c == '\'' then (.strong, [])
        else if c == '"' then (.weak, [])
        else if c == '\\' then (.escape false, [])
        else if c == ' ' || c == '\t' then (.ending, [])
        else (.plain, [c]))

/- What a value gets at its end; quotes and braces are closed. -/
def finish (e : Environment) : Spot → Option (List Char)
  | .name false read => some (valueOf e read)
  | .plain | .escape false | .ending | .comment => some []
  | _ => none

end Spot

/- Read a value from some spot on. -/
def readFrom (e : Environment) : Spot → List Char → Option (List Char)
  | spot, [] => spot.finish e
  | spot, c :: rest => do
      let (next, read) ← spot.step e c
      return read ++ (← readFrom e next rest)

/- Read a value, in which names stand for variables. -/
def readValue (e : Environment) (cs : List Char) :
    Option (List Char) :=
  readFrom e .plain cs

------------------------------------------------------------
-- Reading a File
------------------------------------------------------------

/- A name starts with a letter or an underscore. -/
def startsName (c : Char) : Bool :=
  Text.isLetter c || c == '_'

/- A name goes on with digits and dots as well. -/
def inName (c : Char) : Bool :=
  startsName c || Text.isDigit c || c == '.'

/- A name, and what follows it and the white space behind it. -/
def takeName (cs : List Char) : Option (List Char × List Char) :=
  match cs with
  | c :: _ =>
      if startsName c then
        some (cs.takeWhile inName,
          Text.trimStart (cs.dropWhile inName))
      else none
  | [] => none

/- What follows an equals sign. -/
def dropEquals : List Char → Option (List Char)
  | '=' :: rest => some rest
  | _ => none

/-
  The name of an entry and what follows the equals sign.  The
  word `export` may stand before the name, or be it.
-/
def takeAssignment (cs : List Char) :
    Option (List Char × List Char) := do
  let (name, rest) ← takeName cs
  match dropEquals rest with
  | some value => return (name, value)
  | none =>
      if name = "export".toList then
        let (name, rest) ← takeName rest
        return (name, ← dropEquals rest)
      else none

/- Read an entry, which may be blank; `none` if that fails. -/
def readEntry (e : Environment) (entry : List Char) :
    Option (Option (String × String)) :=
  let cs := Text.trim entry
  if cs.isEmpty || cs.head? == some '#' then some none
  else do
    let (name, rest) ← takeAssignment cs
    let rest := Text.trimStart rest
    let value ←
      if rest.head? == some '#' then some [] else readValue e rest
    return some (String.ofList name, String.ofList value)

/- Add the variables of entries, up to one that fails. -/
def addEntries (e : Environment) :
    List (Option (List Char)) → Environment
  | [] => e
  | none :: _ => e
  | some entry :: rest =>
      match e.readEntry entry with
      | none => e
      | some none => addEntries e rest
      | some (some (name, value)) => addEntries (e.add name value) rest

/-
  Add the variables of a file.  Variables that there are already
  keep their values.
-/
def load (e : Environment) (cs : List Char) : Environment :=
  e.addEntries (entries cs)

/- The names that the values of a file may refer to. -/
def mentioned (cs : List Char) : List String :=
  ((Text.cutAt (· == '$') cs).drop 1).flatMap fun piece =>
    let inner := (piece.drop 1).takeWhile (· != '\x7d')
    [String.ofList (piece.takeWhile Text.isAlphanumeric),
      String.ofList inner]

end Environment

end Gleaner
