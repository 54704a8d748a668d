import Gleaner.Markup.Reference

/-
  The tokens of markup: runs of text, tags, comments and
  document types.

  Key definitions include:
    * `Markup.Token`
    * `Markup.Doctype`
    * `Markup.TextMode`
    * `Markup.classify`
    * `Markup.takeTag?`
    * `Markup.takeComment`
    * `Markup.takeDoctype`
    * `Markup.takeRaw`
    * `Markup.takeScript`
    * `Markup.next`
-/

namespace Gleaner

namespace Markup

------------------------------------------------------------
-- Tokens
------------------------------------------------------------

/- A declaration of the type of a document. -/
structure Doctype where
  name : Option String
  publicId : Option String
  systemId : Option String
  isBroken : Bool
deriving DecidableEq, Repr

/- The name and the attributes of a start tag. -/
structure StartTag where
  name : String
  attributes : List (String × String)
  selfClosing : Bool
deriving DecidableEq, Repr

/-
  A token.  Texts are cut into runs of blanks, null characters
  and runs of everything else.
-/
inductive Token
  | blank (cs : List Char)
  | null
  | words (cs : List Char)
  | startTag (tag : StartTag)
  | endTag (name : String)
  | comment (s : String)
  | doctype (d : Doctype)
  | eof
deriving DecidableEq, Repr

/-
  How the text after a tag is read: with tags and references,
  with references up to an end tag, raw up to an end tag, as a
  script, or raw to the end.
-/
inductive TextMode
  | data
  | references (name : List Char)
  | raw (name : List Char)
  | script
  | plain
deriving DecidableEq, Repr

------------------------------------------------------------
-- Characters
------------------------------------------------------------

/- The white space of markup. -/
def isSpace (c : Char) : Bool :=
  c == '\t' || c == '\n' || c == '\x0c' || c == ' '

/- The stand-in for null characters. -/
def replaceNull (c : Char) : Char :=
  if c == '\x00' then '\uFFFD' else c

/- A blank, a null character, or another one. -/
inductive CharClass
  | blank
  | null
  | word
deriving DecidableEq, Repr

/- The class of a character. -/
def classOf (c : Char) : CharClass :=
  if c == '\x00' then .null else if isSpace c then .blank else .word

/- Put a character in front of the tokens of a text. -/
def addToRuns (c : Char) (runs : List Token) : List Token :=
  match classOf c, runs with
  | .null, _ => .null :: runs
  | .blank, .blank cs :: rest => .blank (c :: cs) :: rest
  | .blank, _ => .blank [c] :: runs
  | .word, .words cs :: rest => .words (c :: cs) :: rest
  | .word, _ => .words [c] :: runs

/- The tokens of a text. -/
def classify (cs : List Char) : List Token :=
  cs.foldr addToRuns []

/-
  Line ends as single line feeds: a carriage return alone, or
  together with the line feed behind it.
-/
def normalizeLines : List Char → List Char
  | [] => []
  | '\r' :: '\n' :: rest => '\n' :: normalizeLines rest
  | '\r' :: rest => '\n' :: normalizeLines rest
  | c :: rest => c :: normalizeLines rest

------------------------------------------------------------
-- Tags
------------------------------------------------------------

/- Where a reader stands inside a tag. -/
inductive TagState
  | beforeName
  | name (n : List Char)
  | afterName (n : List Char)
  | beforeValue (n : List Char)
  | quoted (n : List Char) (q : Char) (v : List Char)
  | bare (n v : List Char)
  | slash
deriving DecidableEq, Repr

/- Add an attribute, unless there is one of the same name. -/
def addAttribute
    (n v : List Char)
    (attributes : List (String × String)) :
    List (String × String) :=
  let name := String.ofList n.reverse
  if attributes.any (·.1 == name) then attributes
  else
    attributes ++
      [(name, String.ofList (decodeReferences true v.reverse))]

/- A character of a name of a tag or an attribute. -/
def nameChar (c : Char) : Char :=
  replaceNull c.toLower

/-
  Read the attributes of a tag: the attributes, whether the tag
  closes itself, and what follows it.  A tag without an end is
  not read at all.
-/
def takeAttributes
    (state : TagState)
    (attributes : List (String × String)) :
    List Char → Option (List (String × String) × Bool × List Char)
  | [] => none
  | c :: rest =>
      let fresh : TagState := .name [nameChar c]
      match state with
      | .beforeName =>
          if isSpace c then takeAttributes .beforeName attributes rest
          else if c == '/' then takeAttributes .slash attributes rest
          else if c == '>' then some (attributes, false, rest)
          else takeAttributes fresh attributes rest
      | .slash =>
          if c == '>' then some (attributes, true, rest)
          else if isSpace c then takeAttributes .beforeName attributes rest
          else if c == '/' then takeAttributes .slash attributes rest
          else takeAttributes fresh attributes rest
      | .name n =>
          if isSpace c then takeAttributes (.afterName n) attributes rest
          else if c == '/' then
            takeAttributes .slash (addAttribute n [] attributes) rest
          else if c == '>' then
            some (addAttribute n [] attributes, false, rest)
          else if c == '=' then
            takeAttributes (.beforeValue n) attributes rest
          else takeAttributes (.name (nameChar c :: n)) attributes rest
      | .afterName n =>
          if isSpace c then takeAttributes (.afterName n) attributes rest
          else if c == '/' then
            takeAttributes .slash (addAttribute n [] attributes) rest
          else if c == '>' then
            some (addAttribute n [] attributes, false, rest)
          else if c == '=' then
            takeAttributes (.beforeValue n) attributes rest
          else takeAttributes fresh (addAttribute n [] attributes) rest
      | .beforeValue n =>
          if isSpace c then
            takeAttributes (.beforeValue n) attributes rest
          else if c == '"' || c == '\'' then
            takeAttributes (.quoted n c []) attributes rest
          else if c == '>' then
            some (addAttribute n [] attributes, false, rest)
          else takeAttributes (.bare n [replaceNull c]) attributes rest
      | .quoted n q v =>
          if c == q then
            takeAttributes .beforeName (addAttribute n v attributes) rest
          else takeAttributes (.quoted n q (replaceNull c :: v)) attributes rest
      | .bare n v =>
          if isSpace c then
            takeAttributes .beforeName (addAttribute n v attributes) rest
          else if c == '>' then
            some (addAttribute n v attributes, false, rest)
          else takeAttributes (.bare n (replaceNull c :: v)) attributes rest

/- The end of the name of a tag. -/
def endsTagName (c : Char) : Bool :=
  isSpace c || c == '/' || c == '>'

/-
  Read a tag behind `<` or `</`: its name, its attributes, and
  whether it closes itself.
-/
def takeTag? (cs : List Char) : Option (StartTag × List Char) :=
  let name := (cs.takeWhile (!endsTagName ·)).map nameChar
  (takeAttributes .beforeName [] (cs.dropWhile (!endsTagName ·))).map
    fun (attributes, selfClosing, rest) =>
      (⟨String.ofList name, attributes, selfClosing⟩, rest)

------------------------------------------------------------
-- Comments
------------------------------------------------------------

/- Where a reader stands inside a comment. -/
inductive CommentState
  | start
  | startDash
  | text
  | dash
  | dashes
  | bang
deriving DecidableEq, Repr

/- Put a text in front of a comment that was read. -/
def addToComment (cs : List Char) (read : List Char × List Char) :
    List Char × List Char :=
  (cs ++ read.1, read.2)

/- Read a comment behind `<!--`: its text, and what follows. -/
def takeComment : CommentState → List Char → List Char × List Char
  | _, [] => ([], [])
  | .start, c :: rest =>
      if c == '>' then ([], rest)
      else if c == '-' then takeComment .startDash rest
      else addToComment [replaceNull c] (takeComment .text rest)
  | .startDash, c :: rest =>
      if c == '>' then ([], rest)
      else if c == '-' then takeComment .dashes rest
      else addToComment ['-', replaceNull c] (takeComment .text rest)
  | .text, c :: rest =>
      if c == '-' then takeComment .dash rest
      else addToComment [replaceNull c] (takeComment .text rest)
  | .dash, c :: rest =>
      if c == '-' then takeComment .dashes rest
      else addToComment ['-', replaceNull c] (takeComment .text rest)
  | .dashes, c :: rest =>
      if c == '>' then ([], rest)
      else if c == '!' then takeComment .bang rest
      else if c == '-' then addToComment ['-'] (takeComment .dashes rest)
      else addToComment ['-', '-', replaceNull c] (takeComment .text rest)
  | .bang, c :: rest =>
      if c == '>' then ([], rest)
      else if c == '-' then
        addToComment ['-', '-', '!'] (takeComment .dash rest)
      else
        addToComment ['-', '-', '!', replaceNull c]
          (takeComment .text rest)

/- The text up to a character, and what follows that character. -/
def takeUntil (stop : Char) (cs : List Char) : List Char × List Char :=
  (cs.takeWhile (· != stop), (cs.dropWhile (· != stop)).drop 1)

------------------------------------------------------------
-- Document Types
------------------------------------------------------------

/- A quoted identifier: its text, and what follows if it ends. -/
def takeIdentifier? :
    List Char → Option (List Char × Option (List Char))
  | c :: rest =>
      if c == '"' || c == '\'' then
        let text := (rest.takeWhile (· != c)).map replaceNull
        match rest.dropWhile (· != c) with
        | _ :: after => some (text, some after)
        | [] => some (text, none)
      else none
  | [] => none

/- The identifier of the system at the end of a document type. -/
def readSystemId (d : Doctype) (required : Bool) (cs : List Char) :
    Doctype :=
  match takeIdentifier? cs with
  | some (id, after) =>
      { d with
        systemId := some (String.ofList id)
        isBroken := after.isNone }
  | none => { d with isBroken := required || !cs.isEmpty }

/- The identifiers of a document type behind its name. -/
def readIdentifiers (d : Doctype) (cs : List Char) : Doctype :=
  if cs.isEmpty then d
  else
    match Text.dropPrefixIgnoringCase? "public".toList cs with
    | some rest =>
        match takeIdentifier? (rest.dropWhile isSpace) with
        | some (id, some after) =>
            readSystemId { d with publicId := some (String.ofList id) }
              false (after.dropWhile isSpace)
        | some (id, none) =>
            { d with
              publicId := some (String.ofList id)
              isBroken := true }
        | none => { d with isBroken := true }
    | none =>
        match Text.dropPrefixIgnoringCase? "system".toList cs with
        | some rest => readSystemId d true (rest.dropWhile isSpace)
        | none => { d with isBroken := true }

/- Read a document type behind `<!doctype`, and what follows. -/
def takeDoctype (cs : List Char) : Doctype × List Char :=
  let (body, rest) := takeUntil '>' cs
  let closed := cs.any (· == '>')
  let body := body.dropWhile isSpace
  let name := (body.takeWhile (!isSpace ·)).map nameChar
  let d : Doctype :=
    if name.isEmpty then ⟨none, none, none, true⟩
    else
      readIdentifiers ⟨some (String.ofList name), none, none, false⟩
        ((body.dropWhile (!isSpace ·)).dropWhile isSpace)
  ({ d with isBroken := d.isBroken || !closed }, rest)

------------------------------------------------------------
-- Raw Text
------------------------------------------------------------

/- A tag of the given name starts behind `lead`. -/
def startsTag (lead name cs : List Char) : Bool :=
  match Text.dropPrefixIgnoringCase? (lead ++ name) cs with
  | some (c :: _) => endsTagName c
  | _ => false

/- The text up to the end tag of a name, and what follows. -/
def takeRaw (name : List Char) : List Char → List Char × List Char
  | [] => ([], [])
  | c :: rest =>
      if c == '<' && startsTag ['<', '/'] name (c :: rest) then
        ([], c :: rest)
      else
        let (text, after) := takeRaw name rest
        (c :: text, after)

/-
  Where a reader stands inside a script: outside comments, in a
  comment, or in a script inside a comment; and how many of the
  last characters were dashes, up to two.
-/
structure ScriptState where
  depth : Nat
  dashes : Nat
deriving DecidableEq, Repr

/- The state behind one character, which starts the given text. -/
def ScriptState.step (s : ScriptState) (c : Char) (cs : List Char) :
    ScriptState :=
  if c == '-' then { s with dashes := min 2 (s.dashes + 1) }
  else if c == '>' && s.dashes == 2 then ⟨0, 0⟩
  else if c == '<' then
    match s.depth with
    | 0 =>
        ⟨if Text.startsWith ['<', '!', '-', '-'] cs then 1 else 0, 0⟩
    | 1 =>
        ⟨if startsTag ['<'] "script".toList cs then 2 else 1, 0⟩
    | d =>
        ⟨if startsTag ['<', '/'] "script".toList cs then 1 else d, 0⟩
  else { s with dashes := 0 }

/- The text of a script up to its end tag, and what follows. -/
def takeScript (s : ScriptState) : List Char → List Char × List Char
  | [] => ([], [])
  | c :: rest =>
      if c == '<' && s.depth < 2 &&
          startsTag ['<', '/'] "script".toList (c :: rest) then
        ([], c :: rest)
      else
        let (text, after) := takeScript (s.step c (c :: rest)) rest
        (c :: text, after)

------------------------------------------------------------
-- The Next Tokens
------------------------------------------------------------

/- A section of raw text up to `]]>`, and what follows. -/
def takeSection : List Char → List Char × List Char
  | [] => ([], [])
  | ']' :: ']' :: '>' :: rest => ([], rest)
  | c :: rest =>
      let (text, after) := takeSection rest
      (c :: text, after)

/- What stands behind `<!`, where `foreign` allows raw sections. -/
def nextDeclaration (foreign : Bool) (cs : List Char) :
    List Token × List Char :=
  match Text.dropPrefix? ['-', '-'] cs with
  | some rest =>
      let (text, after) := takeComment .start rest
      ([.comment (String.ofList text)], after)
  | none =>
      match Text.dropPrefixIgnoringCase? "doctype".toList cs with
      | some rest =>
          let (d, after) := takeDoctype rest
          ([.doctype d], after)
      | none =>
          match Text.dropPrefix? "[CDATA[".toList cs, foreign with
          | some rest, true =>
              let (text, after) := takeSection rest
              (classify text, after)
          | _, _ =>
              let (text, after) := takeUntil '>' cs
              ([.comment (String.ofList (text.map replaceNull))], after)

/- What stands behind `</`. -/
def nextEndTag : List Char → List Token × List Char
  | [] => ([.words ['<', '/']], [])
  | '>' :: rest => ([], rest)
  | c :: rest =>
      if Text.isLetter c then
        match takeTag? (c :: rest) with
        | some (tag, after) => ([.endTag tag.name], after)
        | none => ([], [])
      else
        let (text, after) := takeUntil '>' (c :: rest)
        ([.comment (String.ofList (text.map replaceNull))], after)

/- What stands behind `<`. -/
def nextTag (foreign : Bool) : List Char → List Token × List Char
  | '!' :: rest => nextDeclaration foreign rest
  | '/' :: rest => nextEndTag rest
  | '?' :: rest =>
      let (text, after) := takeUntil '>' ('?' :: rest)
      ([.comment (String.ofList (text.map replaceNull))], after)
  | c :: rest =>
      if Text.isLetter c then
        match takeTag? (c :: rest) with
        | some (tag, after) => ([.startTag tag], after)
        | none => ([], [])
      else ([.words ['<']], c :: rest)
  | [] => ([.words ['<']], [])

/- The end tag that ends raw text, and what follows. -/
def nextClosing (cs : List Char) : List Token × List Char :=
  nextEndTag (cs.drop 2)

/-
  The next tokens of a text that is not empty, and what follows
  them.
-/
def next (mode : TextMode) (foreign : Bool) (cs : List Char) :
    List Token × List Char :=
  match mode with
  | .data =>
      match cs with
      | '<' :: rest => nextTag foreign rest
      | _ =>
          let text := cs.takeWhile (· != '<')
          (classify (decodeReferences false text),
            cs.dropWhile (· != '<'))
  | .references name =>
      match takeRaw name cs with
      | ([], rest) => nextClosing rest
      | (text, rest) =>
          (classify (decodeReferences false (text.map replaceNull)), rest)
  | .raw name =>
      match takeRaw name cs with
      | ([], rest) => nextClosing rest
      | (text, rest) => (classify (text.map replaceNull), rest)
  | .script =>
      match takeScript ⟨0, 0⟩ cs with
      | ([], rest) => nextClosing rest
      | (text, rest) => (classify (text.map replaceNull), rest)
  | .plain => (classify (cs.map replaceNull), [])

end Markup

end Gleaner
