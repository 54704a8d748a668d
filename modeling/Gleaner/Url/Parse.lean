import Gleaner.Domain.Name
import Gleaner.Url.Path

/-
  Reading URLs, alone or in the place of another one.

  Key definitions include:
    * `Url.Error`
    * `Url.Error.message`
    * `Url.readHost`
    * `Url.takeAuthority`
    * `Url.readRelative`
    * `Url.readFile`
    * `Url.parse`
    * `Url.join`
-/

namespace Gleaner

namespace Url

------------------------------------------------------------
-- Errors
------------------------------------------------------------

/- The ways in which a text fails to be a URL. -/
inductive Error
  | emptyHost
  | badName
  | badCharacter
  | badPort
  | badAddress4
  | badAddress6
  | relative
  | relativeToFlat
deriving DecidableEq, Repr

/- The wording of an error. -/
def Error.message : Error → String
  | .emptyHost => "empty host"
  | .badName => "invalid international domain name"
  | .badCharacter => "invalid domain character"
  | .badPort => "invalid port number"
  | .badAddress4 => "invalid IPv4 address"
  | .badAddress6 => "invalid IPv6 address"
  | .relative => "relative URL without a base"
  | .relativeToFlat => "relative URL with a cannot-be-a-base base"

------------------------------------------------------------
-- Texts
------------------------------------------------------------

/- The blank and the controls below it. -/
def isLow (c : Char) : Bool :=
  c.toNat ≤ 0x20

/- A text without low characters at its ends, tabs and line ends. -/
def clean (cs : List Char) : List Char :=
  let start := cs.dropWhile isLow
  (start.reverse.dropWhile isLow).reverse.filter fun c =>
    !(c == '\t' || c == '\n' || c == '\r')

/- A character behind the first one of a scheme. -/
def isSchemeChar (c : Char) : Bool :=
  Text.isLetter c || Text.isDigit c || c == '+' || c == '-' || c == '.'

/- The scheme in front of a colon, and what follows the colon. -/
def takeScheme? (cs : List Char) : Option (String × List Char) :=
  match cs.takeWhile isSchemeChar, cs.dropWhile isSchemeChar with
  | c :: name, ':' :: rest =>
      if Text.isLetter c then
        some ((String.ofList (c :: name)).toLower, rest)
      else none
  | _, _ => none

/- A slash in both spellings. -/
def isAnySlash (c : Char) : Bool :=
  c == '/' || c == '\\'

/- The character ends the authority of a URL. -/
def endsAuthority (kind : Kind) (c : Char) : Bool :=
  isSlash kind c || c == '?' || c == '#'

------------------------------------------------------------
-- Hosts
------------------------------------------------------------

/- A numeric address that stands in square brackets. -/
def readBracket (cs : List Char) : Except Error Host :=
  match cs.reverse with
  | ']' :: before =>
      match Address6.read? before.reverse with
      | some pieces => .ok (.six pieces)
      | none => .error .badAddress6
  | _ => .error .badAddress6

/- The host of a special scheme: a domain name or an address. -/
def readDomain (cs : List Char) : Except Error Host :=
  match cs with
  | '[' :: rest => readBracket rest
  | _ =>
      match (Utf8.decode? (decode cs)).bind Domain.toPlain? with
      | none => .error .badName
      | some [] => .error .emptyHost
      | some name =>
          if Address4.endsInNumber name then
            match Address4.read? name with
            | some n => .ok (.four n)
            | none => .error .badAddress4
          else .ok (.name (String.ofList name))

/- The characters that a host of any other scheme may not hold. -/
def isBadInName (c : Char) : Bool :=
  ['\x00', '\t', '\n', '\r', ' ', '#', '/', ':', '<', '>', '?', '@',
    '[', '\\', ']', '^', '|'].contains c

/- The host of a scheme that is not special. -/
def readName (cs : List Char) : Except Error Host :=
  match cs with
  | '[' :: rest => readBracket rest
  | _ =>
      if cs.any isBadInName then .error .badCharacter
      else .ok (.name (String.ofList (encode isControl cs)))

/- The host that a text is, if the text is not empty. -/
def readHost (kind : Kind) (cs : List Char) :
    Except Error (Option Host) :=
  if cs.isEmpty then
    if kind.isSpecial then .error .emptyHost else .ok none
  else if kind.isSpecial then (readDomain cs).map some
  else (readName cs).map some

/-
  The text of a host, and what follows it: a port or the end of
  the authority.  `bracket` tells whether a square bracket is
  open, in which colons belong to the host.
-/
def splitHost (kind : Kind) (bracket : Bool) :
    List Char → List Char × List Char
  | [] => ([], [])
  | c :: rest =>
      if (c == ':' && !bracket) || endsAuthority kind c then
        ([], c :: rest)
      else
        let inside :=
          if c == '[' then true else if c == ']' then false else bracket
        let (host, behind) := splitHost kind inside rest
        (c :: host, behind)

------------------------------------------------------------
-- Authorities
------------------------------------------------------------

/- The name of a user and a password, separated by a colon. -/
def readUser (cs : List Char) : String :=
  let name := encode inUser (cs.takeWhile (· != ':'))
  let password := encode inUser ((cs.dropWhile (· != ':')).drop 1)
  String.ofList (name ++
    (if password.isEmpty then [] else ':' :: password))

/- The port that a text is; none is left if it is the usual one. -/
def readPort (scheme : String) (cs : List Char) :
    Except Error (Option Nat) :=
  let port := Text.ofDigits 10 Text.digitValue cs
  if !cs.all Text.isDigit || 65535 < port then .error .badPort
  else if cs.isEmpty || usualPort? scheme == some port then .ok none
  else .ok (some port)

/- The port behind a host, and what follows it. -/
def takePort (scheme : String) :
    List Char → Except Error (Option Nat × List Char)
  | ':' :: rest => do
      let isEnd (c : Char) : Bool :=
        isAnySlash c || c == '?' || c == '#'
      let port ← readPort scheme (rest.takeWhile (!isEnd ·))
      return (port, rest.dropWhile (!isEnd ·))
  | cs => .ok (none, cs)

/- The text in front of the last `@` of an authority. -/
def userText? (kind : Kind) (cs : List Char) : Option (List Char) :=
  match (cs.takeWhile (!endsAuthority kind ·)).reverse.dropWhile
      (· != '@') with
  | [] => none
  | _ :: before => some before.reverse

/-
  The authority that a text starts with, and what follows it.
  Behind an `@` or in front of a colon there has to be a host.
-/
def takeAuthority (scheme : String) (cs : List Char) :
    Except Error (Authority × List Char) := do
  let kind := Kind.ofScheme scheme
  let userText := userText? kind cs
  let server := cs.drop (userText.elim 0 (·.length + 1))
  if userText == some [] && server.head?.any (endsAuthority kind) then
    throw .emptyHost
  let (hostText, rest) := splitHost kind false server
  let host ← readHost kind hostText
  if host.isNone && rest.head? == some ':' then throw .emptyHost
  let (port, rest) ← takePort scheme rest
  let user := readUser (userText.getD [])
  if host.isNone && !user.isEmpty then throw .emptyHost
  return (⟨user, host, port⟩, rest)

------------------------------------------------------------
-- Ends
------------------------------------------------------------

/- The query and the fragment that a text starts with. -/
def readEnd (kind : Kind) :
    List Char → Option (List Char) × Option (List Char)
  | '?' :: rest =>
      let query := rest.takeWhile (· != '#')
      let behind := rest.dropWhile (· != '#')
      (some (encode (inQuery kind.isSpecial) query),
        match behind with
        | _ :: fragment => some (encode inFragment fragment)
        | [] => none)
  | '#' :: rest => (none, some (encode inFragment rest))
  | _ => (none, none)

/- A URL with its path, and the end that follows the path. -/
def finish (scheme : String) (authority : Option Authority)
    (path rest : List Char) : Url :=
  let (query, fragment) := readEnd (.ofScheme scheme) rest
  ⟨scheme, authority, path, query, fragment⟩

/- A URL with another fragment. -/
def withFragment (base : Url) (rest : List Char) : Url :=
  { base with fragment := some (encode inFragment rest) }

------------------------------------------------------------
-- Kinds of URLs
------------------------------------------------------------

/- What follows two slashes: an authority and a path. -/
def readServer (scheme : String) (cs : List Char) :
    Except Error Url := do
  let (authority, rest) ← takeAuthority scheme cs
  let (path, rest) := readPathStart (.ofScheme scheme) true rest
  return finish scheme (some authority) path.path rest

/- What stands behind a scheme that is not special. -/
def readOther (scheme : String) (cs : List Char) :
    Except Error Url :=
  match cs with
  | '/' :: '/' :: rest => readServer scheme rest
  | '/' :: rest =>
      let (path, rest) := readPath .other true ['/'] rest
      .ok (finish scheme none path.path rest)
  | _ =>
      let isEnd (c : Char) : Bool := c == '?' || c == '#'
      .ok (finish scheme none
        (encode isControl (cs.takeWhile (!isEnd ·)))
        (cs.dropWhile (!isEnd ·)))

/- A text that is resolved against a URL which is not of files. -/
def readRelative (base : Url) (cs : List Char) :
    Except Error Url :=
  let kind := base.kind
  match cs with
  | [] => .ok base.dropFragment
  | '#' :: rest => .ok (withFragment base rest)
  | '?' :: _ => .ok (finish base.scheme base.authority base.path cs)
  | '/' :: '/' :: rest => readServer base.scheme rest
  | c :: rest =>
      if isAnySlash c then
        if (rest.head?.any isAnySlash) then
          readServer base.scheme (rest.dropWhile isAnySlash)
        else
          let (path, rest) := readPath kind true ['/'] rest
          .ok (finish base.scheme base.authority path.path rest)
      else
        let start := dropLast kind base.path
        let start := if start.isEmpty then ['/'] else start
        let (path, rest) := readPath kind true start (c :: rest)
        .ok (finish base.scheme base.authority path.path rest)

/- The text starts with a drive that is a whole segment. -/
def startsWithDrive (cs : List Char) : Bool :=
  isDrive (cs.take 2) &&
    match cs.drop 2 with
    | [] => true
    | c :: _ => isAnySlash c || c == '?' || c == '#'

/- The authority of files on a host, or on none. -/
def fileAuthority (host : Option Host) : Option Authority :=
  some ⟨"", host, none⟩

/- What stands behind two slashes in a URL of files. -/
def readFileServer (cs : List Char) : Except Error Url := do
  let isEnd (c : Char) : Bool :=
    isAnySlash c || c == '?' || c == '#'
  let name := cs.takeWhile (!isEnd ·)
  let rest := cs.dropWhile (!isEnd ·)
  if name.isEmpty || isDrive name then
    let rest := if name.isEmpty then rest else cs
    let (path, rest) := readPath .file false ['/'] rest
    return finish "file" (fileAuthority none) path.path rest
  else
    let host ← readDomain name
    if host = .name "localhost" then
      let (path, rest) := readPath .file false ['/'] rest
      return finish "file" (fileAuthority none) path.path rest
    else
      let (path, rest) := readPathStart .file true rest
      let host := if path.keepsHost then some host else none
      return finish "file" (fileAuthority host) path.path rest

/-
  A URL of files, or a text that is resolved against one.  A
  path from the root stays on the drive or on the host.
-/
def readFile (base : Option Url) (cs : List Char) :
    Except Error Url :=
  match cs, base with
  | c :: rest, _ =>
      if isAnySlash c then
        match rest with
        | d :: after =>
            if isAnySlash d then readFileServer after
            else .ok (fromRoot (c :: rest) rest)
        | [] => .ok (fromRoot (c :: rest) rest)
      else
        match base with
        | none => .ok (fresh (c :: rest))
        | some b =>
            if c == '?' then
              .ok (finish b.scheme b.authority b.path (c :: rest))
            else if c == '#' then .ok (withFragment b rest)
            else if startsWithDrive (c :: rest) then
              .ok (fresh (c :: rest))
            else
              let (path, rest) :=
                readPath .file true (dropLast .file b.path) (c :: rest)
              .ok (finish b.scheme b.authority path.path rest)
  | [], some b => .ok b.dropFragment
  | [], none => .ok (fresh [])
where
  /- A path on no host. -/
  fresh (cs : List Char) : Url :=
    let (path, rest) := readPath .file false ['/'] cs
    finish "file" (fileAuthority none) path.path rest
  /- A path from the root, on the drive or the host of the base. -/
  fromRoot (cs behind : List Char) : Url :=
    let first := ((base.bind segments?).bind List.head?).getD []
    let (start, host) :=
      if startsWithDrive behind then ([], none)
      else if isPlainDrive first then ('/' :: first, none)
      else ([], (base.bind (·.authority)).bind (·.host))
    let (path, rest) := readPath .file false start cs
    finish "file" (fileAuthority host) path.path rest

------------------------------------------------------------
-- All URLs
------------------------------------------------------------

/- What stands behind the scheme of a URL. -/
def readScheme (base : Option Url) (scheme : String)
    (cs : List Char) : Except Error Url :=
  match Kind.ofScheme scheme with
  | .other => readOther scheme cs
  | .file => readFile (base.filter (·.scheme == "file")) cs
  | .web =>
      match base.filter (·.scheme == scheme) with
      | some b =>
          if (cs.takeWhile isAnySlash).length < 2 then readRelative b cs
          else readServer scheme (cs.dropWhile isAnySlash)
      | none => readServer scheme (cs.dropWhile isAnySlash)

/- A text that may be resolved against a base. -/
def read (base : Option Url) (cs : List Char) : Except Error Url :=
  let cs := clean cs
  match takeScheme? cs with
  | some (scheme, rest) => readScheme base scheme rest
  | none =>
      match base with
      | none => .error .relative
      | some b =>
          match cs with
          | '#' :: rest => .ok (withFragment b rest)
          | _ =>
              if b.isFlat then .error .relativeToFlat
              else if b.kind == .file then readFile (some b) cs
              else readRelative b cs

/- The URL that a text is. -/
def parse (s : String) : Except Error Url :=
  read none s.toList

/- The URL that a text is in the place of another URL. -/
def join (base : Url) (s : String) : Except Error Url :=
  read (some base) s.toList

end Url

end Gleaner
