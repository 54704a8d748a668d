import Gleaner.Url.Basic
import Gleaner.Url.Encode

/-
  Reading the path of a URL: dots move between its segments,
  and the letters of drives get a colon.

  Key definitions include:
    * `Url.isDrive`
    * `Url.climb`
    * `Url.PathReading`
    * `Url.PathReading.add`
    * `Url.readPath`
-/

namespace Gleaner

namespace Url

------------------------------------------------------------
-- Segments
------------------------------------------------------------

/- A letter and a colon or bar, which name a drive. -/
def isDrive : List Char → Bool
  | [a, b] => Text.isLetter a && (b == ':' || b == '|')
  | _ => false

/- A letter and a colon, which name a drive. -/
def isPlainDrive (cs : List Char) : Bool :=
  isDrive cs && cs.getLast? == some ':'

/- The text without the dot that it starts with, encoded or not. -/
def dropDot? : List Char → Option (List Char)
  | '.' :: rest => some rest
  | '%' :: '2' :: e :: rest =>
      if e == 'e' || e == 'E' then some rest else none
  | _ => none

/- The segment is one dot. -/
def isDot (segment : List Char) : Bool :=
  dropDot? segment == some []

/- The segment is two dots. -/
def isDoubleDot (segment : List Char) : Bool :=
  (dropDot? segment).any isDot

/- A path up to its last slash. -/
def upToSlash (path : List Char) : List Char :=
  (path.reverse.dropWhile (· != '/')).reverse

/- The last segment of a path. -/
def lastSegment (path : List Char) : List Char :=
  (path.reverse.takeWhile (· != '/')).reverse

/-
  The path without its last full segment, which stays if it
  names a drive.
-/
def climb (path : List Char) : List Char :=
  match path.reverse with
  | '/' :: before =>
      let before := before.reverse
      if before.isEmpty || isDrive (lastSegment before) then path
      else upToSlash before
  | _ => upToSlash path

/- A path that ends in a slash. -/
def withSlash (path : List Char) : List Char :=
  if path.getLast? == some '/' then path else path ++ ['/']

/- A path without what follows its last slash, a drive apart. -/
def dropLast (kind : Kind) (path : List Char) : List Char :=
  if kind == .file && isPlainDrive (lastSegment path) then path
  else upToSlash path

------------------------------------------------------------
-- Paths
------------------------------------------------------------

/- A path as far as it is read, and whether the host is kept. -/
structure PathReading where
  path : List Char
  keepsHost : Bool
deriving DecidableEq, Repr

/- The slash behind a segment, if there is one. -/
def slashIf (slash : Bool) : List Char :=
  if slash then ['/'] else []

/-
  Put a segment behind a path.  `slash` tells whether a slash
  follows it.
-/
def PathReading.addSegment
    (kind : Kind)
    (r : PathReading)
    (segment : List Char)
    (slash : Bool) : PathReading :=
  if isDoubleDot segment then
    let path := climb r.path
    { r with path := if slash then withSlash path else path }
  else if isDot segment then
    { r with path := withSlash r.path }
  else if kind == .file && isDrive segment then
    ⟨r.path ++ segment.take 1 ++ [':'] ++ slashIf slash, false⟩
  else
    { r with path := r.path ++ segment ++ slashIf slash }

/-
  Put a segment behind a path.  In a path of files, a drive at
  the start is followed by a slash.
-/
def PathReading.add
    (kind : Kind)
    (r : PathReading)
    (segment : List Char)
    (slash : Bool) : PathReading :=
  if kind != .file then r.addSegment kind segment slash
  else if isPlainDrive (r.path.drop 1) && !segment.isEmpty then
    PathReading.addSegment kind
      { r with path := r.path ++ ['/'] } segment slash
  else if r.path == ['/'] && isPlainDrive (segment.take 2) &&
      2 < segment.length then
    { r with
      path := r.path ++ segment.take 2 ++ ['/'] ++ segment.drop 2 ++
        slashIf slash }
  else r.addSegment kind segment slash

/- The character ends a segment. -/
def isSlash (kind : Kind) (c : Char) : Bool :=
  c == '/' || (c == '\\' && kind.isSpecial)

/-
  Read a path up to its end, a query or a fragment.  `segment`
  is the segment that is being read.
-/
def readSegments (kind : Kind) (r : PathReading)
    (segment : List Char) : List Char → PathReading × List Char
  | [] => (r.add kind segment false, [])
  | c :: rest =>
      if isSlash kind c then
        readSegments kind (r.add kind segment true) [] rest
      else if c == '?' || c == '#' then
        (r.add kind segment false, c :: rest)
      else readSegments kind r (segment ++ encodeChar inPath c) rest

/-
  Read a path behind what is there of it.  A path of files has
  one slash in front.
-/
def readPath (kind : Kind) (keepsHost : Bool)
    (path input : List Char) : PathReading × List Char :=
  let (r, rest) := readSegments kind ⟨path, keepsHost⟩ [] input
  if kind == .file then
    ({ r with path := '/' :: r.path.dropWhile (· == '/') }, rest)
  else (r, rest)

/- Read the path that follows an authority. -/
def readPathStart (kind : Kind) (keepsHost : Bool)
    (input : List Char) : PathReading × List Char :=
  match input with
  | [] =>
      if kind.isSpecial then readPath kind keepsHost ['/'] []
      else (⟨[], keepsHost⟩, [])
  | c :: rest =>
      if isSlash kind c then readPath kind keepsHost ['/'] rest
      else if !kind.isSpecial && (c == '?' || c == '#') then
        (⟨[], keepsHost⟩, c :: rest)
      else readPath kind keepsHost ['/'] (c :: rest)

end Url

end Gleaner
