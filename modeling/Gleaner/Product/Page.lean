import Gleaner.Digest.Md5
import Gleaner.Text.Blank
import Gleaner.Text.Quoted
import Gleaner.Url.Parse

/-
  Landing pages: what their addresses say about the shop, and
  where the media that they refer to are found.

  Key definitions include:
    * `domainHash`
    * `Page`
    * `Page.Error`
    * `Page.ofAddress`
    * `Page.mediaUrl?`
-/

namespace Gleaner

------------------------------------------------------------
-- Pages
------------------------------------------------------------

/- The digest of the name of a domain. -/
def domainHash (domain : String) : String :=
  Md5.hex (Text.strip domain)

/-
  A landing page: its address as it was given but for white
  space around it, and its host.
-/
structure Page where
  address : String
  url : Url
  host : String
deriving DecidableEq, Repr

/- The ways in which an address is of no use. -/
inductive Page.Fault
  | url (e : Url.Error)
  | noHost
deriving DecidableEq, Repr

/- An address that is of no use, and why. -/
structure Page.Error where
  address : String
  fault : Fault
deriving DecidableEq, Repr

namespace Page

/- The wording of a fault. -/
def Fault.message : Fault → String
  | .url e => e.message
  | .noHost => "no host"

/- The wording of an error, with the address as it was given. -/
def Error.message (e : Error) : String :=
  "invalid page url " ++ Quoted.encode e.address ++ ": " ++
    e.fault.message

/- The page at an address. -/
def ofAddress (given : String) : Except Error Page :=
  let address := Text.strip given
  match Url.parse address with
  | .error e => .error ⟨given, .url e⟩
  | .ok url =>
      match url.host? with
      | none => .error ⟨given, .noHost⟩
      | some host => .ok ⟨address, url, host⟩

/- The digest under which the templates of the shop are kept. -/
def domain (p : Page) : String :=
  domainHash p.host

------------------------------------------------------------
-- Media
------------------------------------------------------------

/- A reference without line ends, blanks around it and a query. -/
def cleanReference (raw : String) : List Char :=
  let flat := raw.toList.filter fun c => c != '\r' && c != '\n'
  (Text.trim flat).takeWhile (· != '?')

/- A reference in the place of the root of the site. -/
def fromRoot? (p : Page) (reference : List Char) : Option String :=
  match Url.parse p.url.origin with
  | .error _ => none
  | .ok root =>
      match root.join (String.ofList reference) with
      | .ok url => some url.text
      | .error _ => none

/-
  Where a medium is that the page refers to.  References that
  are blank or hold their data have no place.
-/
def mediaUrl? (p : Page) (raw : String) : Option String :=
  let reference := cleanReference raw
  let starts (s : String) : Bool :=
    Text.startsWith s.toList reference
  if reference.isEmpty || starts "data:" then none
  else if starts "http" then some (String.ofList reference)
  else if starts "//" then
    some (String.ofList ("http:".toList ++ reference))
  else if starts "/" then
    some (p.url.origin ++ String.ofList reference)
  else p.fromRoot? reference

/- Where media are that the page refers to. -/
def mediaUrls (p : Page) (references : List String) : List String :=
  references.filterMap p.mediaUrl?

end Page

end Gleaner
