import Gleaner.Url.Address

/-
  Addresses of resources on the web.

  Key definitions include:
    * `Url.Host`
    * `Url.Authority`
    * `Url`
    * `Url.Kind`
    * `Url.host?`
    * `Url.segments?`
    * `Url.origin`
    * `Url.write`
-/

namespace Gleaner

------------------------------------------------------------
-- Parts
------------------------------------------------------------

/- A host by its name or by its numeric address. -/
inductive Url.Host
  | name (s : String)
  | four (n : Nat)
  | six (pieces : List Nat)
deriving DecidableEq, Repr

/-
  Who offers the resource.  `user` holds the name of a user,
  and behind a colon a password.
-/
structure Url.Authority where
  user : String
  host : Option Url.Host
  port : Option Nat
deriving DecidableEq, Repr

/-
  A URL.  Without an authority, a path that does not start with
  a slash is flat: nothing can be resolved against it.
-/
structure Url where
  scheme : String
  authority : Option Url.Authority
  path : List Char
  query : Option (List Char)
  fragment : Option (List Char)
deriving DecidableEq, Repr

namespace Url

------------------------------------------------------------
-- Schemes
------------------------------------------------------------

/- The kinds of schemes: files, the web, and all others. -/
inductive Kind
  | file
  | web
  | other
deriving DecidableEq, Repr

/- The kind of a scheme. -/
def Kind.ofScheme (scheme : String) : Kind :=
  if scheme == "file" then .file
  else if ["http", "https", "ws", "wss", "ftp"].contains scheme then
    .web
  else .other

/- Schemes for which a backslash is a slash. -/
def Kind.isSpecial (k : Kind) : Bool :=
  k != .other

/- The port of a scheme when none is given. -/
def usualPort? (scheme : String) : Option Nat :=
  if scheme == "http" || scheme == "ws" then some 80
  else if scheme == "https" || scheme == "wss" then some 443
  else if scheme == "ftp" then some 21
  else none

/- The kind of the scheme of a URL. -/
def kind (u : Url) : Kind :=
  .ofScheme u.scheme

------------------------------------------------------------
-- Writing
------------------------------------------------------------

/- The host as it stands in a URL. -/
def Host.write : Host → List Char
  | .name s => s.toList
  | .four n => Address4.write n
  | .six pieces => '[' :: Address6.write pieces ++ [']']

/- The user, the host and the port, behind two slashes. -/
def Authority.write (a : Authority) : List Char :=
  ['/', '/'] ++
    (if a.user.isEmpty then [] else a.user.toList ++ ['@']) ++
    (a.host.elim [] Host.write) ++
    (a.port.elim [] fun p => ':' :: Text.showNat p)

/-
  What stands in front of the path.  Two slashes of a path must
  not be taken for an authority.
-/
def front (u : Url) : List Char :=
  u.scheme.toList ++ [':'] ++
    match u.authority with
    | some a => a.write
    | none =>
        if Text.startsWith ['/', '/'] u.path then ['/', '.'] else []

/- The text of a URL. -/
def write (u : Url) : List Char :=
  u.front ++ u.path ++ (u.query.elim [] ('?' :: ·)) ++
    (u.fragment.elim [] ('#' :: ·))

/- The text of a URL. -/
def text (u : Url) : String :=
  String.ofList u.write

------------------------------------------------------------
-- Properties
------------------------------------------------------------

/- The host of a URL. -/
def host? (u : Url) : Option String :=
  (u.authority.bind (·.host)).map fun h => String.ofList h.write

/- Nothing can be resolved against the path. -/
def isFlat (u : Url) : Bool :=
  u.authority.isNone && !Text.startsWith ['/'] u.path

/- The parts of a path between slashes, unless it is flat. -/
def segments? (u : Url) : Option (List (List Char)) :=
  match u.path with
  | '/' :: rest => some (Text.cutAt (· == '/') rest)
  | _ => none

/- The scheme, host and port of a resource on the web. -/
def origin (u : Url) : String :=
  match u.kind, u.authority.bind (·.host) with
  | .web, some host =>
      let port := u.authority.bind (·.port)
      String.ofList (u.scheme.toList ++ [':', '/', '/'] ++ host.write ++
        port.elim [] fun p => ':' :: Text.showNat p)
  | _, _ => "null"

/- A URL without its fragment. -/
def dropFragment (u : Url) : Url :=
  { u with fragment := none }

end Url

end Gleaner
