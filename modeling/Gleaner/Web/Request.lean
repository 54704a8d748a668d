import Gleaner.Text.Utf8
import Gleaner.Url.Parse
import Gleaner.Web.Charset
import Gleaner.Web.Status

/-
  Requests to servers and what comes back.

  Key definitions include:
    * `Web.Request`
    * `Web.Response`
    * `Web.Transport`
    * `Web.isAgent`
    * `Web.send`
-/

namespace Gleaner

namespace Web

/- What is wanted of a server. -/
inductive Verb
  | get
  | post
deriving DecidableEq, Repr

/- A request, with the headers that differ between requests. -/
structure Request where
  verb : Verb
  url : String
  accept : Option String
  contentType : Option String
  body : List UInt8
deriving DecidableEq, Repr

/- What a server answers. -/
structure Response where
  status : Status
  contentType : Option String
  body : List UInt8
deriving DecidableEq, Repr

/- The text of an answer. -/
def Response.text (r : Response) : String :=
  decodeBody r.contentType r.body

/- The network: some requests are answered, all others fail. -/
abbrev Transport := Request → Option Response

/- The network that answers nothing. -/
def offline : Transport :=
  fun _ => none

/- A text can stand in a header as the name of the program. -/
def isAgent (s : String) : Bool :=
  (Utf8.encode s.toList).all fun b =>
    (32 ≤ b.toNat && b.toNat != 127) || b.toNat == 9

/- The address of a request: it has a host and no fragment. -/
def target? (address : String) : Option String :=
  match Url.parse address with
  | .ok url =>
      if url.host?.isSome then some url.dropFragment.text else none
  | .error _ => none

/- A request for what is at an address. -/
def getRequest (address : String) : Option Request :=
  (target? address).map fun url => ⟨.get, url, none, none, []⟩

/- A request that sends a body to an address. -/
def postRequest
    (address : String)
    (accept : Option String)
    (contentType body : String) : Option Request :=
  (target? address).map fun url =>
    ⟨.post, url, accept, some contentType, Utf8.encode body.toList⟩

/- The answer to a request that may not even be possible. -/
def send (net : Transport) (request : Option Request) :
    Option Response :=
  request.bind net

end Web

end Gleaner
