import Gleaner.Text.Cut
import Gleaner.Url.Encode
import Gleaner.Url.Parse

/-
  Where a shop offers the data of its products.

  Key definitions include:
    * `Web.Endpoint`
    * `Web.Endpoint.Error`
    * `Web.Endpoint.ofAddress`
-/

namespace Gleaner

namespace Web

/- An address, and the form that is sent there. -/
structure Endpoint where
  address : String
  form : String
deriving DecidableEq, Repr

namespace Endpoint

/- The ways in which a page has no endpoint. -/
inductive Fault
  | url (e : Url.Error)
  | noHost
  | noSegment
deriving DecidableEq, Repr

/- A page without an endpoint, and why. -/
structure Error where
  address : String
  fault : Fault
deriving DecidableEq, Repr

/- The wording of an error. -/
def Error.message (e : Error) : String :=
  match e.fault with
  | .url reason =>
      "invalid page url " ++ e.address ++ ": " ++ reason.message
  | .noHost => "page url has no host: " ++ e.address
  | .noSegment => "page url has no product segment: " ++ e.address

/- The path that all shops offer their data under. -/
def path : String := "/product/product/index"

/- The host that offers the data of a shop. -/
def hostOf (host : String) : String :=
  String.ofList
    (Text.replaceFirst "www".toList "api".toList host.toList)

/- The last part of a path, unless it is empty. -/
def segment? (url : Url) : Option String :=
  (url.segments?.bind (·.getLast?)).bind fun segment =>
    if segment.isEmpty then none else some (String.ofList segment)

/- The endpoint for the product on a page. -/
def ofAddress (address : String) : Except Error Endpoint :=
  match Url.parse address with
  | .error e => .error ⟨address, .url e⟩
  | .ok url =>
      match url.host?, segment? url with
      | none, _ => .error ⟨address, .noHost⟩
      | some _, none => .error ⟨address, .noSegment⟩
      | some host, some segment =>
          .ok ⟨url.scheme ++ "://" ++ hostOf host ++ path,
            "subdom=" ++ Url.encodeForm segment⟩

end Endpoint

end Web

end Gleaner
