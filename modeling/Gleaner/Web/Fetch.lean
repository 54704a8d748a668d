import Gleaner.Extraction.Assemble
import Gleaner.Json.Print
import Gleaner.Product.Query
import Gleaner.Web.Endpoint
import Gleaner.Web.OrderLink
import Gleaner.Web.Request

/-
  What is asked of servers on the way to a record, and when a
  record is published.

  Key definitions include:
    * `Web.Error`
    * `Web.Error.message?`
    * `Web.fetchPage`
    * `Web.fetchMedia`
    * `Web.publish`
-/

namespace Gleaner

namespace Web

------------------------------------------------------------
-- Errors
------------------------------------------------------------

/- The ways in which nothing comes back that is of use. -/
inductive Error
  | transport
  | status (action address : String) (status : Status)
  | endpoint (e : Endpoint.Error)
deriving DecidableEq, Repr

/- The wording of an error; the network has words of its own. -/
def Error.message? : Error → Option String
  | .transport => none
  | .status action address s =>
      some ("failed to " ++ action ++ " " ++ address ++ ": " ++ s.text)
  | .endpoint e => some e.message

/-
  A response, if it says that the request was served.  `action`
  and `address` tell what was tried otherwise.
-/
def served (action address : String) :
    Option Response → Except Error Response
  | none => .error .transport
  | some r =>
      if r.status.isSuccess then .ok r
      else .error (.status action address r.status)

------------------------------------------------------------
-- Pages
------------------------------------------------------------

/- The text of a page. -/
def fetchText (net : Transport) (address : String) :
    Except Error String :=
  (served "fetch" address (send net (getRequest address))).map
    Response.text

/-
  A page of markup, with its order page if the template tells
  how to find it.  Without a link to the order page the page is
  of no use as it was sent.  An order page that cannot be
  fetched is passed over.
-/
def fetchMarkup
    (net : Transport)
    (address : String)
    (order : List Selector) : Except Error (Option Content) := do
  let body ← fetchText net address
  if order.isEmpty then return some (.markup body none)
  match orderLink? body address order with
  | none => return none
  | some link =>
      return some (.markup body (fetchText net link).toOption)

/- The data of the product on a page. -/
def fetchData (net : Transport) (address : String) :
    Except Error Content :=
  match Endpoint.ofAddress address with
  | .error e => .error (.endpoint e)
  | .ok endpoint =>
      let request :=
        postRequest endpoint.address
          (some "application/json, text/plain, */*")
          "application/x-www-form-urlencoded" endpoint.form
      (served "post" endpoint.address (send net request)).map fun r =>
        .data r.body

/- What a template is applied to, if it comes without a browser. -/
def fetchPage (net : Transport) (address : String) (t : Template) :
    Except Error (Option Content) :=
  match t.kind with
  | .json => (fetchData net address).map some
  | .html | .web => fetchMarkup net address t.order

------------------------------------------------------------
-- Media and Events
------------------------------------------------------------

/- The bytes of a medium. -/
def fetchMedia (net : Transport) (address : String) :
    Except Error (List UInt8) :=
  (served "download" address (send net (getRequest address))).map
    Response.body

/-
  Send the event of a record to an address, if there is one.
  It does not matter what is answered, as long as something is.
-/
def publish (net : Transport) (hook : Option String) (r : Record) :
    Except Error Unit :=
  match hook with
  | none => .ok ()
  | some address =>
      let request :=
        postRequest address none "application/json" r.event.compact
      match send net request with
      | none => .error .transport
      | some _ => .ok ()

end Web

end Gleaner
