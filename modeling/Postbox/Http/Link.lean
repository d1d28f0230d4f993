import Postbox.Fault
import Postbox.Http.Header
import Postbox.Text.Base64
import Postbox.Url

/-!
# HTTP links — requests and what becomes of them

  A link carries requests to a service. What becomes of a request is a `Delivery`: no connection,
  silence, or a status with a body that comes whole, stops half-way, or breaks off. A link gives the
  deliveries of its list one after the other, and status 500 when none is left; a link that is down
  delivers nothing. Addresses that are not plain HTTP take no entry of the list.
-/

namespace Postbox.Http

/-- The two methods that are used. -/
inductive Method
  | get | post
deriving DecidableEq, Repr

/-- The word of a method. -/
def Method.word : Method → String
  | get  => "GET"
  | post => "POST"

/-- A request as it goes over the link. -/
structure Request where
  method  : Method
  url     : Url
  headers : Headers
  body    : String := ""
deriving DecidableEq, Repr

/-- The longest address, in bytes, that a request can be sent to. -/
def addressLimit : Nat := 65534

/-- Whether a request can be sent: its address is one of the web, is not too long, and has a host
    without quotes and braces. -/
def Request.isSendable (r : Request) : Bool :=
  let host := (r.url.authority.map Url.Authority.host).getD ""
  r.url.isHttp && r.url.write.utf8ByteSize ≤ addressLimit &&
    !host.toList.any fun c => "\"`\x7b\x7d".toList.contains c

/-- How the body of a reply arrives. -/
inductive Body
  | whole (bytes : List UInt8)
  | stalled
  | brokenOff
deriving DecidableEq, Repr

/-- What becomes of a request. -/
inductive Delivery
  | noConnection
  | silence
  | reply (status : Nat) (body : Body)
deriving DecidableEq, Repr

/-- The delivery when nothing else is left: an inner failure of the service, without a body. -/
def Delivery.exhausted : Delivery := .reply 500 (.whole [])

/-- Whether a reply with a status has a body at all. -/
def hasBody (status : Nat) : Bool := status ≠ 204 && status ≠ 304

/-- Whether a status means that the request was carried out. -/
def isSuccess (status : Nat) : Bool := 200 ≤ status && status < 300

/-- A link with the deliveries to come and the requests that went over it. -/
structure Link where
  isUp       : Bool := true
  deliveries : List Delivery := []
  sent       : List Request := []
deriving Repr

/-- What becomes of a request to a service that speaks HTTP, and the link after it. -/
def Link.exchange (r : Request) (l : Link) : Delivery × Link :=
  if l.isUp && r.url.scheme == "http" then
    (l.deliveries.headD .exhausted,
      { l with deliveries := l.deliveries.tail, sent := l.sent ++ [r] })
  else (.noConnection, l)

/-- The header by which the user of an address is named to the service. A password that is no text
    is left out; a user name that is none means that the user is not named. -/
def authorization? (u : Url) : Option (String × String) := do
  let authority ← u.authority
  let name ← Text.ofUtf8? (Url.unescape authority.user.toList)
  let password :=
    if authority.password.isEmpty then none
    else Text.ofUtf8? (Url.unescape authority.password.toList)
  if name.isEmpty && password.isNone then none
  else
    let credentials := Text.base64 (Text.utf8 (name ++ ":" ++ password.getD "").toList)
    some ("authorization", "Basic " ++ String.ofList credentials)

/-- The request to an address, with the headers that every request has. The user of the address is
    named by a header instead, in place of any other of that name. -/
def Request.to (method : Method) (u : Url) (headers : Headers) (body : String) : Request :=
  match authorization? u with
  | some (name, value) =>
    ⟨method, u.withoutUser, Headers.withDefaults headers [(name, value)], body⟩
  | none               => ⟨method, u, headers, body⟩

end Postbox.Http
