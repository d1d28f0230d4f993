import Postbox.Http.Link
import Postbox.Message.Record
import Postbox.Service
import Postbox.Settings
import Postbox.Text.Utf8

/-!
# Remote — a collection behind HTTP

  A service whose calls are requests: listing and getting are GET requests for the collection and
  for the address of one message below it, creating is a POST request with the draft as its body.
  Each call sends one request, and what becomes of it decides the answer (`answer`): a status comes
  before a body, and a draft that was accepted is saved whatever the body says.
-/

namespace Postbox

/-- What is needed to send requests for a collection. -/
structure Remote where
  collection : Url
  headers    : Http.Headers
  timeout    : Option Duration
deriving DecidableEq, Repr

namespace Remote

/-- The headers of every request. The CSRF header takes the place of one of the same name, but not
    of the user agent's. -/
def headersOf (s : Settings) : Except SettingsProblem Http.Headers := do
  let json : Http.Headers := [("content-type", "application/json"), ("accept", "application/json")]
  let withToken ← match s.csrf with
    | none   => pure json
    | some c => c.toHeader.map fun (name, value) => json.set name value
  if !Http.isHeaderValue s.userAgent then throw .userAgent
  return withToken.set "user-agent" s.userAgent

/-- What is needed to send requests by the settings, if they are valid. -/
def ofSettings (s : Settings) : Except SettingsProblem Remote := do
  s.validate
  let headers ← headersOf s
  return { collection := ← s.collectionUrl, headers := headers, timeout := s.timeout }

/-- The address of one message: one segment below the collection. -/
def messageUrl (r : Remote) (id : MessageId) : Except SettingsProblem Url :=
  match r.collection.push? id.display with
  | some u => .ok u
  | none   => .error .noPathSegments

/-- What a delivery means: the bytes of the body, or a fault. -/
def answer (r : Remote) (url : Url) (broken : ReplyProblem) :
    Http.Delivery → Except Fault (List UInt8)
  | .noConnection      => .error (.network (.unreachable url.write))
  | .silence           => .error (.timeout (r.timeout.getD (.ofSecs 0)))
  | .reply status body =>
    if !Http.isSuccess status then .error (.status status url.write)
    else match (if Http.hasBody status then body else .whole []) with
      | .whole bytes => .ok bytes
      | .stalled     => .error (.timeout (r.timeout.getD (.ofSecs 0)))
      | .brokenOff   => .error (.invalidResponse broken)

/-- Sends a request and reads the body of the reply. A body of which nothing can be made is
    `broken`. -/
def call (r : Remote) (method : Http.Method) (url : Url) (body : String) (broken : ReplyProblem)
    (read : List UInt8 → Option α) (l : Http.Link) : Except Fault α × Http.Link :=
  let request := Http.Request.to method url r.headers body
  if !request.isSendable then (.error (.network (.unsendable request.url.write)), l)
  else
    let (delivery, l) := l.exchange request
    let result := do
      let bytes ← r.answer request.url broken delivery
      match read bytes with
      | some a => .ok a
      | none   => .error (.invalidResponse broken)
    (result, l)

/-- Gets the collection. -/
def list (r : Remote) : Http.Link → Except Fault (List Message) × Http.Link :=
  r.call .get r.collection "" .notMessageList fun bytes => Message.readList? (Text.ofUtf8 bytes)

/-- Gets one message. -/
def get (r : Remote) (id : MessageId) (l : Http.Link) : Except Fault Message × Http.Link :=
  match r.messageUrl id with
  | .error e => (.error (.settings e), l)
  | .ok url  =>
    r.call .get url "" (.notMessage id.display) (fun bytes => Message.read? (Text.ofUtf8 bytes)) l

/-- Posts a draft, and gives the records that the reply holds. -/
def create (r : Remote) (draft : Message) : Http.Link → Except Fault (List Message) × Http.Link :=
  r.call .post r.collection draft.write .saveReplyCutShort fun bytes =>
    some (Message.ofReply ((Text.ofUtf8Lossy bytes).map some))

/-- The collection as a service. -/
def service (r : Remote) : Service Http.Link := ⟨r.list, r.get, r.create⟩

end Remote

end Postbox
