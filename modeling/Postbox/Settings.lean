import Postbox.Fault
import Postbox.Http.Header
import Postbox.Url.Reader

/-!
# Settings — where the service is and how to talk to it

  Settings are plain values; `Settings.validate` tells whether they can be used, and names the first
  thing that is wrong, in the order base address, REST path, CSRF header, timeout. The collection's
  address is the REST path relative to the base address, both with a slash at their ends.
-/

namespace Postbox

/-- A header that is sent with every request. -/
structure CsrfToken where
  header : String
  token  : String
deriving DecidableEq, Repr

/-- The name, in lower case, and the value of the header. -/
def CsrfToken.toHeader (c : CsrfToken) : Except SettingsProblem (String × String) :=
  match Http.headerName? c.header with
  | none      => .error (.headerName c.header)
  | some name => if Http.isHeaderValue c.token then .ok (name, c.token) else .error .headerValue

/-- Where the service is and how to talk to it. Without a timeout a request waits for ever. -/
structure Settings where
  baseUrl     : String := "http://localhost:8080/"
  restPath    : String := "rest/"
  timeoutSecs : Option Nat := some 30
  userAgent   : String := "message-inbox/0.1.0"
  csrf        : Option CsrfToken := none
deriving DecidableEq, Repr

namespace Settings

/-- The settings that hold where nothing else is said. -/
def standard : Settings := {}

/-- The longest wait for a reply. -/
def timeout (s : Settings) : Option Duration := s.timeoutSecs.map Duration.ofSecs

/-- Whether the settings can be used, or else the first thing that is wrong. -/
def validate (s : Settings) : Except SettingsProblem Unit := do
  let base ← (Url.read s.baseUrl).mapError .url
  if !base.isHttp then throw (.scheme base.scheme)
  if (Text.strip (· == '/') s.restPath.toList).isEmpty then throw .emptyRestPath
  if let some csrf := s.csrf then
    let _ ← csrf.toHeader
  if s.timeoutSecs = some 0 then throw .zeroTimeout

/-- The REST path without slashes in front and with one at its end. -/
def relativePath (s : Settings) : String :=
  let path := s.restPath.toList.dropWhile (· == '/')
  String.ofList (if path.getLast? == some '/' then path else path ++ ['/'])

/-- The address of the collection. -/
def collectionUrl (s : Settings) : Except SettingsProblem Url := do
  let base ← (Url.read s.baseUrl).mapError .url
  (base.withSlash.join s.relativePath).mapError .url

end Settings

end Postbox
