import Postbox.Duration
import Postbox.Url.Problem

/-!
# Fault — everything that can go wrong

  A fault is a cause, and `Fault.message` its wording. Four kinds come from the exchange with the
  service (`isExchange`); the other three from the settings or from what is on the screen. A kind
  whose wording is not one of this library's own has a constructor `stated`, which carries it.
-/

namespace Postbox

/-- Why a file or a directory could not be used. -/
inductive FileProblem
  | notFound
  | alreadyExists
  | notADirectory
  | isADirectory
  | nameTooLong
  | nulByte
  | notUtf8
deriving DecidableEq, Repr

namespace FileProblem

/-- The wording of a reason, as the operating system gives it. -/
def message : FileProblem → String
  | notFound      => "No such file or directory (os error 2)"
  | alreadyExists => "File exists (os error 17)"
  | notADirectory => "Not a directory (os error 20)"
  | isADirectory  => "Is a directory (os error 21)"
  | nameTooLong   => "File name too long (os error 36)"
  | nulByte       => "file name contained an unexpected NUL byte"
  | notUtf8       => "stream did not contain valid UTF-8"

end FileProblem

/-- Why settings cannot be used, read or written. -/
inductive SettingsProblem
  | url (p : Url.Problem)
  | scheme (name : String)
  | emptyRestPath
  | headerName (name : String)
  | headerValue
  | zeroTimeout
  | userAgent
  | noPathSegments
  | unreadable (p : FileProblem)
  | malformed
  | timeoutTooLarge
  | directory (p : FileProblem)
  | unwritable (p : FileProblem)
  | stated (text : String)
deriving DecidableEq, Repr

namespace SettingsProblem

/-- The wording of a reason. What the reader of the settings file says of a malformed one is not
    part of it. -/
def message : SettingsProblem → String
  | url p           => "Invalid URL: " ++ p.message
  | scheme name     => "Base URL must be http or https, got '" ++ name ++ "'"
  | emptyRestPath   => "REST path cannot be empty"
  | headerName name => "Invalid CSRF header name '" ++ name ++ "': invalid HTTP header name"
  | headerValue     => "Invalid CSRF token: failed to parse header value"
  | zeroTimeout     => "Request timeout must be greater than 0"
  | userAgent       => "Failed to build HTTP client: builder error"
  | noPathSegments  => "Collection URL cannot have path segments"
  | unreadable p    => "Failed to read config: " ++ p.message
  | malformed       => "Failed to parse config: "
  | timeoutTooLarge => "Failed to serialize config: out-of-range value for u64 type"
  | directory p     => "Failed to create config directory: " ++ p.message
  | unwritable p    => "Failed to write config: " ++ p.message
  | stated text     => text

end SettingsProblem

/-- Why no reply came. -/
inductive NetworkProblem
  | unreachable (url : String)
  | unsendable (url : String)
  | stated (text : String)
deriving DecidableEq, Repr

namespace NetworkProblem

/-- The wording of a reason. -/
def message : NetworkProblem → String
  | unreachable url => "error sending request for url (" ++ url ++ ")"
  | unsendable url  => "builder error for url (" ++ url ++ ")"
  | stated text     => text

end NetworkProblem

/-- Why the body of a reply cannot be used. -/
inductive ReplyProblem
  | notMessageList
  | notMessage (id : String)
  | saveReplyCutShort
  | notJson
  | stated (text : String)
deriving DecidableEq, Repr

namespace ReplyProblem

/-- The wording of a reason. What the reader of JSON says of a malformed text is not part of it. -/
def message : ReplyProblem → String
  | notMessageList    => "Failed to parse message list: error decoding response body"
  | notMessage id     => "Failed to parse message " ++ id ++ ": error decoding response body"
  | saveReplyCutShort => "Failed to read save response: error decoding response body"
  | notJson           => "JSON parsing error: "
  | stated text       => text

end ReplyProblem

/-- What went wrong. -/
inductive Fault
  | network (p : NetworkProblem)
  | timeout (limit : Duration)
  | status (code : Nat) (url : String)
  | invalidResponse (p : ReplyProblem)
  | settings (p : SettingsProblem)
  | notComposing
  | missingId
deriving DecidableEq, Repr

namespace Fault

/-- The text of a fault as it is shown. -/
def message : Fault → String
  | network p         => "Network error: " ++ p.message
  | timeout limit     => "Request timed out after " ++ limit.display
  | status code url   => "Message service returned status " ++ toString code ++ " for " ++ url
  | invalidResponse p => "Invalid response from message service: " ++ p.message
  | settings p        => "Configuration error: " ++ p.message
  | notComposing      => "No message is being composed"
  | missingId         => "Message has no id"

/-- Whether the fault comes from the exchange with the service. -/
def isExchange : Fault → Bool
  | network _ | timeout _ | status _ _ | invalidResponse _ => true
  | settings _ | notComposing | missingId                  => false

end Fault

end Postbox
