import Postbox.Text
import Postbox.Url.Percent

/-!
# Url — addresses and their text

  An address has a scheme, perhaps an authority (user, host, TCP number), a path, and perhaps a
  query and a fragment. A path is a list of segments, each with a slash before it, or a flat text
  that no slash begins; an address with a flat path cannot be the base of another. The parts are
  kept in the form in which they are written.
-/

namespace Postbox

namespace Url

/-- Who is addressed. An empty host is possible outside of the special schemes. -/
structure Authority where
  user       : String := ""
  password   : String := ""
  host       : String := ""
  portNumber : Option Nat := none
deriving DecidableEq, Repr

/-- A list of segments with a slash before each, or a flat text. -/
inductive Path
  | segments (names : List String)
  | flat (text : String)
deriving DecidableEq, Repr

end Url

/-- An address, part by part. -/
structure Url where
  scheme    : String
  authority : Option Url.Authority := none
  path      : Url.Path
  query     : Option String := none
  fragment  : Option String := none
deriving DecidableEq, Repr

namespace Url

/-- The TCP number that a scheme has unless another is given. -/
def defaultPortNumber? : String → Option Nat
  | "http" | "ws"   => some 80
  | "https" | "wss" => some 443
  | "ftp"           => some 21
  | _               => none

/-- The schemes whose addresses have a host and a hierarchical path. -/
def isSpecial (scheme : String) : Bool :=
  scheme == "file" || (defaultPortNumber? scheme).isSome

namespace Authority

/-- User name and password, as they stand before the host. -/
def userInfo (a : Authority) : String :=
  if a.user.isEmpty && a.password.isEmpty then ""
  else a.user ++ (if a.password.isEmpty then "" else ":" ++ a.password) ++ "@"

/-- The text of an authority. -/
def write (a : Authority) : String :=
  a.userInfo ++ a.host ++ (a.portNumber.map fun n => ":" ++ toString n).getD ""

/-- The authority without user name and password. -/
def withoutUser (a : Authority) : Authority := { a with user := "", password := "" }

end Authority

namespace Path

/-- The text of a path. -/
def write : Path → String
  | segments names => String.join (names.map fun s => "/" ++ s)
  | flat text      => text

end Path

/-- The text of an address. Where no authority stands before a path that begins with an empty
    segment, a single dot keeps the two slashes from being read as one. -/
def write (u : Url) : String :=
  let path := u.path.write
  u.scheme ++ ":" ++
  (match u.authority with
    | some a => "//" ++ a.write
    | none   => if path.startsWith "//" then "/." else "") ++
  path ++ (u.query.map ("?" ++ ·)).getD "" ++ (u.fragment.map ("#" ++ ·)).getD ""

/-- The address without user name and password. -/
def withoutUser (u : Url) : Url := { u with authority := u.authority.map Authority.withoutUser }

/-- The address without a fragment. -/
def withoutFragment (u : Url) : Url := { u with fragment := none }

/-- Whether the scheme is one of the two that requests can be sent by. -/
def isHttp (u : Url) : Bool := u.scheme == "http" || u.scheme == "https"

end Url

end Postbox
