import Postbox.Hex
import Postbox.Text.Utf8

/-!
# Percent-encoding — characters that a part of an address cannot hold

  A character outside of ASCII, and one of the set of the part, is written as its UTF-8 bytes, each
  as a percent sign and two hexadecimal digits. Each part of an address has its own set; the sets
  grow from `controls` on.
-/

namespace Postbox.Url

/-! Sets of ASCII characters that are written as escapes, one for each part of an address. -/

namespace Reserved

/-- The control characters of ASCII. -/
def controls (c : Char) : Bool := c.toNat < 0x20 || c == '\x7f'

/-- The set of a query. -/
def query (c : Char) : Bool := controls c || " \"#<>".toList.contains c

/-- The set of a query under a special scheme. -/
def specialQuery (c : Char) : Bool := query c || c == '\x27'

/-- The set of a fragment. -/
def fragment (c : Char) : Bool := controls c || " \"<>`".toList.contains c

/-- The set of a path that is written as a whole. -/
def path (c : Char) : Bool := fragment c || "#?\x7b\x7d".toList.contains c

/-- The set of one segment that is added to a path. -/
def segment (c : Char) : Bool := path c || c == '/' || c == '%'

/-- The set of one segment that is added to a path under a special scheme. -/
def specialSegment (c : Char) : Bool := segment c || c == '\\'

/-- The set of user name and password. -/
def userInfo (c : Char) : Bool := path c || "/:;=@[\\]^|".toList.contains c

end Reserved

/-- The escape of a byte. -/
def escapeByte (b : UInt8) : List Char :=
  ['%', Hex.upper (b.toNat / 16), Hex.upper (b.toNat % 16)]

/-- A character as it is written in a part with the given set. -/
def escapeChar (reserved : Char → Bool) (c : Char) : List Char :=
  if c.toNat ≥ 0x80 || reserved c then (String.utf8EncodeChar c).flatMap escapeByte else [c]

/-- A text as it is written in a part with the given set. -/
def escape (reserved : Char → Bool) (cs : List Char) : List Char :=
  cs.flatMap (escapeChar reserved)

/-- The bytes of a text in which escapes stand for the bytes they denote. A percent sign that
    begins no escape stands for itself. -/
def unescape : List Char → List UInt8
  | [] => []
  | '%' :: a :: b :: rest =>
    match Hex.digit? a, Hex.digit? b with
    | some a, some b => UInt8.ofNat (a * 16 + b) :: unescape rest
    | _, _           => 0x25 :: unescape (a :: b :: rest)
  | c :: rest => String.utf8EncodeChar c ++ unescape rest

end Postbox.Url
