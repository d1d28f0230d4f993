import Postbox.Text.Utf8
import Postbox.Url.Domain.Label

/-!
# Domain names — hosts by name

  A name is written in ASCII, whatever it is given in: its characters are brought into their plain
  forms, it is cut at its full stops, and each label is written by itself. A label is refused for
  what it holds, a name for labels that do not go together.
-/

namespace Postbox.Url.Domain

/-- Whether a character may stand in a written name: a printable one of ASCII without a meaning in
    an address. -/
def isPermitted (c : Char) : Bool :=
  0x20 < c.toNat && c.toNat < 0x7F && !"%#/:<>?@[\\]^|".toList.contains c

/-- The written form of a name that is given in UTF-8. -/
def toAscii? (bytes : List UInt8) : Option String := do
  let name ← Text.ofUtf8? bytes
  let plain ← name.toList.mapM simplify?
  let labels ← ((Text.normalize plain.flatten).splitOn '.').mapM Label.read?
  let texts := labels.map Label.text
  let written := ['.'].intercalate (labels.map Label.written)
  if (texts.any hasRightward && !texts.all fitsDirection) || !written.all isPermitted then none
  else some (String.ofList written)

end Postbox.Url.Domain
