/-!
# HTTP headers — names, values and lists of them

  A name is a token, compared without regard to case and therefore kept in lower case. A value is
  a text without control characters other than the tab. In a list of headers each name stands once.
-/

namespace Postbox.Http

/-- The characters of a token. -/
def isTokenChar (c : Char) : Bool :=
  c.isAlphanum || "!#$%&'*+-.^_`|~".toList.contains c

/-- The longest name. -/
def maxNameLength : Nat := 65535

/-- The name that a text is in lower case, if it is a token. -/
def headerName? (s : String) : Option String :=
  let cs := s.toList
  if cs.isEmpty || cs.length > maxNameLength || !cs.all isTokenChar then none
  else some (String.ofList (cs.map Char.toLower))

/-- Whether a text can be the value of a header. -/
def isHeaderValue (s : String) : Bool :=
  s.toList.all fun c => c == '\t' || (c.toNat ≥ 0x20 && c.toNat ≠ 0x7F)

/-- Names with their values. -/
abbrev Headers := List (String × String)

namespace Headers

/-- The value of a name. -/
def get? (name : String) (hs : Headers) : Option String :=
  (hs.find? fun h => h.1 == name).map Prod.snd

/-- The headers with the value of one name, in place of any value it had. -/
def set (name value : String) (hs : Headers) : Headers :=
  (hs.filter fun h => h.1 != name) ++ [(name, value)]

/-- The headers, with those of `defaults` whose names are missing. -/
def withDefaults (defaults hs : Headers) : Headers :=
  hs ++ defaults.filter fun d => (hs.get? d.1).isNone

end Headers

end Postbox.Http
