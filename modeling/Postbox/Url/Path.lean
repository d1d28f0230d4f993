import Postbox.Url

/-!
# Url paths — segments between slashes

  A path is read part by part, from left to right. `Trail` holds the segments so far. A part of one
  dot is left out, one of two dots takes the segment before it away; escaped dots count as dots. The
  path of a file may begin with a drive, whose bar becomes a colon. A path can also grow by one
  segment from a plain text (`Path.push`), in which slashes, dots written as escapes and percent
  signs have no meaning.
-/

namespace Postbox.Url

/-- Tabs and line breaks, which an address is freed of. -/
def isBreak (c : Char) : Bool := c == '\t' || c == '\n' || c == '\r'

/-- A text without tabs and line breaks. -/
def withoutBreaks (cs : List Char) : List Char := cs.filter fun c => !isBreak c

/-- Slashes; under a special scheme backslashes too. -/
def isSlash (special : Bool) (c : Char) : Bool := c == '/' || (special && c == '\\')

/-! ## Segments -/

/-- A letter with a colon or a bar behind it. -/
def isDrive (segment : List Char) : Bool :=
  match segment with
  | [letter, mark] => letter.isAlpha && (mark == ':' || mark == '|')
  | _              => false

/-- A drive with a colon. -/
def isProperDrive (segment : List Char) : Bool := isDrive segment && segment.getLast? == some ':'

/-- Whether two dots do not leave a segment: a drive, alone or with a backslash behind it. -/
def isHeld (segment : List Char) : Bool := isDrive (segment.takeWhile (· != '\\'))

/-- A segment in lower case with its escaped dots unescaped. -/
def unescapeDots : List Char → List Char
  | '%' :: '2' :: e :: rest =>
    if e == 'e' || e == 'E' then '.' :: unescapeDots rest
    else '%' :: '2' :: unescapeDots (e :: rest)
  | c :: rest => c :: unescapeDots rest
  | []        => []

/-- Whether a segment stands for the place where it is. -/
def isHere (segment : List Char) : Bool := unescapeDots segment == ['.']

/-- Whether a segment stands for the place above. -/
def isAbove (segment : List Char) : Bool := unescapeDots segment == ['.', '.']

/-- The drive in front of a part, if a break and then something else follows it, and what that
    is. -/
def cutDrive? (part : List Char) : Option (List Char × List Char) :=
  match part.dropWhile isBreak with
  | []             => none
  | letter :: rest =>
    match rest.dropWhile isBreak with
    | ':' :: c :: rest =>
      if letter.isAlpha && isBreak c && !(withoutBreaks rest).isEmpty then
        some ([letter, ':'], withoutBreaks rest)
      else none
    | _ => none

/-! ## Trails -/

/-- The segments of a path that is being read, the last one first, and whether the first of them has
    been found to be a drive. -/
structure Trail where
  behind  : List String := []
  onDrive : Bool := false

namespace Trail

/-- One segment further. -/
def enter (segment : List Char) (t : Trail) : Trail :=
  { t with behind := String.ofList segment :: t.behind }

/-- One segment back, unless it is held. -/
def leave (t : Trail) : Trail :=
  match t.behind with
  | []           => t
  | last :: rest => if isHeld last.toList then t else { t with behind := rest }

/-- The trail after another part of the path's text, in which the characters of a set are written as
    escapes. The last part of a path leads to a place: dots there are followed by a slash. -/
def read (scheme : String) (reserved : Char → Bool) (isLast : Bool) (part : List Char)
    (t : Trail) : Trail :=
  let mayBeDrive := scheme == "file" && t.behind.isEmpty
  match (if mayBeDrive then cutDrive? part else none) with
  | some (drive, rest) => (t.enter drive).enter (escape reserved rest)
  | none =>
    let segment := escape reserved (withoutBreaks part)
    if isAbove segment then (if isLast then t.leave.enter [] else t.leave)
    else if isHere segment then (if isLast then t.enter [] else t)
    else if mayBeDrive && isDrive segment then
      { t.enter (segment.take 1 ++ [':']) with onDrive := true }
    else t.enter segment

/-- The trail after all remaining parts of the path's text. -/
def readAll (scheme : String) : List (List Char) → Trail → Trail
  | [], t           => t
  | [last], t       => t.read scheme Reserved.path true last
  | part :: rest, t => readAll scheme rest (t.read scheme Reserved.path false part)

/-- The segments of a trail. Those of a file do not begin with an empty one, unless it is the only
    one. -/
def names (scheme : String) (t : Trail) : List String :=
  let names := t.behind.reverse
  if scheme == "file" then
    match names.dropWhile String.isEmpty with
    | []    => [""]
    | names => names
  else names

end Trail

/-! ## Paths -/

namespace Path

/-- Reads a path up to a question mark or a number sign, below some segments, and gives its trail
    and what follows. -/
def scan (scheme : String) (done : List String) (cs : List Char) : Trail × List Char :=
  let text := cs.takeWhile fun c => !(c == '?' || c == '#')
  let parts := text.splitOnP (isSlash (isSpecial scheme))
  (Trail.readAll scheme parts { behind := done.reverse }, cs.drop text.length)

/-- A path with another segment behind its last one; an empty last one is replaced. A text of one or
    two dots adds nothing, it only takes an empty last segment away. -/
def push (scheme : String) (names : List String) (text : String) : List String :=
  let kept := if names.length > 1 && names.getLast? == some "" then names.dropLast else names
  if text == "." || text == ".." then kept
  else
    let done := if kept == [""] then [] else kept
    let reserved := if isSpecial scheme then Reserved.specialSegment else Reserved.segment
    let t : Trail := { behind := done.reverse }
    (t.read scheme reserved true text.toList).names scheme

/-- The segments of a path with a slash at its end. That of a file is read again with the slash, so
    that it may turn out to begin with a drive. -/
def withSlash (scheme : String) (names : List String) : List String :=
  if names.getLast? == some "" then names
  else if scheme == "file" then
    (scan scheme [] (((segments names).write ++ "/").toList.drop 1)).1.names scheme
  else names ++ [""]

end Path

end Postbox.Url
