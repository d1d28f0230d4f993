import Postbox.Url.Path
import Postbox.Url.Address
import Postbox.Url.Domain

/-!
# Url reading — addresses, absolute and relative

  A text is trimmed of controls and spaces, and freed of tabs and line breaks. If it begins with a
  scheme it is an address of its own; else it is read relative to a base. Each reader hands on what
  it has not read: `scheme?`, then the authority, then the path, then query and fragment. Files have
  readers of their own, which come last.
-/

namespace Postbox.Url

/-- A text without controls and spaces at either end. -/
def clean (s : String) : List Char := Text.strip (fun c => c.toNat ≤ 0x20) s.toList

/-- The first character that is no break, and what follows it. -/
def next? (cs : List Char) : Option (Char × List Char) :=
  match cs.dropWhile isBreak with
  | []        => none
  | c :: rest => some (c, rest)

/-- Where an authority ends. -/
def endsAuthority (special : Bool) (c : Char) : Bool := isSlash special c || c == '?' || c == '#'

/-- The scheme in front, in lower case, and what follows its colon. -/
def scheme? (cs : List Char) : Option (String × List Char) :=
  let isPart (c : Char) : Bool := c.isAlphanum || c == '+' || c == '-' || c == '.'
  let front := cs.takeWhile (· != ':')
  let name := withoutBreaks front
  if front.length < cs.length && (name.head?.any Char.isAlpha) && name.all isPart then
    some (String.ofList (name.map Char.toLower), cs.drop (front.length + 1))
  else none

/-! ## Authority -/

/-- The text before the last at sign and the text behind it. -/
def splitUser? (cs : List Char) : Option (List Char × List Char) :=
  if cs.contains '@' then
    let behind := (cs.reverse.takeWhile (· != '@')).reverse
    some (cs.take (cs.length - behind.length - 1), behind)
  else none

/-- User name and password, with a colon between them. -/
def readUser (cs : List Char) : Authority :=
  let name := cs.takeWhile (· != ':')
  { user     := String.ofList (escape Reserved.userInfo name)
    password := String.ofList (escape Reserved.userInfo (cs.drop (name.length + 1))) }

/-- The host in front, up to a colon outside of brackets, and what follows it. -/
def splitHost (inBrackets : Bool) : List Char → List Char × List Char
  | [] => ([], [])
  | c :: rest =>
    if c == ':' && !inBrackets then ([], c :: rest)
    else
      let inBrackets := if c == '[' then true else if c == ']' then false else inBrackets
      let (host, rest) := splitHost inBrackets rest
      (c :: host, rest)

/-- The host between brackets. -/
def bracketHost (cs : List Char) : Except Problem String :=
  match cs.getLast? with
  | some ']' =>
    match Ipv6.read? (cs.drop 1).dropLast with
    | some pieces => .ok ("[" ++ Ipv6.write pieces ++ "]")
    | none        => .error .ipv6Address
  | _ => .error .ipv6Address

/-- The host of a special scheme: an address in numbers, or a domain name. -/
def specialHost (cs : List Char) : Except Problem String :=
  if cs.head? == some '[' then bracketHost cs
  else
    match Domain.toAscii? (unescape cs) with
    | none => .error .domainName
    | some name =>
      if name.isEmpty then .error .emptyHost
      else if Ipv4.endsInNumber name.toList then
        match Ipv4.read? name.toList with
        | some n => .ok (Ipv4.write n)
        | none   => .error .ipv4Address
      else .ok name

/-- The host of any other scheme: an address in brackets, or a text. -/
def plainHost (cs : List Char) : Except Problem String :=
  if cs.head? == some '[' then bracketHost cs
  else if cs.any fun c => "\x00\t\n\r #/:<>?@[\\]^|".toList.contains c then .error .hostCharacter
  else .ok (String.ofList (escape Reserved.controls cs))

/-- The TCP number behind a host, and what follows it. The number of the scheme is left out. -/
def readPortNumber (scheme : String) (cs : List Char) : Except Problem (Option Nat × List Char) :=
  let digits := cs.takeWhile Char.isDigit
  let rest := cs.drop digits.length
  let n := Nat.ofDigitChars 10 digits 0
  let ends := match rest with
    | []     => true
    | c :: _ => c == '/' || c == '\\' || c == '?' || c == '#'
  if n > 65535 || !ends then .error .portNumber
  else .ok (if digits.isEmpty || defaultPortNumber? scheme == some n then none else some n, rest)

/-- The authority behind two slashes, and what follows it. -/
def readAuthority (scheme : String) (cs : List Char) : Except Problem (Authority × List Char) := do
  let special := isSpecial scheme
  let inside := cs.takeWhile (fun c => !endsAuthority special c)
  let (user, hostAndMore) := (splitUser? inside).getD ([], inside)
  if (splitUser? inside).isSome && user.isEmpty && hostAndMore.isEmpty
      && inside.length < cs.length then
    throw .emptyHost
  let userInfo := readUser user
  let (hostText, afterHost) := splitHost false hostAndMore
  if special && hostText.isEmpty then throw .emptyHost
  let host ← if special then specialHost hostText else plainHost hostText
  let hasNumber := afterHost.head? == some ':'
  if host.isEmpty && (hasNumber || !userInfo.userInfo.isEmpty) then throw .emptyHost
  let rest := cs.drop (inside.length - afterHost.length)
  let (number, rest) ← if hasNumber then readPortNumber scheme (rest.drop 1) else pure (none, rest)
  return ({ userInfo with host := host, portNumber := number }, rest)

/-! ## Query and fragment -/

/-- Query and fragment at the end of an address. -/
def readEnd (special : Bool) (cs : List Char) : Option String × Option String :=
  let fragment : List Char → Option String
    | '#' :: text => some (String.ofList (escape Reserved.fragment text))
    | _           => none
  match cs with
  | '?' :: rest =>
    let text := rest.takeWhile (· != '#')
    let set := if special then Reserved.specialQuery else Reserved.query
    (some (String.ofList (escape set text)), fragment (rest.drop text.length))
  | cs => (none, fragment cs)

/-- The address with the query and the fragment that its text ends in. -/
def withEnd (u : Url) (cs : List Char) : Url :=
  let (query, fragment) := readEnd (isSpecial u.scheme) cs
  { u with query := query, fragment := fragment }

/-! ## Whole addresses -/

/-- The address with a path below `done`, and the rest of the text. -/
def withPath (u : Url) (done : List String) (cs : List Char) : Url :=
  let (trail, rest) := Path.scan u.scheme done cs
  { u with path := .segments (trail.names u.scheme) }.withEnd (withoutBreaks rest)

/-- The address behind two slashes. -/
def readHierarchy (scheme : String) (cs : List Char) : Except Problem Url := do
  let (authority, rest) ← readAuthority scheme cs
  let u : Url := { scheme := scheme, authority := some authority, path := .segments [] }
  match rest with
  | c :: behind =>
    if isSlash (isSpecial scheme) c then return u.withPath [] behind
    else if !isSpecial scheme && (c == '?' || c == '#') then return u.withEnd rest
    else return u.withPath [] rest
  | [] => return if isSpecial scheme then u.withPath [] [] else u

/-- The address of a scheme that is not special. -/
def readPlain (scheme : String) (cs : List Char) : Except Problem Url :=
  match cs with
  | '/' :: '/' :: rest => readHierarchy scheme rest
  | '/' :: rest        => .ok ({ scheme := scheme, path := .segments [] : Url }.withPath [] rest)
  | cs                 =>
    let text := cs.takeWhile fun c => !(c == '?' || c == '#')
    let path := String.ofList (escape Reserved.controls text)
    let u : Url := { scheme := scheme, path := .flat path }
    .ok (u.withEnd (cs.drop text.length))

/-- An address with another path, query and fragment, that keeps scheme and authority. The text is
    relative to a base that is no file. -/
def readRelative (base : Url) (names : List String) (cs : List Char) : Except Problem Url :=
  match cs with
  | []        => .ok base.withoutFragment
  | '?' :: _  => .ok (base.withEnd cs)
  | '#' :: _  => .ok { base with fragment := (readEnd true cs).2 }
  | c :: rest =>
    if c == '/' || c == '\\' then
      match cs with
      | '/' :: '/' :: authority => readHierarchy base.scheme authority
      | _ =>
        let behind := cs.dropWhile fun c => c == '/' || c == '\\'
        if behind.length < rest.length then readHierarchy base.scheme behind
        else .ok (base.withPath [] rest)
    else .ok (base.withPath names.dropLast cs)

/-! ## Files

Breaks are left in the text of a file's address, since they end a drive. -/

/-- A file without a host. -/
def localFile : Url := { scheme := "file", authority := some {}, path := .segments [""] }

/-- Whether a text begins with a drive. -/
def beginsWithDrive (cs : List Char) : Bool :=
  let front := (withoutBreaks cs).take 3
  isDrive (front.take 2) && (front.drop 2).all (endsAuthority true)

/-- The address of a file that is relative to another with the path `names`, where the text does not
    begin with two slashes. -/
def readFileBelow (base : Url) (names : List String) (cs : List Char) : Url :=
  match next? cs with
  | none           => base.withoutFragment
  | some ('?', _)  => base.withEnd (withoutBreaks cs)
  | some ('#', _)  => { base with fragment := (readEnd true (withoutBreaks cs)).2 }
  | some (c, rest) =>
    if isSlash true c then
      let drive := (names.take 1).filter (isProperDrive ·.toList)
      if beginsWithDrive rest then localFile.withPath [] rest
      else if drive.isEmpty then base.withPath [] rest
      else localFile.withPath drive rest
    else if beginsWithDrive cs then localFile.withPath [] cs
    else if names.getLast?.any (isProperDrive ·.toList) then base.withPath names cs
    else base.withPath names.dropLast cs

/-- The address of a file behind two slashes. A path on a drive needs no host. -/
def readFileHost (cs : List Char) : Except Problem Url := do
  let host := cs.takeWhile fun c => !endsAuthority true c
  if (withoutBreaks host).isEmpty || isDrive (withoutBreaks host) then
    return localFile.withPath [] cs
  let name ← specialHost (withoutBreaks host)
  let behind := cs.drop host.length
  let path := if behind.head?.any (isSlash true) then behind.drop 1 else behind
  let u := localFile.withPath [] path
  return if name == "localhost" || (Path.scan "file" [] path).1.onDrive then u
    else { u with authority := some { host := name } }

/-- The address of a file, with the file that it is relative to if there is one. -/
def readFile (base : Option Url) (cs : List Char) : Except Problem Url :=
  let names := match base with
    | some { path := .segments names, .. } => names
    | _                                    => []
  let below := readFileBelow (base.getD localFile) names cs
  match next? cs with
  | none           => .ok below
  | some (a, rest) =>
    match next? rest with
    | none           => .ok below
    | some (b, rest) =>
      if isSlash true a && isSlash true b then readFileHost rest else .ok below

/-! ## Entry points -/

/-- The address of any scheme but that of files, behind its colon. -/
def readBehindScheme (base : Option Url) (scheme : String) (cs : List Char) : Except Problem Url :=
  if isSpecial scheme then
    let behind := cs.dropWhile (isSlash true)
    match base with
    | some b@{ path := .segments names, .. } =>
      if cs.length < behind.length + 2 && b.scheme == scheme then readRelative b names cs
      else readHierarchy scheme behind
    | _ => readHierarchy scheme behind
  else readPlain scheme cs

/-- The address of a text that begins with no scheme. -/
def readBelow (base : Url) (cs : List Char) : Except Problem Url :=
  match base.path, withoutBreaks cs with
  | _, text@('#' :: _)     => .ok { base with fragment := (readEnd true text).2 }
  | .flat _, _             => .error .relativeToFlatBase
  | .segments names, text  =>
    if base.scheme == "file" then readFile (some base) cs else readRelative base names text

/-- The address a text denotes, relative to a base if it has no scheme. -/
def readWith (base : Option Url) (cs : List Char) : Except Problem Url :=
  match scheme? cs, base with
  | some ("file", rest), _  => readFile (base.filter (·.scheme == "file")) rest
  | some (scheme, rest), _  => readBehindScheme base scheme (withoutBreaks rest)
  | none, none              => .error .relativeWithoutBase
  | none, some b            => readBelow b cs

/-- The address a text denotes by itself. -/
def read (s : String) : Except Problem Url := readWith none (clean s)

/-- The address a text denotes relative to a base. -/
def join (base : Url) (s : String) : Except Problem Url := readWith (some base) (clean s)

/-- The address with a path that ends in a slash. -/
def withSlash (u : Url) : Url :=
  match u.path with
  | .segments names => { u with path := .segments (Path.withSlash u.scheme names) }
  | .flat text      =>
    if text.endsWith "/" then u
    else { u with path := .flat (if text.isEmpty then "%2F" else text ++ "/") }

/-- The address one segment below an address, whose text is the segment's. -/
def push? (u : Url) (text : String) : Option Url :=
  match u.path with
  | .segments names => some { u with path := .segments (Path.push u.scheme names text) }
  | .flat _         => none

end Postbox.Url
