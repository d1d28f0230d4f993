/-!
# Toml — tables, values and the writing of texts

  A document is a table: keys with values in the order in which they came. Tables come into being
  in four ways (`Origin`), which decide what may be added to them later. `insert?` and `header?` are
  the two ways in which a document grows, by a line with a key and a value and by a line with a
  table's name.

  A text is written in the first notation that needs no escape for it, of: one line in double
  quotes, one line in single quotes, several lines in double quotes, several lines in single quotes
  (`quote`).
-/

namespace Postbox.Toml

/-- How a table came into being: in braces, by a header of its own, by a header of a table below
    it, or by a dotted key. -/
inductive Origin
  | braces | header | below | dotted
deriving DecidableEq, Repr

/-- A value. Numbers with a fraction, dates and times are kept as they are written. -/
inductive Value
  | text (s : String)
  | integer (n : Int64)
  | float (lexeme : String)
  | boolean (b : Bool)
  | moment (lexeme : String)
  | array (elements : List Value)
  | table (origin : Origin) (entries : List (String × Value))
  | tables (elements : List (List (String × Value)))

/-- Keys with their values, each key once. -/
abbrev Entries := List (String × Value)

namespace Entries

/-- The value of a key. -/
def get? (key : String) (es : Entries) : Option Value :=
  (es.find? fun e => e.1 == key).map Prod.snd

/-- The entries with another value for a key, which stands where the key stood, or else last. -/
def set (key : String) (v : Value) (es : Entries) : Entries :=
  if (es.get? key).isSome then es.map fun e => if e.1 == key then (key, v) else e
  else es ++ [(key, v)]

end Entries

/-- Changes the table that a path of keys leads to. Tables missing on the way come into being by a
    dotted key (`byKey`) or by a header. A path leads through the last of several tables of one
    name; it leads through no value, through no table in braces, and a dotted key through no table
    that has a header. -/
def update (byKey : Bool) (change : Origin → Entries → Option Entries) :
    List String → Origin → Entries → Option Entries
  | [], origin, es       => change origin es
  | key :: path, _, es   =>
    let missing := if byKey then Origin.dotted else Origin.below
    match es.get? key with
    | none => (update byKey change path missing []).map fun sub => es.set key (.table missing sub)
    | some (.tables elements) =>
      match elements.getLast? with
      | none      => none
      | some last => (update byKey change path .header last).map fun sub =>
        es.set key (.tables (elements.dropLast ++ [sub]))
    | some (.table origin sub) =>
      if origin == .braces || (byKey && origin == .header) then none
      else (update byKey change path origin sub).map fun sub => es.set key (.table origin sub)
    | some _ => none

/-- The entries with a value for a key behind a path of dotted keys. The key must be new, and a
    table made by dotted keys grows by dotted keys only. -/
def insertBelow? (path : List String) (key : String) (v : Value) :
    Origin → Entries → Option Entries :=
  update true (fun origin es =>
    if (origin == .dotted) == path.isEmpty || (es.get? key).isSome then none
    else some (es.set key v)) path

/-- A document with a value for dotted keys below the table that the last header named. -/
def insert? (current path : List String) (key : String) (v : Value) (root : Entries) :
    Option Entries :=
  update false (insertBelow? path key v) current .header root

/-- A document with the table that a header names, which must be new or known only from headers of
    tables below it. -/
def header? (path : List String) (key : String) (root : Entries) : Option Entries :=
  update false (fun _ es =>
    match es.get? key with
    | none                     => some (es.set key (.table .header []))
    | some (.table .below sub) => some (es.set key (.table .header sub))
    | some _                   => none) path .header root

/-- A document with one more of the tables of one name. -/
def headerOfMany? (path : List String) (key : String) (root : Entries) : Option Entries :=
  update false (fun _ es =>
    match es.get? key with
    | none                    => some (es.set key (.tables [[]]))
    | some (.tables elements) => some (es.set key (.tables (elements ++ [[]])))
    | some _                  => none) path .header root

/-! ## Texts -/

/-- The length of the longest run of one character. -/
def longestRun (c : Char) (cs : List Char) : Nat :=
  (cs.foldl (fun (now, longest) d =>
    if d == c then (now + 1, max longest (now + 1)) else (0, longest)) (0, 0)).2

/-- Controls that are written as escapes everywhere: all but the tab and the line feed. -/
def isControl (c : Char) : Bool := (c.toNat < 0x20 && c != '\t' && c != '\n') || c == '\x7f'

/-- Four hexadecimal digits in upper case. -/
def hex4 (n : Nat) : List Char :=
  ((Nat.toDigits 16 n).map Char.toUpper).leftpad 4 '0'

/-- The characters of a text in double quotes. The last `quotes` characters were double quotes; in
    several lines two of them in a row need no escape, in one line none does without. -/
def escapeFrom (severalLines : Bool) (quotes : Nat) : List Char → List Char
  | [] => []
  | c :: rest =>
    let written :=
      if c == '"' then
        (if severalLines && quotes < 2 then ['"'] else ['\\', '"'])
      else if c == '\\' then ['\\', '\\']
      else if c == '\x08' then ['\\', 'b']
      else if c == '\t' then ['\\', 't']
      else if c == '\n' then (if severalLines then ['\n'] else ['\\', 'n'])
      else if c == '\x0c' then ['\\', 'f']
      else if c == '\r' then ['\\', 'r']
      else if isControl c then '\\' :: 'u' :: hex4 c.toNat
      else [c]
    let quotes := if c == '"' && severalLines && quotes < 2 then quotes + 1 else 0
    written ++ escapeFrom severalLines quotes rest

/-- A text in quotes. -/
def quote (s : String) : String :=
  let cs := s.toList
  let needsCode := cs.any isControl
  let hasBackslash := cs.contains '\\'
  let hasLines := cs.contains '\n'
  let singles := longestRun '\x27' cs
  let doubles := longestRun '"' cs
  let lineBreak := if hasLines then "\n" else ""
  let basic := "\"" ++ String.ofList (escapeFrom false 0 cs) ++ "\""
  let basicLines := "\"\"\"" ++ lineBreak ++ String.ofList (escapeFrom true 0 cs) ++ "\"\"\""
  if !needsCode && !hasBackslash && doubles == 0 && !hasLines then basic
  else if !needsCode && singles == 0 && !hasLines then "'" ++ s ++ "'"
  else if !needsCode && !hasBackslash && doubles ≤ 2 then basicLines
  else if !needsCode && singles ≤ 2 then "'''" ++ lineBreak ++ s ++ "'''"
  else if hasLines then basicLines
  else basic

end Postbox.Toml
