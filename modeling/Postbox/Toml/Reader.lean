import Postbox.Calendar
import Postbox.Decimal
import Postbox.Hex
import Postbox.Text
import Postbox.Toml

/-!
# Toml reading — from lines to a document

  Each reader takes the characters that are left and gives what it has read and what is left then.
  Values lie within each other, so their reader has a depth (`value?`): what lies within a value is
  read with one less. Lists are read by `separated`, which hands each element a shorter rest.
-/

namespace Postbox.Toml

/-- What a reader has read, and what is left. -/
abbrev Reader (α : Type) := List Char → Option (α × List Char)

/-! ## Blanks, comments and the ends of lines -/

/-- Spaces and tabs. -/
def isSpace (c : Char) : Bool := c == ' ' || c == '\t'

/-- The text behind the spaces in front. -/
def skipSpaces (cs : List Char) : List Char := cs.dropWhile isSpace

/-- The text behind a line break in front. -/
def lineBreak? : List Char → Option (List Char)
  | '\n' :: rest         => some rest
  | '\r' :: '\n' :: rest => some rest
  | _                    => none

/-- Characters that may stand in comments and, apart from quotes and backslashes, in texts. -/
def isPrintable (c : Char) : Bool := c == '\t' || (c.toNat ≥ 0x20 && c.toNat ≠ 0x7F)

/-- The text behind a comment in front. -/
def skipComment : List Char → List Char
  | '#' :: rest => rest.dropWhile isPrintable
  | cs          => cs

/-- The text behind the end of a line, before which spaces and a comment may stand. -/
def lineEnd? (cs : List Char) : Option (List Char) :=
  match skipComment (skipSpaces cs) with
  | []   => some []
  | rest => lineBreak? rest

/-- The text behind spaces, line breaks and comments. -/
def skipLines (cs : List Char) : List Char :=
  let rest := skipComment (skipSpaces cs)
  let rest := (lineBreak? rest).getD rest
  if rest.length < cs.length then skipLines rest else cs
termination_by cs.length

/-- The text behind spaces and line breaks. -/
def skipBlankLines : List Char → List Char
  | '\r' :: '\n' :: rest => skipBlankLines rest
  | c :: rest            => if isSpace c || c == '\n' then skipBlankLines rest else c :: rest
  | []                   => []

/-! ## Texts -/

/-- The character that some hexadecimal digits in front denote. -/
def codePoint? (digits : Nat) : Reader Char := fun cs => do
  let ds := cs.take digits
  if ds.length < digits then none
  else
    let n ← ds.foldlM (fun n c => (Hex.digit? c).map (n * 16 + ·)) 0
    (Text.character? n).map fun c => (c, cs.drop digits)

/-- The character that the escape behind a backslash stands for. -/
def escape? : Reader Char
  | 'b' :: rest  => some ('\x08', rest)
  | 't' :: rest  => some ('\t', rest)
  | 'n' :: rest  => some ('\n', rest)
  | 'f' :: rest  => some ('\x0c', rest)
  | 'r' :: rest  => some ('\r', rest)
  | '"' :: rest  => some ('"', rest)
  | '\\' :: rest => some ('\\', rest)
  | 'u' :: rest  => codePoint? 4 rest
  | 'U' :: rest  => codePoint? 8 rest
  | _            => none

/-- A text in double quotes, behind the first of them. -/
def basicText? (cs : List Char) : Option (List Char × List Char) :=
  match cs with
  | '"' :: rest  => some ([], rest)
  | '\\' :: rest =>
    match escape? rest with
    | some (c, rest') =>
      if rest'.length ≤ rest.length then
        (basicText? rest').map fun (text, left) => (c :: text, left)
      else none
    | none => none
  | c :: rest    =>
    if isPrintable c then (basicText? rest).map fun (text, left) => (c :: text, left) else none
  | []           => none
termination_by cs.length
decreasing_by all_goals simp only [List.length_cons]; omega

/-- A text in single quotes, behind the first of them. -/
def literalText? : Reader (List Char)
  | '\x27' :: rest => some ([], rest)
  | c :: rest      =>
    if isPrintable c then (literalText? rest).map fun (text, left) => (c :: text, left) else none
  | []             => none

/-- What ends a text between threefold quotes, where `quotes` of them stand in front: three of them,
    before which one or two more belong to the text. `none` says that the text goes on. -/
def closing? (quotes : Nat) : Option Nat :=
  if quotes < 3 then none else some (quotes - 3)

/-- A text of several lines between threefold quotes, behind the first three. With `escapes` a
    backslash begins an escape, or takes away the line break behind it and all blanks after that. -/
def linesText? (quote : Char) (escapes : Bool) (cs : List Char) :
    Option (List Char × List Char) :=
  match cs with
  | []        => none
  | c :: rest =>
    let goOn (before : List Char) (left : List Char) : Option (List Char × List Char) :=
      if left.length ≤ rest.length then
        (linesText? quote escapes left).map fun (text, left) => (before ++ text, left)
      else none
    if c == quote then
      let quotes := (cs.takeWhile (· == quote)).length
      match closing? quotes with
      | none   => goOn [quote] rest
      | some n => if n ≤ 2 then some (List.replicate n quote, cs.drop quotes) else none
    else if escapes && c == '\\' then
      match lineBreak? (skipSpaces rest) with
      | some left => goOn [] (skipBlankLines left)
      | none      => (escape? rest).bind fun (c, left) => goOn [c] left
    else match lineBreak? cs with
      | some left => goOn ['\n'] left
      | none      => if isPrintable c then goOn [c] rest else none
termination_by cs.length
decreasing_by simp only [List.length_cons]; omega

/-- A text in any of the four notations. A line break behind threefold quotes is no part of it. -/
def text? : Reader String
  | '"' :: '"' :: '"' :: rest =>
    (linesText? '"' true ((lineBreak? rest).getD rest)).map fun (cs, left) =>
      (String.ofList cs, left)
  | '"' :: rest => (basicText? rest).map fun (cs, left) => (String.ofList cs, left)
  | '\x27' :: '\x27' :: '\x27' :: rest =>
    (linesText? '\x27' false ((lineBreak? rest).getD rest)).map fun (cs, left) =>
      (String.ofList cs, left)
  | '\x27' :: rest => (literalText? rest).map fun (cs, left) => (String.ofList cs, left)
  | _ => none

/-! ## Keys -/

/-- Characters of a key without quotes. -/
def isKeyChar (c : Char) : Bool := c.isAlphanum || c == '-' || c == '_'

/-- One key: bare, or a text of one line. -/
def key? : Reader String
  | '"' :: rest    => (basicText? rest).map fun (cs, left) => (String.ofList cs, left)
  | '\x27' :: rest => (literalText? rest).map fun (cs, left) => (String.ofList cs, left)
  | cs             =>
    let name := cs.takeWhile isKeyChar
    if name.isEmpty then none else some (String.ofList name, cs.drop name.length)

/-- Keys with dots between them, with spaces around each. -/
def dottedKeys? (cs : List Char) : Option (List String × List Char) :=
  match key? (skipSpaces cs) with
  | none => none
  | some (key, rest) =>
    match skipSpaces rest with
    | '.' :: rest =>
      if rest.length < cs.length then
        (dottedKeys? rest).map fun (keys, left) => (key :: keys, left)
      else none
    | rest => some ([key], rest)
termination_by cs.length

/-- How many values may lie within each other, and how many keys stand in a row, at most. -/
def limit : Nat := 79

/-- A path of keys before its last one, and the last one. -/
def path? : Reader (List String × String) := fun cs => do
  let (keys, rest) ← dottedKeys? cs
  let last ← keys.getLast?
  if keys.length ≤ limit then some ((keys.dropLast, last), rest) else none

/-! ## Numbers, dates and times -/

/-- Digits of a base in front, with single underscores between them. -/
def digits? (isDigit : Char → Bool) (cs : List Char) : Option (List Char × List Char) :=
  match cs with
  | c :: '_' :: rest =>
    if isDigit c then (digits? isDigit rest).map fun (ds, left) => (c :: ds, left) else none
  | c :: rest =>
    if !isDigit c then none
    else match rest with
      | d :: _ =>
        if isDigit d then (digits? isDigit rest).map fun (ds, left) => (c :: ds, left)
        else some ([c], rest)
      | [] => some ([c], [])
  | [] => none

/-- Decimal digits in front that are a zero or do not begin with one. -/
def wholeDigits? : Reader (List Char)
  | '0' :: rest => some (['0'], rest)
  | cs          => digits? Char.isDigit cs

/-- The sign in front: whether it is a minus. -/
def sign : List Char → Bool × List Char
  | '-' :: rest => (true, rest)
  | '+' :: rest => (false, rest)
  | rest        => (false, rest)

/-- A whole number of 64 bits: decimal with an optional sign, or of another base without. -/
def integer? : Reader Value := fun cs => do
  let inBase (base : Nat) (isDigit : Char → Bool) : Reader Value := fun rest => do
    let (ds, left) ← digits? isDigit rest
    let n ← ds.foldlM (fun n c => (Hex.digit? c).map (n * base + ·)) 0
    return (.integer (← Decimal.word? n), left)
  match cs with
  | '0' :: 'x' :: rest => inBase 16 (fun c => (Hex.digit? c).isSome) rest
  | '0' :: 'o' :: rest => inBase 8 (fun c => '0' ≤ c && c ≤ '7') rest
  | '0' :: 'b' :: rest => inBase 2 (fun c => c == '0' || c == '1') rest
  | cs => do
    let (negative, rest) := sign cs
    let (ds, left) ← wholeDigits? rest
    let n := Nat.ofDigitChars 10 ds 0
    return (.integer (← Decimal.word? (if negative then -(n : Int) else n)), left)

/-- The digits behind a point in front, and what is left; no digits where no point stands. -/
def fraction? : Reader (List Char)
  | '.' :: rest => digits? Char.isDigit rest
  | cs          => some ([], cs)

/-- The exponent in front, if one stands there, and what is left. -/
def exponent? : Reader (Option Int) := fun cs =>
  match cs with
  | e :: rest =>
    if e == 'e' || e == 'E' then
      let (negative, rest) := sign rest
      (digits? Char.isDigit rest).map fun (ds, left) =>
        let n := Nat.ofDigitChars 10 ds 0
        (some (if negative then -(n : Int) else n), left)
    else some (none, cs)
  | [] => some (none, [])

/-- A number with a fraction or an exponent, or one of the names for infinity and for no number.
    A positive one must be within the range of double precision. -/
def float? : Reader Value := fun cs => do
  let (negative, rest) := sign cs
  match rest with
  | 'i' :: 'n' :: 'f' :: left => some (.float "inf", left)
  | 'n' :: 'a' :: 'n' :: left => some (.float "nan", left)
  | _ =>
    let (whole, afterWhole) ← wholeDigits? rest
    let (fraction, afterFraction) ← fraction? afterWhole
    let (exponent, left) ← exponent? afterFraction
    let tooLarge := Decimal.overflowsDouble (whole ++ fraction) (exponent.getD 0 - fraction.length)
    if (fraction.isEmpty && exponent.isNone) || (!negative && tooLarge) then none
    else some (.float (String.ofList (cs.take (cs.length - left.length))), left)

/-- The number in exactly `n` digits in front, if it lies between two bounds. -/
def field? (n low high : Nat) : Reader Nat := fun cs => do
  let ds := cs.take n
  let value ← Decimal.nat? ds
  if ds.length == n && low ≤ value && value ≤ high then some (value, cs.drop n) else none

/-- The text behind a certain character in front. -/
def behind? (c : Char) : List Char → Option (List Char)
  | d :: rest => if d == c then some rest else none
  | []        => none

/-- The text behind a time of day: hour, minute, second and an optional fraction. -/
def skipTime? (cs : List Char) : Option (List Char) := do
  let (_, cs) ← field? 2 0 23 cs
  let (_, cs) ← field? 2 0 59 (← behind? ':' cs)
  let (_, cs) ← field? 2 0 60 (← behind? ':' cs)
  match cs with
  | '.' :: rest =>
    let left := rest.dropWhile Char.isDigit
    if left.length < rest.length then some left else none
  | cs => some cs

/-- The text behind a date that exists. -/
def skipDate? (cs : List Char) : Option (List Char) := do
  let (year, cs) ← field? 4 0 9999 cs
  let (month, cs) ← field? 2 1 12 (← behind? '-' cs)
  let (day, cs) ← field? 2 1 31 (← behind? '-' cs)
  if (Date.mk year month day).isValid then some cs else none

/-- The text behind an offset from UTC, if one stands in front. -/
def skipOffset? (cs : List Char) : Option (List Char) :=
  match cs with
  | 'Z' :: rest | 'z' :: rest => some rest
  | '+' :: rest | '-' :: rest => do
    let (_, cs) ← field? 2 0 23 rest
    let (_, cs) ← field? 2 0 59 (← behind? ':' cs)
    return cs
  | cs => some cs

/-- The text behind a date with or without a time and an offset, or a time alone. -/
def skipMoment? (cs : List Char) : Option (List Char) :=
  match skipDate? cs with
  | some rest =>
    match rest with
    | 'T' :: time | 't' :: time => (skipTime? time).bind skipOffset?
    | ' ' :: time               =>
      match skipTime? time with
      | some rest' => skipOffset? rest'
      | none       => some rest
    | rest => some rest
  | none => skipTime? cs

/-- A date, a time, or both. -/
def moment? : Reader Value := fun cs =>
  (skipMoment? cs).map fun left =>
    (.moment (String.ofList (cs.take (cs.length - left.length))), left)

/-! ## Values -/

/-- The elements of a list up to its end, with commas between them; blanks, line breaks and comments
    may stand around each. Behind the last one a comma may stand. -/
def elements? (read : Reader Value) (cs : List Char) : Option (List Value × List Char) :=
  match skipLines cs with
  | ']' :: left => some ([], left)
  | start => do
    let (v, rest) ← read start
    match skipLines rest with
    | ',' :: rest =>
      if rest.length < cs.length then
        (elements? read rest).map fun (vs, left) => (v :: vs, left)
      else none
    | ']' :: left => some ([v], left)
    | _           => none
termination_by cs.length

/-- The members of a table in braces up to its end, with commas between them. -/
def members? (read : Reader Value) (entries : Entries) (cs : List Char) :
    Option (Entries × List Char) := do
  let ((path, key), rest) ← path? cs
  let rest ← behind? '=' rest
  let (v, rest) ← read (skipSpaces rest)
  let entries ← insertBelow? path key v .header entries
  match skipSpaces rest with
  | ',' :: rest    => if rest.length < cs.length then members? read entries rest else none
  | '\x7d' :: left => some (entries, left)
  | _              => none
termination_by cs.length

/-- A value, within which at most `depth` others lie within each other. -/
def value? : Nat → Reader Value
  | depth, cs =>
    match cs with
    | '"' :: _ | '\x27' :: _ => (text? cs).map fun (s, left) => (.text s, left)
    | '[' :: rest =>
      match depth with
      | 0         => none
      | depth + 1 => (elements? (value? depth) rest).map fun (vs, left) => (.array vs, left)
    | '\x7b' :: rest =>
      match depth with
      | 0         => none
      | depth + 1 =>
        match skipSpaces rest with
        | '\x7d' :: left => some (.table .braces [], left)
        | rest           =>
          (members? (value? depth) [] rest).map fun (es, left) => (.table .braces es, left)
    | 't' :: 'r' :: 'u' :: 'e' :: left        => some (.boolean true, left)
    | 'f' :: 'a' :: 'l' :: 's' :: 'e' :: left => some (.boolean false, left)
    | cs => (moment? cs).or ((float? cs).or (integer? cs))

/-! ## Documents -/

/-- Reads the lines of a document that has got as far as `root`, below the table that the last
    header named. -/
def lines? (current : List String) (root : Entries) (cs : List Char) : Option Entries :=
  let goOn (current : List String) (root : Option Entries) (left : Option (List Char)) :
      Option Entries := do
    let left ← left
    if left.length < cs.length then lines? current (← root) left else none
  match skipSpaces cs with
  | []               => some root
  | '[' :: '[' :: rest => do
    let ((path, key), rest) ← path? rest
    let rest ← behind? ']' (← behind? ']' rest)
    goOn (path ++ [key]) (headerOfMany? path key root) (lineEnd? rest)
  | '[' :: rest      => do
    let ((path, key), rest) ← path? rest
    goOn (path ++ [key]) (header? path key root) (lineEnd? (← behind? ']' rest))
  | start            =>
    match start with
    | '#' :: _ | '\n' :: _ | '\r' :: _ => goOn current (some root) (lineEnd? start)
    | _ => do
      let ((path, key), rest) ← path? start
      let (v, rest) ← value? limit (skipSpaces (← behind? '=' rest))
      goOn current (insert? current path key v root) (lineEnd? rest)
termination_by cs.length

/-- The document a text denotes. A byte order mark in front is no part of it. -/
def read? (s : String) : Option Entries :=
  lines? [] [] (match s.toList with | '\uFEFF' :: rest => rest | cs => cs)

end Postbox.Toml
