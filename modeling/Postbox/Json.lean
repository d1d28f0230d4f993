import Postbox.Decimal
import Postbox.Hex

/-!
# Json — values and tokens

  A text is read as a list of glyphs: characters, and `none` for what is no character. A byte that
  belongs to no character is one such place, and so is an escape of half a surrogate pair. A text
  that is to be used must be free of them (`Glyphs.text?`), one that is skipped need not.

  `Json` is the tree of a document and `Token` its lexical units; `Json.tokens` lists the tokens of
  a value, `Token.write` writes one.
-/

namespace Postbox.Json

/-- A text whose places are characters, or `none` for what is no character. -/
abbrev Glyphs := List (Option Char)

namespace Glyphs

/-- The glyphs of a proper text. -/
def ofString (s : String) : Glyphs := s.toList.map some

/-- The text, if every place of it is a character. -/
def text? (g : Glyphs) : Option String := (g.mapM id).map String.ofList

end Glyphs

/-- A number as it is written: its digits before and after the point, and its exponent. -/
structure Number where
  negative : Bool := false
  whole    : List Char
  fraction : Option (List Char) := none
  exponent : Option Int := none
deriving DecidableEq, Repr

namespace Number

/-- The number in the form in which whole numbers are written. -/
def ofInt (n : Int) : Number := ⟨n < 0, Nat.toDigits 10 n.natAbs, none, none⟩

/-- The signed 64-bit word the number is: written without point and exponent, and not as minus
    zero, which is a floating-point number. -/
def int64? (n : Number) : Option Int64 :=
  if n.fraction.isSome || n.exponent.isSome then none
  else
    let value := Nat.ofDigitChars 10 n.whole 0
    if n.negative then (if value = 0 then none else Decimal.word? (-(value : Int)))
    else Decimal.word? value

/-- Whether a double-precision number can hold the number. -/
def isFinite (n : Number) : Bool :=
  let fraction := n.fraction.getD []
  !Decimal.overflowsDouble (n.whole ++ fraction) (n.exponent.getD 0 - fraction.length)

/-- The characters of a number. -/
def write (n : Number) : List Char :=
  (if n.negative then ['-'] else []) ++ n.whole ++
    (match n.fraction with | some ds => '.' :: ds | none => []) ++
    (match n.exponent with | some e => 'e' :: (toString e).toList | none => [])

end Number

/-- The lexical units of a document. -/
inductive Token
  | openArray | closeArray | openObject | closeObject | comma | colon
  | null
  | bool (b : Bool)
  | number (n : Number)
  | text (g : Glyphs)
deriving DecidableEq, Repr

end Json

/-- A JSON value. Members of an object keep their order, repeated keys included. -/
inductive Json
  | null
  | bool (b : Bool)
  | number (n : Json.Number)
  | text (g : Json.Glyphs)
  | array (values : List Json)
  | object (members : List (Json.Glyphs × Json))

namespace Json

/-- The value of a whole number. -/
def ofInt (n : Int) : Json := .number (Number.ofInt n)

/-- The value of a proper text. -/
def ofString (s : String) : Json := .text (Glyphs.ofString s)

/-! ## Writing -/

mutual

/-- The tokens of a value. -/
def tokens : Json → List Token
  | .null      => [.null]
  | .bool b    => [.bool b]
  | .number n  => [.number n]
  | .text g    => [.text g]
  | .array vs  => .openArray :: elementTokens vs
  | .object ms => .openObject :: memberTokens ms

/-- The tokens of the elements of an array and of its end. -/
def elementTokens : List Json → List Token
  | []           => [.closeArray]
  | v :: []      => tokens v ++ [.closeArray]
  | v :: w :: vs => tokens v ++ .comma :: elementTokens (w :: vs)

/-- The tokens of the members of an object and of its end. -/
def memberTokens : List (Glyphs × Json) → List Token
  | []                => [.closeObject]
  | (k, v) :: []      => .text k :: .colon :: (tokens v ++ [.closeObject])
  | (k, v) :: m :: ms => .text k :: .colon :: (tokens v ++ .comma :: memberTokens (m :: ms))

end

/-- The characters by which one character of a text is written: quote, backslash and control
    characters are escaped, the common ones of them by a letter. -/
def escape (c : Char) : List Char :=
  if c == '"' then ['\\', '"']
  else if c == '\\' then ['\\', '\\']
  else if c == '\x08' then ['\\', 'b']
  else if c == '\x0c' then ['\\', 'f']
  else if c == '\n' then ['\\', 'n']
  else if c == '\r' then ['\\', 'r']
  else if c == '\t' then ['\\', 't']
  else if c.toNat < 0x20 then
    ['\\', 'u', '0', '0', Hex.lower (c.toNat / 16), Hex.lower (c.toNat % 16)]
  else [c]

/-- The characters of a text between quotes; what is no character is written as U+FFFD. -/
def quote (g : Glyphs) : List Char :=
  '"' :: (g.flatMap fun c => escape (c.getD '\uFFFD')) ++ ['"']

/-- The characters of a token. -/
def Token.write : Token → List Char
  | .openArray   => ['[']
  | .closeArray  => [']']
  | .openObject  => ['\x7b']
  | .closeObject => ['\x7d']
  | .comma       => [',']
  | .colon       => [':']
  | .null        => "null".toList
  | .bool true   => "true".toList
  | .bool false  => "false".toList
  | .number n    => n.write
  | .text g      => quote g

/-- The text of a value, without blanks between its tokens. -/
def write (v : Json) : String :=
  String.ofList (v.tokens.flatMap Token.write)

end Json

end Postbox
