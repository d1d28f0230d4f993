import Postbox.Text.Composition
import Postbox.Text.Direction
import Postbox.Text.Joining
import Postbox.Text.Punycode
import Postbox.Url.Domain.Alphabet

/-!
# Labels — the parts of a domain name

  A label has a text, and a written form in ASCII: that of a text with other characters is its
  Punycode behind the mark `xn--`. A label may be given in either form. Its text must be one that
  reads alike wherever it is shown: it does not begin with a mark, an invisible joiner stands only
  where it changes how letters are written (`joinersFit`), and in a name with letters from right to
  left each label goes in one direction (`fitsDirection`).
-/

namespace Postbox.Url.Domain

/-- Whether a character is one of ASCII. -/
def isAscii (c : Char) : Bool := c.toNat < 0x80

/-- The mark of a written form in Punycode. -/
def punycodeMark : List Char := "xn--".toList

/-- The longest Punycode that is read. -/
def codeLimit : Nat := 2000

/-- The longest text that is written in Punycode. -/
def textLimit : Nat := 1000

/-- A part of a name: its text and its written form. -/
structure Label where
  text    : List Char
  written : List Char
deriving DecidableEq, Repr

/-- Whether each character of a text is in its plain form, and the text in its composed one. -/
def isPlain (text : List Char) : Bool :=
  text.all (fun c => simplify? c == some [c]) && Text.normalize text == text

/-! ## Rules -/

/-- The character that keeps letters from joining. -/
def nonJoiner : Char := '\u200C'

/-- The character that makes letters join. -/
def joiner : Char := '\u200D'

/-- Whether each joiner fits where it stands: behind a virama, or, if it keeps letters from joining,
    between two that would join. `before` is the text in front, its last character first. -/
def joinersFit (before : List Char) : List Char → Bool
  | []        => true
  | c :: rest =>
    (if c == joiner || c == nonJoiner then
      before.head?.any Text.isVirama ||
        (c == nonJoiner && Text.joinsBehind before && Text.joinsBefore rest)
     else true) && joinersFit (c :: before) rest

/-- Whether a text has a part that goes from right to left. -/
def hasRightward (text : List Char) : Bool :=
  (text.map Text.direction).any fun d => d == .right || d == .arabicNumber

/-- Whether a text goes in one direction: it begins with a letter of it, has no letter of the other,
    and ends with a letter of it or a number. Numbers of two kinds do not meet. -/
def fitsDirection (text : List Char) : Bool :=
  let all := text.map Text.direction
  let last := (all.reverse.dropWhile (· == .mark)).head?
  match all.head? with
  | none        => true
  | some .left  =>
    !all.contains .right && !all.contains .arabicNumber &&
      (last == some .left || last == some .europeanNumber)
  | some .right =>
    !all.contains .left && !(all.contains .europeanNumber && all.contains .arabicNumber) &&
      (last == some .right || last == some .europeanNumber || last == some .arabicNumber)
  | some _      => false

namespace Label

/-- Whether a label has a text that a label may have. -/
def isValid (l : Label) : Bool := !l.text.head?.any Text.isMark && joinersFit [] l.text

/-- The label with a text. -/
def ofText? (text : List Char) : Option Label :=
  if text.all isAscii then some ⟨text, text⟩
  else if text.length ≤ textLimit then some ⟨text, punycodeMark ++ Text.Punycode.encode text⟩
  else none

/-- The label with a written form in Punycode, given without its mark. -/
def ofPunycode? (code : List Char) : Option Label := do
  if code.length > codeLimit then none
  let text ← Text.Punycode.decode? code
  let label ← ofText? text
  if isPlain text && label.written == punycodeMark ++ code then some label else none

/-- The label that a plain text stands for, whichever of the two forms it is. -/
def read? (cs : List Char) : Option Label :=
  let label? := match cs with
    | 'x' :: 'n' :: '-' :: '-' :: code => ofPunycode? code
    | text                             => ofText? text
  label?.filter isValid

end Label

end Postbox.Url.Domain
