/-!
# Text — characters, blanks and trimming

  The character class *blank* is Unicode's `White_Space`, the class that names, dates and reply
  bodies are trimmed by. Trimming is stated for any class of characters (`strip`), because
  addresses and paths are trimmed by classes of their own.
-/

namespace Postbox.Text

/-- White space in Unicode's sense. -/
def isBlank (c : Char) : Bool :=
  let n := c.toNat
  (9 ≤ n && n ≤ 13) || n == 0x20 || n == 0x85 || n == 0xA0 || n == 0x1680 ||
    (0x2000 ≤ n && n ≤ 0x200A) || n == 0x2028 || n == 0x2029 || n == 0x202F ||
    n == 0x205F || n == 0x3000

/-- The character with a code point, if there is one. -/
def character? (n : Nat) : Option Char :=
  if n < 0xD800 || (0xE000 ≤ n && n < 0x110000) then some (Char.ofNat n) else none

/-- A text without its leading and its trailing characters of class `p`. -/
def strip (p : Char → Bool) (cs : List Char) : List Char :=
  ((cs.dropWhile p).reverse.dropWhile p).reverse

/-- A text without blanks at either end. -/
def trim (s : String) : String :=
  String.ofList (strip isBlank s.toList)

/-- A text cut down to `width` characters: a longer one keeps `width - 1` of them and ends in an
    ellipsis. -/
def truncate (width : Nat) (s : String) : String :=
  if s.toList.length ≤ width then s else String.ofList (s.toList.take (width - 1) ++ ['…'])

end Postbox.Text
