/-!
# Base64 — bytes as characters

  Three bytes are four characters of six bits each. One or two bytes at the end are filled up with
  zero bits, and with equals signs to four characters.
-/

namespace Postbox.Text

/-- The characters of the 64 values of six bits. -/
def base64Alphabet : List Char :=
  "ABCDEFGHIJKLMNOPQRSTUVWXYZabcdefghijklmnopqrstuvwxyz0123456789+/".toList

/-- The character of the six bits of `n` that begin at the given bit. -/
def base64Digit (n bit : Nat) : Char := base64Alphabet.getD ((n >>> bit) % 64) 'A'

/-- The characters of some bytes. -/
def base64 : List UInt8 → List Char
  | []  => []
  | [a] =>
    let n := a.toNat <<< 16
    [base64Digit n 18, base64Digit n 12, '=', '=']
  | [a, b] =>
    let n := (a.toNat <<< 16) + (b.toNat <<< 8)
    [base64Digit n 18, base64Digit n 12, base64Digit n 6, '=']
  | a :: b :: c :: rest =>
    let n := (a.toNat <<< 16) + (b.toNat <<< 8) + c.toNat
    base64Digit n 18 :: base64Digit n 12 :: base64Digit n 6 :: base64Digit n 0 :: base64 rest

end Postbox.Text
