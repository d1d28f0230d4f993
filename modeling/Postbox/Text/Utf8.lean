/-!
# UTF-8 — characters as bytes

  Bytes are read character by character. Where they are no character, the longest part of them
  that could begin one is read as a gap (`none`), and reading goes on behind it. What a gap means is
  left to the reader of the text: a refusal, a replacement character, or nothing at all.
-/

namespace Postbox.Text

/-- The bytes of a text. -/
def utf8 (cs : List Char) : List UInt8 := cs.flatMap String.utf8EncodeChar

/-- How a character that begins with a byte goes on: the bits that the byte adds, the number of
    bytes to come, and the range of the next one of them. -/
def leadByte? (b : UInt8) : Option (Nat × Nat × Nat × Nat) :=
  let n := b.toNat
  if n < 0x80 then some (n, 0, 0, 0)
  else if n < 0xC2 then none
  else if n < 0xE0 then some (n - 0xC0, 1, 0x80, 0xBF)
  else if n == 0xE0 then some (0, 2, 0xA0, 0xBF)
  else if n == 0xED then some (0xD, 2, 0x80, 0x9F)
  else if n < 0xF0 then some (n - 0xE0, 2, 0x80, 0xBF)
  else if n == 0xF0 then some (0, 3, 0x90, 0xBF)
  else if n < 0xF4 then some (n - 0xF0, 3, 0x80, 0xBF)
  else if n == 0xF4 then some (4, 3, 0x80, 0x8F)
  else none

/-- Reads the `owed` bytes that end a character, of which the first lies between `low` and `high`,
    and gives the character, if it is complete, and the bytes behind it. -/
def tailBytes (bits : Nat) : Nat → Nat → Nat → List UInt8 → Option Char × List UInt8
  | 0, _, _, rest                  => (some (Char.ofNat bits), rest)
  | _ + 1, _, _, []                => (none, [])
  | owed + 1, low, high, b :: rest =>
    if low ≤ b.toNat ∧ b.toNat ≤ high then tailBytes (bits * 64 + b.toNat % 64) owed 0x80 0xBF rest
    else (none, b :: rest)

theorem tailBytes_length (bits owed low high : Nat) (bs : List UInt8) :
    (tailBytes bits owed low high bs).2.length ≤ bs.length := by
  fun_induction tailBytes bits owed low high bs with
  | case1 => simp
  | case2 => simp
  | case3 _ _ _ _ _ _ _ ih => exact Nat.le_succ_of_le ih
  | case4 => simp

/-- The characters of a text given in bytes, and `none` for each gap between them. -/
def ofUtf8 : List UInt8 → List (Option Char)
  | []        => []
  | b :: rest =>
    match leadByte? b with
    | none => none :: ofUtf8 rest
    | some (bits, owed, low, high) =>
      (tailBytes bits owed low high rest).1 :: ofUtf8 (tailBytes bits owed low high rest).2
termination_by bs => bs.length
decreasing_by
  · simp
  · exact Nat.lt_succ_of_le (tailBytes_length ..)

/-- The text given in bytes, if they have no gap. -/
def ofUtf8? (bs : List UInt8) : Option String :=
  ((ofUtf8 bs).mapM id).map String.ofList

/-- The text given in bytes, with U+FFFD in place of each gap. -/
def ofUtf8Lossy (bs : List UInt8) : List Char :=
  (ofUtf8 bs).map (·.getD '\uFFFD')

end Postbox.Text
