import Postbox.Text.Utf8

/-! # UTF-8 — what is written is read

    The bytes of a text are read as its characters, without a gap.  A character
    is written in one to four bytes; for each number of them the first byte has
    the form that `leadByte?` expects (`leadByte_one` … `leadByte_four`), with
    the range of the next byte where that is narrower, and every other byte adds
    six bits. -/

namespace Postbox.Text

/-- The number of a byte below 256. -/
theorem toNat_byte {n : Nat} (h : n < 256) : (UInt8.ofNat n).toNat = n := by
  rw [UInt8.toNat_ofNat', Nat.mod_eq_of_lt h]

/-- A byte that goes on with a character adds six bits. -/
theorem tailBytes_cons {bits owed low high n : Nat} (hn : n < 64) (hlow : low ≤ n + 0x80)
    (hhigh : n + 0x80 ≤ high) (rest : List UInt8) :
    tailBytes bits (owed + 1) low high (UInt8.ofNat (n + 0x80) :: rest)
      = tailBytes (bits * 64 + n) owed 0x80 0xBF rest := by
  have hb : (UInt8.ofNat (n + 0x80)).toNat = n + 0x80 := toNat_byte (by omega)
  rw [tailBytes, hb, if_pos ⟨hlow, hhigh⟩]
  congr 1
  omega

/-- A character that is complete is read, and reading goes on behind it. -/
theorem ofUtf8_cons {b : UInt8} {bits owed low high : Nat} {bs rest : List UInt8} {c : Char}
    (hlead : leadByte? b = some (bits, owed, low, high))
    (htail : tailBytes bits owed low high bs = (some c, rest)) :
    ofUtf8 (b :: bs) = some c :: ofUtf8 rest := by
  rw [ofUtf8]
  simp only [hlead, htail]

/-- The only byte of a character. -/
theorem leadByte_one {n : Nat} (h : n < 0x80) :
    leadByte? (UInt8.ofNat n) = some (n, 0, 0, 0) := by
  rw [leadByte?, toNat_byte (by omega), if_pos h]

/-- The first of two bytes. -/
theorem leadByte_two {n : Nat} (h : 2 ≤ n) (h' : n < 32) :
    leadByte? (UInt8.ofNat (n + 0xC0)) = some (n, 1, 0x80, 0xBF) := by
  rw [leadByte?, toNat_byte (by omega), if_neg (by omega), if_neg (by omega),
    if_pos (by omega), Nat.add_sub_cancel]

/-- The first of three bytes.  The second is not below A0 where two bytes would
    do, and not above 9F among the surrogates. -/
theorem leadByte_three {n : Nat} (h : n < 16) :
    leadByte? (UInt8.ofNat (n + 0xE0)) = some (n, 2,
      if n = 0 then 0xA0 else 0x80, if n = 13 then 0x9F else 0xBF) := by
  rw [leadByte?, toNat_byte (by omega), if_neg (by omega), if_neg (by omega),
    if_neg (by omega)]
  by_cases h0 : n = 0
  · subst h0
    rfl
  · by_cases h13 : n = 13
    · subst h13
      rfl
    · rw [if_neg (by simp; omega), if_neg (by simp; omega), if_pos (by omega), if_neg h0,
        if_neg h13, Nat.add_sub_cancel]

/-- The first of four bytes.  The second is not below 90 where three bytes would
    do, and not above 8F behind the last character. -/
theorem leadByte_four {n : Nat} (h : n < 5) :
    leadByte? (UInt8.ofNat (n + 0xF0)) = some (n, 3,
      if n = 0 then 0x90 else 0x80, if n = 4 then 0x8F else 0xBF) := by
  have hn : n = 0 ∨ n = 1 ∨ n = 2 ∨ n = 3 ∨ n = 4 := by omega
  rcases hn with rfl | rfl | rfl | rfl | rfl
  · rfl
  · rfl
  · rfl
  · rfl
  · rfl

/-- A character is none of the surrogates. -/
theorem char_range (c : Char) :
    c.toNat < 0xD800 ∨ 0xDFFF < c.toNat ∧ c.toNat < 0x110000 := c.valid

/-- The code point of a character that is made of one. -/
theorem toNat_ofNat {n : Nat} (h : n.isValidChar) : (Char.ofNat n).toNat = n := by
  rw [Char.ofNat, dif_pos h]
  rfl

/-- A character that is written in one byte. -/
theorem utf8EncodeChar_one {c : Char} (h : c.toNat ≤ 0x7F) :
    String.utf8EncodeChar c = [UInt8.ofNat c.toNat] :=
  if_pos h

/-- A character that is written in two bytes. -/
theorem utf8EncodeChar_two {c : Char} (h1 : ¬ c.toNat ≤ 0x7F) (h2 : c.toNat ≤ 0x7FF) :
    String.utf8EncodeChar c
      = [UInt8.ofNat (c.toNat / 64 % 0x20 + 0xC0), UInt8.ofNat (c.toNat % 0x40 + 0x80)] :=
  (if_neg h1).trans (if_pos h2)

/-- A character that is written in three bytes. -/
theorem utf8EncodeChar_three {c : Char} (h1 : ¬ c.toNat ≤ 0x7F) (h2 : ¬ c.toNat ≤ 0x7FF)
    (h3 : c.toNat ≤ 0xFFFF) :
    String.utf8EncodeChar c
      = [UInt8.ofNat (c.toNat / 4096 % 0x10 + 0xE0), UInt8.ofNat (c.toNat / 64 % 0x40 + 0x80),
        UInt8.ofNat (c.toNat % 0x40 + 0x80)] :=
  (if_neg h1).trans ((if_neg h2).trans (if_pos h3))

/-- A character that is written in four bytes. -/
theorem utf8EncodeChar_four {c : Char} (h1 : ¬ c.toNat ≤ 0x7F) (h2 : ¬ c.toNat ≤ 0x7FF)
    (h3 : ¬ c.toNat ≤ 0xFFFF) :
    String.utf8EncodeChar c
      = [UInt8.ofNat (c.toNat / 262144 % 0x08 + 0xF0),
        UInt8.ofNat (c.toNat / 4096 % 0x40 + 0x80), UInt8.ofNat (c.toNat / 64 % 0x40 + 0x80),
        UInt8.ofNat (c.toNat % 0x40 + 0x80)] :=
  (if_neg h1).trans ((if_neg h2).trans (if_neg h3))

/-- The bytes of a character are read as that character. -/
theorem ofUtf8_utf8EncodeChar (c : Char) (rest : List UInt8) :
    ofUtf8 (String.utf8EncodeChar c ++ rest) = some c :: ofUtf8 rest := by
  have hrange := char_range c
  have hc : Char.ofNat c.toNat = c := Char.ofNat_toNat c
  -- one case for each number of bytes; `omega` puts the bits together again
  by_cases h1 : c.toNat ≤ 0x7F
  · rw [utf8EncodeChar_one h1]
    refine ofUtf8_cons (leadByte_one (by omega)) ?_
    rw [tailBytes, hc]
    rfl
  by_cases h2 : c.toNat ≤ 0x7FF
  · rw [utf8EncodeChar_two h1 h2, List.cons_append]
    refine ofUtf8_cons (leadByte_two (n := c.toNat / 64 % 0x20) (by omega) (by omega)) ?_
    rw [List.cons_append, tailBytes_cons (by omega) (by omega) (by omega), tailBytes,
      show c.toNat / 64 % 0x20 * 64 + c.toNat % 0x40 = c.toNat by omega, hc]
    rfl
  by_cases h3 : c.toNat ≤ 0xFFFF
  · rw [utf8EncodeChar_three h1 h2 h3, List.cons_append]
    refine ofUtf8_cons (leadByte_three (n := c.toNat / 4096 % 0x10) (by omega)) ?_
    rw [List.cons_append, List.cons_append, tailBytes_cons (by omega) ?_ ?_,
      tailBytes_cons (by omega) (by omega) (by omega), tailBytes,
      show (c.toNat / 4096 % 0x10 * 64 + c.toNat / 64 % 0x40) * 64 + c.toNat % 0x40
        = c.toNat by omega, hc]
    · rfl
    · split <;> omega
    · split <;> omega
  · rw [utf8EncodeChar_four h1 h2 h3, List.cons_append]
    refine ofUtf8_cons (leadByte_four (n := c.toNat / 262144 % 0x08) (by omega)) ?_
    rw [List.cons_append, List.cons_append, List.cons_append,
      tailBytes_cons (by omega) ?_ ?_, tailBytes_cons (by omega) (by omega) (by omega),
      tailBytes_cons (by omega) (by omega) (by omega), tailBytes,
      show ((c.toNat / 262144 % 0x08 * 64 + c.toNat / 4096 % 0x40) * 64
        + c.toNat / 64 % 0x40) * 64 + c.toNat % 0x40 = c.toNat by omega, hc]
    · rfl
    · split <;> omega
    · split <;> omega

/-- **The bytes of a text are read as its characters.** -/
theorem ofUtf8_utf8 (cs : List Char) : ofUtf8 (utf8 cs) = cs.map some := by
  induction cs with
  | nil =>
      rw [utf8, List.flatMap_nil, ofUtf8]
      rfl
  | cons c cs ih =>
      rw [utf8, List.flatMap_cons, ofUtf8_utf8EncodeChar, show cs.flatMap _ = utf8 cs from rfl,
        ih]
      rfl

/-- A text that has no gap is all there. -/
theorem mapM_map_some (cs : List Char) : (cs.map some).mapM id = some cs := by
  induction cs with
  | nil => rfl
  | cons c cs ih =>
      rw [List.map_cons, List.mapM_cons, ih]
      rfl

/-- The bytes of a text are read as the text. -/
theorem ofUtf8_text (s : String) : ofUtf8? (utf8 s.toList) = some s := by
  rw [ofUtf8?, ofUtf8_utf8, mapM_map_some, Option.map_some, String.ofList_toList]

/-- No character of a text is replaced when its bytes are read. -/
theorem ofUtf8Lossy_utf8 (cs : List Char) : ofUtf8Lossy (utf8 cs) = cs := by
  rw [ofUtf8Lossy, ofUtf8_utf8, List.map_map]
  exact List.map_id cs

/-- Texts with the same bytes are the same. -/
theorem utf8_inj {cs ds : List Char} (h : utf8 cs = utf8 ds) : cs = ds := by
  rw [← ofUtf8Lossy_utf8 cs, h, ofUtf8Lossy_utf8]

end Postbox.Text
