import Postbox.Proofs.Json.Spelling
import Postbox.Proofs.Utf8

/-! # Tokens — the written form of a token spells it

    Of the ways to spell a token the writer takes one: it escapes the quote, the
    backslash and control characters, writes an exponent with a small letter, and has
    a minus sign only where it is needed.  So what is written is read back as a case
    of what is spelled (`Token.IsProper.spelled`).

    `Spells` says that glyphs are spellings of the tokens of a list, one after the
    other, with blanks at any places between them. -/

namespace Postbox.Json

/-! ## Texts -/

namespace Glyphs

/-- Glyphs that are all characters are a text. -/
theorem text_map_some (cs : List Char) : text? (cs.map some) = some (String.ofList cs) := by
  rw [text?, Text.mapM_map_some]
  rfl

/-- The text of the glyphs of a proper text. -/
theorem text_ofString (s : String) : (ofString s).text? = some s := by
  rw [ofString, text_map_some, String.ofList_toList]

/-- Different texts have different glyphs. -/
theorem ofString_inj {s t : String} : ofString s = ofString t ↔ s = t := by
  constructor
  · intro h
    have h' := congrArg text? h
    rw [text_ofString, text_ofString] at h'
    exact Option.some.inj h'
  · exact congrArg ofString

end Glyphs

/-- The value of a hexadecimal digit in lower case. -/
theorem digit_lower : ∀ n < 16, Hex.digit? (Hex.lower n) = some n := by decide

/-- A control character is escaped by its number. -/
theorem hex4_control {c : Char} (h : c.toNat < 0x20) :
    IsHex4 ['0', '0', Hex.lower (c.toNat / 16), Hex.lower (c.toNat % 16)] c.toNat := by
  have hhi := digit_lower (c.toNat / 16) (by omega)
  have hlo := digit_lower (c.toNat % 16) (by omega)
  exact isHex4_iff.mpr ⟨_, _, _, _, rfl, 0, 0, _, _, rfl, rfl, hhi, hlo, by omega⟩

/-- The written form of a character spells it. -/
theorem spells_escape (c : Char) {s : List Char} {g : Glyphs} (h : SpellsText s g) :
    SpellsText (escape c ++ s) (some c :: g) := by
  by_cases hq : c = '"'
  · subst hq
    exact .short (by decide) h
  by_cases hb : c = '\\'
  · subst hb
    exact .short (by decide) h
  by_cases h8 : c = '\x08'
  · subst h8
    exact .short (by decide) h
  by_cases hc : c = '\x0c'
  · subst hc
    exact .short (by decide) h
  by_cases hn : c = '\n'
  · subst hn
    exact .short (by decide) h
  by_cases hr : c = '\r'
  · subst hr
    exact .short (by decide) h
  by_cases ht : c = '\t'
  · subst ht
    exact .short (by decide) h
  -- what is left has no short escape
  by_cases hlt : c.toNat < 0x20
  · have he : escape c = ['\\', 'u', '0', '0', Hex.lower (c.toNat / 16),
        Hex.lower (c.toNat % 16)] := by
      simp only [escape, beq_iff_eq, hq, hb, h8, hc, hn, hr, ht, hlt, if_false, if_true]
    rw [he]
    exact .code (hex4_control hlt) h
  · have he : escape c = [c] := by
      simp only [escape, beq_iff_eq, hq, hb, h8, hc, hn, hr, ht, hlt, if_false]
    rw [he]
    exact .plain hq hb (by omega) h

/-- The written form of a text spells it. -/
theorem spells_chars (cs : List Char) : SpellsText (cs.flatMap escape) (cs.map some) := by
  induction cs with
  | nil => exact .nil
  | cons c cs ih =>
      rw [List.flatMap_cons, List.map_cons]
      exact spells_escape c ih

/-! ## Numbers -/

/-- The digits of a number are digits. -/
theorem isDigit_toDigits (n : Nat) : ∀ c ∈ Nat.toDigits 10 n, c.isDigit = true :=
  fun _ hc => Nat.isDigit_of_mem_toDigits (by decide) (by decide) hc

theorem spells_toDigits (n : Nat) : SpellsDigits (Nat.toDigits 10 n) n where
  some := Nat.toDigits_ne_nil
  digits := isDigit_toDigits n
  value := Nat.ofDigitChars_ten_toDigits

/-- The written form of an exponent spells it. -/
theorem spells_exponent (e : Int) : SpellsExponent ('e' :: (toString e).toList) (some e) := by
  cases e with
  | ofNat m =>
      have hw : (toString (Int.ofNat m)).toList = Nat.toDigits 10 m := Nat.toList_repr
      rw [hw]
      exact .bare (Or.inl rfl) (spells_toDigits m)
  | negSucc m =>
      have hw : (toString (Int.negSucc m)).toList = '-' :: Nat.toDigits 10 (m + 1) := by
        show ("-" ++ (m + 1).repr).toList = _
        rw [String.toList_append, Nat.toList_repr]
        rfl
      rw [hw]
      exact .minus (Or.inl rfl) (spells_toDigits (m + 1))

/-- The written form of a number spells it. -/
theorem Number.IsProper.spelled {n : Number} (hn : n.IsProper) : n.SpelledBy n.write := by
  refine ⟨hn, _, rfl, ?_⟩
  cases n.exponent with
  | none => exact .none
  | some e => exact spells_exponent e

/-! ## Marks, words, numbers and texts -/

/-- A token is what its written form is read as: a text without gaps, a number
    with its digits in order, or a mark or word. -/
def Token.IsProper : Token → Prop
  | .text g => ∃ s, g = Glyphs.ofString s
  | .number n => n.IsProper
  | _ => True

/-- A text without gaps is written between quotes, character by character. -/
theorem quote_ofString (s : String) :
    quote (Glyphs.ofString s) = '"' :: (s.toList.flatMap escape ++ ['"']) := by
  rw [quote, Glyphs.ofString, List.flatMap_map]
  rfl

/-- **The written form of a token spells it.** -/
theorem Token.IsProper.spelled {t : Token} (ht : t.IsProper) : t.SpelledBy t.write := by
  cases t with
  | number n => exact Number.IsProper.spelled ht
  | text g =>
      obtain ⟨s, rfl⟩ := ht
      exact ⟨_, quote_ofString s, spells_chars s.toList⟩
  | _ => rfl

/-! ## Documents -/

/-- Glyphs are spellings of tokens, one after the other, with blanks at any places
    between them. -/
inductive Spells : Glyphs → List Token → Prop
  | nil : Spells [] []
  | blank {g : Option Char} {s : Glyphs} {ts : List Token} (hg : isSpace g = true)
      (h : Spells s ts) : Spells (g :: s) ts
  | token {t : Token} {w : List Char} {s : Glyphs} {ts : List Token} (ht : t.SpelledBy w)
      (h : Spells s ts) : Spells (w.map some ++ s) (t :: ts)

/-- The written forms of tokens spell them, without blanks. -/
theorem spells_write {ts : List Token} (hp : ∀ t ∈ ts, t.IsProper) :
    Spells ((ts.flatMap Token.write).map some) ts := by
  induction ts with
  | nil => exact .nil
  | cons t ts ih =>
      obtain ⟨ht, hts⟩ := List.forall_mem_cons.mp hp
      rw [List.flatMap_cons, List.map_append]
      exact .token ht.spelled (ih hts)

/-- Blanks in front are passed over. -/
theorem lex_blank {g : Option Char} (hg : isSpace g = true) (s : Glyphs) :
    lex (g :: s) = lex s := by
  rw [lex, if_pos hg]

/-- A token in front is cut off, if it can end in front of the rest. -/
theorem lex_token {w : List Char} {t : Token} (ht : t.SpelledBy w) {s : Glyphs}
    (hs : t.EndsAt s) : lex (w.map some ++ s) = (lex s).map (t :: ·) := by
  obtain ⟨c, cs, rfl, hspace⟩ := ht.head
  have htoken := lexToken_spelled ht hs
  rw [List.map_cons, List.cons_append] at htoken ⊢
  -- the reader checks that a token takes some glyphs, which is why it ends
  have hlen : s.length ≤ (cs.map some ++ s).length := by
    rw [List.length_append]
    exact Nat.le_add_left ..
  rw [lex, hspace, if_neg Bool.false_ne_true, htoken]
  dsimp only
  rw [if_pos hlen]

end Postbox.Json
