import Postbox.Json.Reader

/-! # Spelling — every way to spell a token is read as that token

    A character of a text may stand for itself or be escaped, by a letter or by its
    number; the exponent of a number may have either letter and a sign; marks and
    words are spelled in one way.  The reader takes each spelling to its end and no
    further: a text ends at its closing quote, because a quote inside is escaped, and
    a number ends where no digit, point or exponent goes on (`EndsNumber`).

    The induction for texts is on the spelling, one case for each way to spell a
    character, with whatever stands behind the quote left open. -/

namespace Postbox.Json

/-! ## Texts -/

/-- Four hexadecimal digits of either case that denote a number. -/
def IsHex4 (ds : List Char) (n : Nat) : Prop :=
  ds.length = 4 ∧ (∀ c ∈ ds, (Hex.digit? c).isSome = true) ∧ Hex.number ds = n

/-- The characters that can be escaped by a letter or a mark, behind it. -/
def shortEscapes : List (Char × Char) :=
  [('"', '"'), ('\\', '\\'), ('/', '/'), ('b', '\x08'), ('f', '\x0c'), ('n', '\n'), ('r', '\r'),
    ('t', '\t')]

/-- The first half of a surrogate pair. -/
def IsHighHalf (n : Nat) : Prop := 0xD800 ≤ n ∧ n < 0xDC00

/-- The second half of a surrogate pair. -/
def IsLowHalf (n : Nat) : Prop := 0xDC00 ≤ n ∧ n < 0xE000

/-- The second half of a surrogate pair is escaped in front. -/
def BeginsLow (s : List Char) : Prop :=
  ∃ ds n rest, s = '\\' :: 'u' :: (ds ++ rest) ∧ IsHex4 ds n ∧ IsLowHalf n

/-- Characters between quotes spell a text.  A character beyond the first 65536 is
    escaped as two halves; a half by itself spells what is no character. -/
inductive SpellsText : List Char → Glyphs → Prop
  | nil : SpellsText [] []
  | plain {c : Char} {s : List Char} {g : Glyphs} (hq : c ≠ '"') (hb : c ≠ '\\')
      (hc : 0x20 ≤ c.toNat) (h : SpellsText s g) : SpellsText (c :: s) (some c :: g)
  | short {e c : Char} {s : List Char} {g : Glyphs} (he : (e, c) ∈ shortEscapes)
      (h : SpellsText s g) : SpellsText ('\\' :: e :: s) (some c :: g)
  | code {c : Char} {ds s : List Char} {g : Glyphs} (hd : IsHex4 ds c.toNat)
      (h : SpellsText s g) : SpellsText ('\\' :: 'u' :: (ds ++ s)) (some c :: g)
  | pair {c : Char} {high low : Nat} {ds es s : List Char} {g : Glyphs} (hd : IsHex4 ds high)
      (he : IsHex4 es low) (hhigh : IsHighHalf high) (hlow : IsLowHalf low)
      (hc : c.toNat = 0x10000 + (high - 0xD800) * 1024 + (low - 0xDC00)) (h : SpellsText s g) :
      SpellsText ('\\' :: 'u' :: (ds ++ '\\' :: 'u' :: (es ++ s))) (some c :: g)
  | highHalf {n : Nat} {ds s : List Char} {g : Glyphs} (hd : IsHex4 ds n) (hn : IsHighHalf n)
      (hs : ¬ BeginsLow s) (h : SpellsText s g) :
      SpellsText ('\\' :: 'u' :: (ds ++ s)) (none :: g)
  | lowHalf {n : Nat} {ds s : List Char} {g : Glyphs} (hd : IsHex4 ds n) (hn : IsLowHalf n)
      (h : SpellsText s g) : SpellsText ('\\' :: 'u' :: (ds ++ s)) (none :: g)

/-- What the four digits are, one by one. -/
theorem isHex4_iff {ds : List Char} {n : Nat} : IsHex4 ds n ↔
    ∃ a b c d, ds = [a, b, c, d] ∧ ∃ a' b' c' d', Hex.digit? a = some a' ∧ Hex.digit? b = some b' ∧
      Hex.digit? c = some c' ∧ Hex.digit? d = some d' ∧
      n = ((a' * 16 + b') * 16 + c') * 16 + d' := by
  constructor
  · rintro ⟨hlength, hdigits, rfl⟩
    match ds, hlength with
    | [a, b, c, d], _ =>
        obtain ⟨a', ha⟩ := Option.isSome_iff_exists.mp (hdigits a (by simp))
        obtain ⟨b', hb⟩ := Option.isSome_iff_exists.mp (hdigits b (by simp))
        obtain ⟨c', hc⟩ := Option.isSome_iff_exists.mp (hdigits c (by simp))
        obtain ⟨d', hd⟩ := Option.isSome_iff_exists.mp (hdigits d (by simp))
        refine ⟨a, b, c, d, rfl, a', b', c', d', ha, hb, hc, hd, ?_⟩
        simp [Hex.number, ha, hb, hc, hd]
  · rintro ⟨a, b, c, d, rfl, a', b', c', d', ha, hb, hc, hd, rfl⟩
    refine ⟨rfl, ?_, ?_⟩
    · simp [ha, hb, hc, hd]
    · simp [Hex.number, ha, hb, hc, hd]

theorem IsHex4.read {ds : List Char} {n : Nat} (h : IsHex4 ds n) (rest : Glyphs) :
    hex4? (ds.map some ++ rest) = some (n, rest) := by
  obtain ⟨a, b, c, d, rfl, a', b', c', d', ha, hb, hc, hd, rfl⟩ := isHex4_iff.mp h
  simp [hex4?, ha, hb, hc, hd]

/-- Only an escape of a second half is taken for one. -/
theorem lowHalf_none {s : List Char} {g : Glyphs} (h : SpellsText s g) (hs : ¬ BeginsLow s)
    (rest : Glyphs) : lowHalf? (s.map some ++ some '"' :: rest) = none := by
  -- an escape by number in front, of which it is known that it is no second half
  have hcode : ∀ {ds : List Char} {n : Nat} {s : List Char}, IsHex4 ds n →
      ¬ BeginsLow ('\\' :: 'u' :: (ds ++ s)) →
      lowHalf? (('\\' :: 'u' :: (ds ++ s)).map some ++ some '"' :: rest) = none := by
    intro ds n s hd hs
    have hn : 0xDC00 ≤ n → 0xE000 ≤ n := fun hlow =>
      Nat.le_of_not_lt fun hhigh => hs ⟨ds, n, s, rfl, hd, hlow, hhigh⟩
    simpa [lowHalf?, hd.read] using hn
  cases h with
  | nil => rfl
  | plain hq hb hc h => simp [lowHalf?, hb]
  | short he h =>
      simp only [shortEscapes, List.mem_cons, List.not_mem_nil, or_false, Prod.mk.injEq] at he
      rcases he with ⟨rfl, -⟩ | ⟨rfl, -⟩ | ⟨rfl, -⟩ | ⟨rfl, -⟩ | ⟨rfl, -⟩ | ⟨rfl, -⟩ | ⟨rfl, -⟩
        | ⟨rfl, -⟩ <;> rfl
  | code hd h => exact hcode hd hs
  | pair hd he hhigh hlow hc h => exact hcode hd hs
  | highHalf hd hn hs' h => exact hcode hd hs
  | lowHalf hd hn h => exact hcode hd hs

/-- A backslash with what it escapes is read as one glyph. -/
theorem lexText_escaped {s rest : Glyphs} {g : Option Char} (h : unescape? s = some (g, rest)) :
    lexText (some '\\' :: s) = (lexText rest).map fun (body, rest) => (g :: body, rest) := by
  rw [lexText]
  split
  · rename_i hnone
    rw [h] at hnone
    cases hnone
  · rename_i g' rest' hsome
    rw [h] at hsome
    obtain ⟨rfl, rfl⟩ := Prod.mk.inj (Option.some.inj hsome)
    rfl

/-- A character that needs no escape is read as it is. -/
theorem lexText_plain {c : Char} (hq : c ≠ '"') (hb : c ≠ '\\') (hc : ¬ c.toNat < 0x20)
    (rest : Glyphs) :
    lexText (some c :: rest)
      = (lexText rest).map fun (body, rest) => (some c :: body, rest) := by
  rw [lexText]
  · rw [if_neg hc]
  · exact hq
  · exact hb

/-- The escape of a number is read by what the number is: a character, or a half. -/
theorem unescape_number {ds : List Char} {n : Nat} (hd : IsHex4 ds n) (rest : Glyphs) :
    unescape? (some 'u' :: (ds.map some ++ rest))
      = if 0xD800 ≤ n ∧ n < 0xDC00 then
          match lowHalf? rest with
          | some (low, rest) =>
            some (some (Char.ofNat (0x10000 + (n - 0xD800) * 1024 + (low - 0xDC00))), rest)
          | none => some (none, rest)
        else if 0xDC00 ≤ n ∧ n < 0xE000 then some (none, rest)
        else some (some (Char.ofNat n), rest) := by
  rewrite [unescape?, hd.read]
  rfl

theorem lowHalf_escaped {ds : List Char} {n : Nat} (hd : IsHex4 ds n) (hn : IsLowHalf n)
    (rest : Glyphs) :
    lowHalf? (some '\\' :: some 'u' :: (ds.map some ++ rest)) = some (n, rest) := by
  rw [lowHalf?, hd.read, Option.filter_some, if_pos]
  simpa [IsLowHalf] using hn

/-- **A text is read up to the quote that closes it**, however it is spelled. -/
theorem lexText_spelled {s : List Char} {g : Glyphs} (h : SpellsText s g) (rest : Glyphs) :
    lexText (s.map some ++ some '"' :: rest) = some (g, rest) := by
  induction h with
  | nil => rw [List.map_nil, List.nil_append, lexText]
  | plain hq hb hc _ ih =>
      rw [List.map_cons, List.cons_append, lexText_plain hq hb (by omega), ih]
      rfl
  | @short e c s g he _ ih =>
      have hescape : unescape? (some e :: (s.map some ++ some '"' :: rest))
          = some (some c, s.map some ++ some '"' :: rest) := by
        simp only [shortEscapes, List.mem_cons, List.not_mem_nil, or_false, Prod.mk.injEq] at he
        rcases he with ⟨rfl, rfl⟩ | ⟨rfl, rfl⟩ | ⟨rfl, rfl⟩ | ⟨rfl, rfl⟩ | ⟨rfl, rfl⟩ | ⟨rfl, rfl⟩
          | ⟨rfl, rfl⟩ | ⟨rfl, rfl⟩ <;> rfl
      simp only [List.map_cons, List.cons_append]
      rw [lexText_escaped hescape, ih]
      rfl
  | @code c ds s g hd _ ih =>
      simp only [List.map_cons, List.map_append, List.cons_append, List.append_assoc]
      -- a character is none of the halves
      have hrange : c.toNat < 0xD800 ∨ 0xDFFF < c.toNat ∧ c.toNat < 0x110000 := c.valid
      have hescape := unescape_number hd (s.map some ++ some '"' :: rest)
      rw [if_neg (by omega), if_neg (by omega), Char.ofNat_toNat] at hescape
      rw [lexText_escaped hescape, ih]
      rfl
  | @pair c high low ds es s g hd he hhigh hlow hc _ ih =>
      simp only [List.map_cons, List.map_append, List.cons_append, List.append_assoc]
      have hescape := unescape_number hd
        (some '\\' :: some 'u' :: (es.map some ++ (s.map some ++ some '"' :: rest)))
      rw [if_pos (by exact hhigh), lowHalf_escaped he hlow] at hescape
      dsimp only at hescape
      rw [← hc, Char.ofNat_toNat] at hescape
      rw [lexText_escaped hescape, ih]
      rfl
  | @highHalf n ds s g hd hn hs h ih =>
      simp only [List.map_cons, List.map_append, List.cons_append, List.append_assoc]
      have hescape := unescape_number hd (s.map some ++ some '"' :: rest)
      rw [if_pos (by exact hn), lowHalf_none h hs] at hescape
      rw [lexText_escaped hescape, ih]
      rfl
  | @lowHalf n ds s g hd hn _ ih =>
      simp only [List.map_cons, List.map_append, List.cons_append, List.append_assoc]
      have hescape := unescape_number hd (s.map some ++ some '"' :: rest)
      have hlow : 0xDC00 ≤ n ∧ n < 0xE000 := hn
      rw [if_neg (by omega), if_pos hlow] at hescape
      rw [lexText_escaped hescape, ih]
      rfl

/-! ## Numbers -/

/-- No digit, point or exponent stands in front. -/
def EndsNumber : Glyphs → Prop
  | some c :: _ => c.isDigit = false ∧ c ≠ '.' ∧ c ≠ 'e' ∧ c ≠ 'E'
  | _ => True

/-- A number is written as the reader takes it: digits before the point, without
    leading zeros, and digits behind it. -/
structure Number.IsProper (n : Number) : Prop where
  digits : ∀ c ∈ n.whole, c.isDigit = true
  lead : n.whole = ['0'] ∨ ∃ c cs, n.whole = c :: cs ∧ c ≠ '0'
  fraction : ∀ ds, n.fraction = some ds → ds ≠ [] ∧ ∀ c ∈ ds, c.isDigit = true

/-- Digits spell a number as they are read in base ten. -/
structure SpellsDigits (ds : List Char) (n : Nat) : Prop where
  some : ds ≠ []
  digits : ∀ c ∈ ds, c.isDigit = true
  value : Nat.ofDigitChars 10 ds 0 = n

/-- Characters spell an exponent: none, or a letter and digits with a sign or without. -/
inductive SpellsExponent : List Char → Option Int → Prop
  | none : SpellsExponent [] none
  | bare {e : Char} {ds : List Char} {n : Nat} (he : e = 'e' ∨ e = 'E')
      (h : SpellsDigits ds n) : SpellsExponent (e :: ds) (some n)
  | plus {e : Char} {ds : List Char} {n : Nat} (he : e = 'e' ∨ e = 'E')
      (h : SpellsDigits ds n) : SpellsExponent (e :: '+' :: ds) (some n)
  | minus {e : Char} {ds : List Char} {n : Nat} (he : e = 'e' ∨ e = 'E')
      (h : SpellsDigits ds n) : SpellsExponent (e :: '-' :: ds) (some (-n))

namespace Number

/-- The characters of a fraction. -/
def writeFraction (n : Number) : List Char :=
  match n.fraction with
  | some ds => '.' :: ds
  | none => []

/-- The characters before the exponent. -/
def writeFront (n : Number) : List Char :=
  (if n.negative then ['-'] else []) ++ n.whole ++ n.writeFraction

/-- A number is spelled by its sign and digits, with its exponent behind them. -/
def SpelledBy (w : List Char) (n : Number) : Prop :=
  n.IsProper ∧ ∃ x, w = n.writeFront ++ x ∧ SpellsExponent x n.exponent

end Number

/-- No digits are in front where none goes on. -/
theorem digits_nil {s : Glyphs} (h : ∀ c rest, s = some c :: rest → c.isDigit = false) :
    digits s = ([], s) := by
  unfold digits
  split
  · rename_i c rest
    rw [if_neg (by rw [h c rest rfl]; exact Bool.false_ne_true)]
  · rfl

/-- A run of digits is read to its end. -/
theorem digits_append {ds : List Char} (hd : ∀ c ∈ ds, c.isDigit = true) {s : Glyphs}
    (hs : ∀ c rest, s = some c :: rest → c.isDigit = false) :
    digits (ds.map some ++ s) = (ds, s) := by
  induction ds with
  | nil => exact digits_nil hs
  | cons d ds ih =>
      have hrest := ih fun c hc => hd c (List.mem_cons_of_mem d hc)
      rw [List.map_cons, List.cons_append, digits, if_pos (hd d List.mem_cons_self), hrest]

/-- What ends a number has no digit in front. -/
theorem EndsNumber.digit {s : Glyphs} (h : EndsNumber s) :
    ∀ c rest, s = some c :: rest → c.isDigit = false := by
  rintro c rest rfl
  exact h.1

/-- What ends a number has no exponent in front. -/
theorem exponent_absent {s : Glyphs} (hs : EndsNumber s) : exponent? s = some (none, s) := by
  match s, hs with
  | [], _ => rfl
  | none :: _, _ => rfl
  | some c :: _, ⟨_, _, he, hE⟩ => simp [exponent?, he, hE]

/-- **An exponent is read to its end**, with either letter and any sign. -/
theorem exponent_spelled {x : List Char} {e : Option Int} (h : SpellsExponent x e) {s : Glyphs}
    (hs : EndsNumber s) : exponent? (x.map some ++ s) = some (e, s) := by
  cases h with
  | none => exact exponent_absent hs
  | @bare l ds n he h =>
      have hread := digits_append h.digits hs.digit
      obtain ⟨d, ds, rfl⟩ := List.exists_cons_of_ne_nil h.some
      -- the first digit is no sign, so the reader does not skip it
      have hdigit := h.digits d List.mem_cons_self
      have hm : d ≠ '-' := by rintro rfl; exact absurd hdigit (by decide)
      have hp : d ≠ '+' := by rintro rfl; exact absurd hdigit (by decide)
      have hvalue := h.value
      simp only [List.map_cons, List.cons_append] at hread ⊢
      rcases he with rfl | rfl <;> simp [exponent?, hm, hp, hread, hvalue]
  | @plus l ds n he h =>
      have hread := digits_append h.digits hs.digit
      have hvalue := h.value
      rcases he with rfl | rfl <;> simp [exponent?, hread, hvalue, h.some]
  | @minus l ds n he h =>
      have hread := digits_append h.digits hs.digit
      have hvalue := h.value
      rcases he with rfl | rfl <;> simp [exponent?, hread, hvalue, h.some]

/-- What begins with the spelling of an exponent, or ends a number, begins with no
    digit and no point. -/
theorem tail_head {x : List Char} {e : Option Int} (h : SpellsExponent x e) {s : Glyphs}
    (hs : EndsNumber s) :
    ∀ c rest, x.map some ++ s = some c :: rest → c.isDigit = false ∧ c ≠ '.' := by
  intro c rest heq
  have hletter : ∀ {l : Char}, l = 'e' ∨ l = 'E' → l.isDigit = false ∧ l ≠ '.' := by
    rintro l (rfl | rfl) <;> decide
  cases h with
  | none =>
      obtain rfl : s = some c :: rest := heq
      exact ⟨hs.1, hs.2.1⟩
  | bare he _ | plus he _ | minus he _ =>
      rw [← Option.some.inj (List.cons.inj heq).1]
      exact hletter he

/-- A fraction is read to its end. -/
theorem fraction_write {n : Number} (hn : n.IsProper) {s : Glyphs}
    (hs : ∀ c rest, s = some c :: rest → c.isDigit = false ∧ c ≠ '.') :
    fraction? (n.writeFraction.map some ++ s) = some (n.fraction, s) := by
  rw [Number.writeFraction]
  cases hf : n.fraction with
  | none =>
      show fraction? s = _
      unfold fraction?
      split
      · rename_i rest
        exact absurd rfl (hs '.' rest rfl).2
      · rfl
  | some ds =>
      obtain ⟨hne, hd⟩ := hn.fraction ds hf
      show fraction? (some '.' :: (ds.map some ++ s)) = _
      rw [fraction?, digits_append hd fun c rest h => (hs c rest h).1]
      simp [hne]

/-- What stands behind the whole part of a number is no digit. -/
theorem Number.middle_digit (n : Number) {s : Glyphs}
    (hs : ∀ c rest, s = some c :: rest → c.isDigit = false ∧ c ≠ '.') :
    ∀ c rest, n.writeFraction.map some ++ s = some c :: rest → c.isDigit = false := by
  intro c rest h
  rw [Number.writeFraction] at h
  cases hf : n.fraction with
  | none =>
      rw [hf] at h
      exact (hs c rest h).1
  | some ds =>
      rw [hf] at h
      rw [← Option.some.inj (List.cons.inj h).1]
      decide

/-- **A number is read to its end**, however its exponent is spelled. -/
theorem lexNumber_spelled {w : List Char} {n : Number} (h : n.SpelledBy w) {rest : Glyphs}
    (hs : EndsNumber rest) : lexNumber (w.map some ++ rest) = some (n, rest) := by
  obtain ⟨hn, x, rfl, hx⟩ := h
  have htail := tail_head hx hs
  have hexponent := exponent_spelled hx hs
  have hfraction := fraction_write hn htail
  have hmiddle := n.middle_digit htail
  generalize hmid : n.writeFraction.map some ++ (x.map some ++ rest) = middle
    at hfraction hmiddle
  have hwrite : (n.writeFront ++ x).map some ++ rest
      = (if n.negative then ['-'] else []).map some ++ (n.whole.map some ++ middle) := by
    rw [← hmid, Number.writeFront]
    simp only [List.map_append, List.append_assoc]
  obtain ⟨negative, whole, fraction, exponent⟩ := n
  rw [hwrite]
  -- behind a leading zero no digit is taken, behind any other all of them are
  rcases hn.lead with h0 | ⟨c, cs, hc, hne⟩
  · obtain rfl : whole = ['0'] := h0
    cases negative with
    | true => simp [lexNumber, hfraction, hexponent]
    | false => simp [lexNumber, hfraction, hexponent]
  · obtain rfl : whole = c :: cs := hc
    have hd : digits (some c :: (cs.map some ++ middle)) = (c :: cs, middle) :=
      digits_append hn.digits hmiddle
    have hminus : c ≠ '-' := by
      rintro rfl
      exact absurd (hn.digits '-' List.mem_cons_self) (by decide)
    cases negative with
    | true => simp [lexNumber, hne, hd, hfraction, hexponent]
    | false => simp [lexNumber, hminus, hne, hd, hfraction, hexponent]

/-- A number begins with a minus sign or a digit. -/
theorem Number.SpelledBy.head {w : List Char} {n : Number} (h : n.SpelledBy w) :
    ∃ c cs, w = c :: cs ∧ (c = '-' ∨ c.isDigit = true) := by
  obtain ⟨hn, x, rfl, -⟩ := h
  rw [Number.writeFront]
  cases n.negative with
  | true => exact ⟨'-', _, rfl, Or.inl rfl⟩
  | false =>
      rcases hn.lead with h0 | ⟨c, cs, hc, -⟩
      · rw [h0]
        exact ⟨'0', _, rfl, Or.inr rfl⟩
      · have hd := hn.digits c (by rw [hc]; exact List.mem_cons_self)
        rw [hc]
        exact ⟨c, _, rfl, Or.inr hd⟩

/-! ## Tokens -/

namespace Token

/-- A token is spelled by some characters: a text between quotes, a number by its
    digits, a mark or word as it is. -/
def SpelledBy (w : List Char) : Token → Prop
  | .text g => ∃ s, w = '"' :: (s ++ ['"']) ∧ SpellsText s g
  | .number n => n.SpelledBy w
  | t => w = t.write

/-- A token can end in front of these glyphs. -/
def EndsAt (rest : Glyphs) : Token → Prop
  | .number _ => EndsNumber rest
  | _ => True

end Token

/-- What begins with a minus sign or a digit is read as a number. -/
theorem lexToken_number {c : Char} (h : c = '-' ∨ c.isDigit = true) (s : Glyphs) :
    lexToken (some c :: s) = (lexNumber (some c :: s)).map fun (n, rest) => (.number n, rest) := by
  have hne : ∀ d : Char, d ≠ '-' → d.isDigit = false → c ≠ d := by
    rintro d hminus hdigit rfl
    rcases h with rfl | h
    · exact hminus rfl
    · rw [hdigit] at h
      exact nomatch h
  unfold lexToken
  split
  all_goals first
    | rfl
    | rename_i heq
      exact absurd (Option.some.inj (List.cons.inj heq).1) (hne _ (by decide) (by decide))

/-- **A token is read to its end**, however it is spelled. -/
theorem lexToken_spelled {w : List Char} {t : Token} (ht : t.SpelledBy w) {rest : Glyphs}
    (hs : t.EndsAt rest) : lexToken (w.map some ++ rest) = some (t, rest) := by
  cases t with
  | number n =>
      have hread := lexNumber_spelled ht hs
      obtain ⟨c, cs, rfl, hc⟩ := ht.head
      rw [List.map_cons, List.cons_append] at hread ⊢
      rw [lexToken_number hc, hread]
      rfl
  | text g =>
      obtain ⟨s, rfl, hspelled⟩ := ht
      rw [List.map_cons, List.map_append, List.cons_append, List.append_assoc]
      show (lexText (s.map some ++ some '"' :: rest)).map _ = _
      rw [lexText_spelled hspelled]
      rfl
  | bool b => cases b with
    | true => cases ht; rfl
    | false => cases ht; rfl
  | null => cases ht; rfl
  | openArray => cases ht; rfl
  | closeArray => cases ht; rfl
  | openObject => cases ht; rfl
  | closeObject => cases ht; rfl
  | comma => cases ht; rfl
  | colon => cases ht; rfl

/-- A token has a first character, which is no blank. -/
theorem Token.SpelledBy.head {w : List Char} {t : Token} (ht : t.SpelledBy w) :
    ∃ c cs, w = c :: cs ∧ isSpace (some c) = false := by
  cases t with
  | number n =>
      obtain ⟨c, cs, hc, hd⟩ := Number.SpelledBy.head ht
      refine ⟨c, cs, hc, ?_⟩
      cases hspace : isSpace (some c) with
      | false => rfl
      | true =>
          simp only [isSpace, Bool.or_eq_true, beq_iff_eq, Option.some.injEq] at hspace
          rcases hspace with ((rfl | rfl) | rfl) | rfl <;> revert hd <;> decide
  | text g =>
      obtain ⟨s, rfl, -⟩ := ht
      exact ⟨'"', _, rfl, rfl⟩
  | bool b => cases b with
    | true => exact ⟨'t', _, ht, rfl⟩
    | false => exact ⟨'f', _, ht, rfl⟩
  | null => exact ⟨'n', _, ht, rfl⟩
  | openArray => exact ⟨_, _, ht, rfl⟩
  | closeArray => exact ⟨_, _, ht, rfl⟩
  | openObject => exact ⟨_, _, ht, rfl⟩
  | closeObject => exact ⟨_, _, ht, rfl⟩
  | comma => exact ⟨_, _, ht, rfl⟩
  | colon => exact ⟨_, _, ht, rfl⟩

end Postbox.Json
