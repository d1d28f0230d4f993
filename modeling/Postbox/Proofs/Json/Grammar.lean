import Postbox.Proofs.Json.Values
import Postbox.Proofs.Utf8

/-! # Grammar — what is read is spelled by the text

    A value is read from every text that spells it.  This is the other half: the reader
    takes no other text (`read_eq_some`).  So a text is a document of at most one value,
    and what is said of the texts that are read can be said of their values.

    Each reader of a part takes characters that spell what it gives, and hands on the
    others.  For the whole, the tokens that an assembly has read can be told from its open
    containers and from what may come next (`Assembly.tokens`); each step adds the token
    that it reads (`tokens_step`), and at the end they are the tokens of the value. -/

namespace Postbox.Json

/-! ## Texts -/

/-- The first of some characters, taken as a glyph. -/
theorem cons_eq_chars {c : Char} {rest : Glyphs} {cs : List Char}
    (h : some c :: rest = cs.map some) : ∃ ds, cs = c :: ds ∧ rest = ds.map some := by
  obtain ⟨d, ds, rfl, hc, rfl⟩ := List.map_eq_cons_iff.mp h.symm
  obtain rfl := Option.some.inj hc
  exact ⟨ds, rfl, rfl⟩

/-- Four digits that are read denote the number. -/
theorem hex4_taken {cs : List Char} {n : Nat} {rest : Glyphs}
    (h : hex4? (cs.map some) = some (n, rest)) :
    ∃ ds es, cs = ds ++ es ∧ rest = es.map some ∧ IsHex4 ds n := by
  match cs with
  | a :: b :: c :: d :: es =>
      simp only [List.map_cons, hex4?, Option.bind_eq_bind, Option.bind_eq_some_iff,
        Option.pure_def, Option.some.injEq, Prod.mk.injEq] at h
      obtain ⟨a', ha, b', hb, c', hc, d', hd, rfl, rfl⟩ := h
      exact ⟨[a, b, c, d], es, rfl, rfl,
        isHex4_iff.mpr ⟨a, b, c, d, rfl, a', b', c', d', ha, hb, hc, hd, rfl⟩⟩
  | [] | [_] | [_, _] | [_, _, _] => cases h

/-- The second half of a pair that is read is escaped in front. -/
theorem lowHalf_taken {cs : List Char} {n : Nat} {rest : Glyphs}
    (h : lowHalf? (cs.map some) = some (n, rest)) :
    ∃ ds es, cs = '\\' :: 'u' :: (ds ++ es) ∧ rest = es.map some ∧ IsHex4 ds n ∧
      IsLowHalf n := by
  unfold lowHalf? at h
  split at h
  · rename_i s hs
    obtain ⟨behind, rfl, hbehind⟩ := cons_eq_chars hs.symm
    obtain ⟨digits, rfl, rfl⟩ := cons_eq_chars hbehind
    obtain ⟨hread, hlow⟩ := Option.filter_eq_some_iff.mp h
    obtain ⟨ds, es, rfl, rfl, hd⟩ := hex4_taken hread
    refine ⟨ds, es, rfl, rfl, hd, ?_⟩
    simpa [IsLowHalf] using hlow
  · cases h

/-- A hexadecimal digit is below sixteen. -/
theorem digit_lt {c : Char} {d : Nat} (h : Hex.digit? c = some d) : d < 16 := by
  unfold Hex.digit? at h
  split at h
  · rename_i hc
    have hle : c.toNat ≤ 57 := hc.2
    have heq := Option.some.inj h
    omega
  · split at h
    · rename_i hc
      have hle : c.toNat ≤ 102 := hc.2
      have heq := Option.some.inj h
      omega
    · split at h
      · rename_i hc
        have hle : c.toNat ≤ 70 := hc.2
        have heq := Option.some.inj h
        omega
      · exact nomatch h

/-- Four digits denote a number of sixteen bits. -/
theorem IsHex4.lt {ds : List Char} {n : Nat} (h : IsHex4 ds n) : n < 0x10000 := by
  obtain ⟨a, b, c, d, rfl, a', b', c', d', ha, hb, hc, hd, rfl⟩ := isHex4_iff.mp h
  have ha' := digit_lt ha
  have hb' := digit_lt hb
  have hc' := digit_lt hc
  have hd' := digit_lt hd
  omega

/-- Behind an escape, what is spelled up to the quote is spelled with a glyph in front. -/
def Escapes (u : List Char) (g : Option Char) (behind : List Char) : Prop :=
  ∀ w body after, behind = w ++ '"' :: after → SpellsText w body →
    SpellsText ('\\' :: (u ++ w)) (g :: body)

/-- The escape of a number that is read spells a character, or half of one. -/
theorem code_taken {ds es : List Char} {n : Nat} (hd : IsHex4 ds n) {g : Option Char}
    {rest : Glyphs} (h : unescape? (('u' :: (ds ++ es)).map some) = some (g, rest)) :
    ∃ u behind, 'u' :: (ds ++ es) = u ++ behind ∧ rest = behind.map some ∧
      Escapes u g behind := by
  rw [List.map_cons, List.map_append, unescape_number hd] at h
  have hlt := hd.lt
  split at h
  · rename_i hhigh
    split at h
    · -- both halves of a pair are there
      rename_i low s hread
      obtain ⟨rfl, rfl⟩ := Prod.mk.inj (Option.some.inj h)
      obtain ⟨fs, behind, rfl, rfl, hf, hlow⟩ := lowHalf_taken hread
      refine ⟨'u' :: (ds ++ '\\' :: 'u' :: fs), behind, by simp, rfl, ?_⟩
      intro w body after _ hw
      have hvalid : (0x10000 + (n - 0xD800) * 1024 + (low - 0xDC00)).isValidChar := by
        have hend := hlow.2
        exact Or.inr (by omega)
      have hpair := SpellsText.pair hd hf hhigh hlow (Text.toNat_ofNat hvalid) hw
      simpa using hpair
    · rename_i hread
      obtain ⟨rfl, rfl⟩ := Prod.mk.inj (Option.some.inj h)
      refine ⟨'u' :: ds, es, rfl, rfl, ?_⟩
      intro w body after hes hw
      refine .highHalf hd hhigh ?_ hw
      rintro ⟨fs, low, behind, rfl, hf, hlow⟩
      -- the half that follows would have been read
      have hsome := lowHalf_escaped hf hlow ((behind ++ '"' :: after).map some)
      rw [hes] at hread
      simp only [List.cons_append, List.append_assoc, List.map_cons, List.map_append] at hread hsome
      rw [hsome] at hread
      exact nomatch hread
  · rename_i hhigh
    split at h
    · rename_i hlow
      obtain ⟨rfl, rfl⟩ := Prod.mk.inj (Option.some.inj h)
      exact ⟨'u' :: ds, es, rfl, rfl, fun w body _ _ hw => .lowHalf hd hlow hw⟩
    · rename_i hlow
      obtain ⟨rfl, rfl⟩ := Prod.mk.inj (Option.some.inj h)
      have hvalid : n.isValidChar := by
        by_cases hless : n < 0xD800
        · exact Or.inl hless
        · exact Or.inr (by omega)
      rw [← Text.toNat_ofNat hvalid] at hd
      exact ⟨'u' :: ds, es, rfl, rfl, fun w body _ _ hw => .code hd hw⟩

/-- An escape by a letter that is read spells its character. -/
theorem short_taken {cs : List Char} {e c : Char} {s : Glyphs} (h : cs.map some = some e :: s)
    (he : (e, c) ∈ shortEscapes) :
    ∃ u behind, cs = u ++ behind ∧ s = behind.map some ∧ Escapes u (some c) behind := by
  obtain ⟨es, rfl, rfl⟩ := cons_eq_chars h.symm
  exact ⟨[e], es, rfl, rfl, fun w body _ _ hw => .short he hw⟩

/-- **An escape that is read spells its glyph.** -/
theorem unescape_taken {cs : List Char} {g : Option Char} {rest : Glyphs}
    (h : unescape? (cs.map some) = some (g, rest)) :
    ∃ u behind, cs = u ++ behind ∧ rest = behind.map some ∧ Escapes u g behind := by
  have hread := h
  unfold unescape? at h
  split at h
  case h_9 s hs =>
    obtain ⟨cs, rfl, rfl⟩ := cons_eq_chars hs.symm
    cases hfour : hex4? (cs.map some) with
    | none =>
        rw [hfour] at h
        exact nomatch h
    | some found =>
        obtain ⟨ds, es, rfl, -, hd⟩ := hex4_taken hfour
        exact code_taken hd hread
  case h_10 => exact nomatch h
  all_goals
    rename_i hs
    obtain ⟨rfl, rfl⟩ := Prod.mk.inj (Option.some.inj h)
    refine short_taken hs ?_
    decide

/-- **A text that is read is spelled up to the quote that closes it.** -/
theorem text_taken {s : Glyphs} {cs : List Char} (hs : s = cs.map some) {g rest : Glyphs}
    (h : lexText s = some (g, rest)) :
    ∃ w after, cs = w ++ '"' :: after ∧ rest = after.map some ∧ SpellsText w g := by
  fun_induction lexText s generalizing cs g rest with
  | case1 => exact nomatch h
  | case2 behind =>
      obtain ⟨rfl, rfl⟩ := Prod.mk.inj (Option.some.inj h)
      obtain ⟨after, rfl, rfl⟩ := cons_eq_chars hs
      exact ⟨[], after, rfl, rfl, .nil⟩
  | case3 => exact nomatch h
  | case4 behind g' behind' hescape ih =>
      obtain ⟨escaped, rfl, rfl⟩ := cons_eq_chars hs
      obtain ⟨u, es, rfl, rfl, hspells⟩ := unescape_taken hescape
      obtain ⟨⟨body, rest'⟩, hread, heq⟩ := Option.map_eq_some_iff.mp h
      obtain ⟨rfl, rfl⟩ := Prod.mk.inj heq
      obtain ⟨w, after, rfl, rfl, hw⟩ := ih rfl hread
      exact ⟨'\\' :: (u ++ w), after, by simp, rfl, hspells w body after rfl hw⟩
  | case5 behind ih =>
      obtain ⟨c, es, -, hc, -⟩ := List.map_eq_cons_iff.mp hs.symm
      exact nomatch hc
  | case6 => exact nomatch h
  | case7 c behind hq hb hc ih =>
      obtain ⟨es, rfl, rfl⟩ := cons_eq_chars hs
      obtain ⟨⟨body, rest'⟩, hread, heq⟩ := Option.map_eq_some_iff.mp h
      obtain ⟨rfl, rfl⟩ := Prod.mk.inj heq
      obtain ⟨w, after, rfl, rfl, hw⟩ := ih rfl hread
      exact ⟨c :: w, after, rfl, rfl, .plain hq hb (by omega) hw⟩

/-! ## Numbers -/

/-- Digits that are read are all in front. -/
theorem digits_taken (cs : List Char) :
    ∃ es, cs = (digits (cs.map some)).1 ++ es ∧ (digits (cs.map some)).2 = es.map some ∧
      ∀ c ∈ (digits (cs.map some)).1, c.isDigit = true := by
  induction cs with
  | nil => exact ⟨[], rfl, rfl, List.forall_mem_nil _⟩
  | cons c cs ih =>
      rw [List.map_cons, digits]
      split
      · rename_i hc
        obtain ⟨es, hcs, hrest, hdigits⟩ := ih
        exact ⟨es, congrArg (c :: ·) hcs, hrest, List.forall_mem_cons.mpr ⟨hc, hdigits⟩⟩
      · exact ⟨c :: cs, rfl, rfl, List.forall_mem_nil _⟩

/-- Digits that are read spell their number, if there are some. -/
theorem spellsDigits_taken {cs : List Char}
    (h : (digits (cs.map some)).1.isEmpty = false) :
    SpellsDigits (digits (cs.map some)).1 (Nat.ofDigitChars 10 (digits (cs.map some)).1 0) where
  some := by
    intro hnil
    rw [hnil] at h
    exact nomatch h
  digits := (digits_taken cs).choose_spec.2.2
  value := rfl

/-- A fraction that is read stands in front, and has digits. -/
theorem fraction_taken {cs : List Char} {f : Option (List Char)} {rest : Glyphs}
    (h : fraction? (cs.map some) = some (f, rest)) :
    ∃ es, cs = f.elim [] ('.' :: ·) ++ es ∧ rest = es.map some ∧
      ∀ ds, f = some ds → ds ≠ [] ∧ ∀ c ∈ ds, c.isDigit = true := by
  unfold fraction? at h
  split at h
  · rename_i behind hs
    obtain ⟨cs, rfl, rfl⟩ := cons_eq_chars hs.symm
    obtain ⟨es, hcs, hrest, hdigits⟩ := digits_taken cs
    dsimp only at h
    split at h
    · exact nomatch h
    · rename_i hsome
      obtain ⟨rfl, rfl⟩ := Prod.mk.inj (Option.some.inj h)
      refine ⟨es, congrArg ('.' :: ·) hcs, hrest, ?_⟩
      rintro ds heq
      obtain rfl := Option.some.inj heq
      exact ⟨fun hnil => hsome (List.isEmpty_iff.mpr hnil), hdigits⟩
  · obtain ⟨rfl, rfl⟩ := Prod.mk.inj (Option.some.inj h)
    exact ⟨cs, rfl, rfl, fun _ heq => nomatch heq⟩

/-- The digits of an exponent that is read stand in front, and spell a number. -/
theorem exponentDigits_taken {cs : List Char} {f : Nat → Int} {e : Option Int} {rest : Glyphs}
    (h : (if (digits (cs.map some)).1.isEmpty then none
      else some (some (f (Nat.ofDigitChars 10 (digits (cs.map some)).1 0)),
        (digits (cs.map some)).2)) = some (e, rest)) :
    ∃ ds es n, cs = ds ++ es ∧ rest = es.map some ∧ SpellsDigits ds n ∧ e = some (f n) := by
  obtain ⟨hsome, heq⟩ := Option.ite_none_left_eq_some.mp h
  obtain ⟨rfl, rfl⟩ := Prod.mk.inj (Option.some.inj heq)
  obtain ⟨es, hcs, hrest, -⟩ := digits_taken cs
  exact ⟨_, es, _, hcs, hrest, spellsDigits_taken (Bool.eq_false_iff.mpr hsome), rfl⟩

/-- An exponent that is read is spelled in front. -/
theorem exponent_taken {cs : List Char} {e : Option Int} {rest : Glyphs}
    (h : exponent? (cs.map some) = some (e, rest)) :
    ∃ x es, cs = x ++ es ∧ rest = es.map some ∧ SpellsExponent x e := by
  unfold exponent? at h
  split at h
  · rename_i letter behind hs
    obtain ⟨cs, rfl, rfl⟩ := cons_eq_chars hs.symm
    split at h
    · rename_i hletter
      have hl : letter = 'e' ∨ letter = 'E' := by simpa using hletter
      dsimp only at h
      split at h
      · rename_i behind hs'
        obtain ⟨ds, rfl, rfl⟩ := cons_eq_chars hs'.symm
        obtain ⟨ds, es, n, rfl, hrest, hn, rfl⟩ := exponentDigits_taken (f := fun n => -(n : Int)) h
        exact ⟨letter :: '-' :: ds, es, rfl, hrest, .minus hl hn⟩
      · rename_i behind hs'
        obtain ⟨ds, rfl, rfl⟩ := cons_eq_chars hs'.symm
        obtain ⟨ds, es, n, rfl, hrest, hn, rfl⟩ := exponentDigits_taken (f := Int.ofNat) h
        exact ⟨letter :: '+' :: ds, es, rfl, hrest, .plus hl hn⟩
      · obtain ⟨ds, es, n, rfl, hrest, hn, rfl⟩ := exponentDigits_taken (f := Int.ofNat) h
        exact ⟨letter :: ds, es, rfl, hrest, .bare hl hn⟩
    · -- another letter ends the number
      obtain ⟨rfl, rfl⟩ := Prod.mk.inj (Option.some.inj h)
      exact ⟨[], letter :: cs, rfl, rfl, .none⟩
  · obtain ⟨rfl, rfl⟩ := Prod.mk.inj (Option.some.inj h)
    exact ⟨[], cs, rfl, rfl, .none⟩

/-- The sign in front, and what follows it. -/
def sign : Glyphs → Bool × Glyphs
  | some '-' :: rest => (true, rest)
  | rest => (false, rest)

/-- The whole part in front, a zero or digits, and what follows it. -/
def whole : Glyphs → List Char × Glyphs
  | some '0' :: rest => (['0'], rest)
  | rest => digits rest

/-- Without a zero in front the whole part is all digits. -/
theorem whole_digits {s : Glyphs} (h : ∀ rest, s = some '0' :: rest → False) :
    whole s = digits s := by
  unfold whole
  split
  · exact absurd rfl (h _)
  · rfl

/-- A number is read part by part. -/
theorem lexNumber_eq (s : Glyphs) : lexNumber s
    = (fraction? (whole (sign s).2).2).bind fun f => (exponent? f.2).bind fun e =>
        if (whole (sign s).2).1.isEmpty then none
        else some (⟨(sign s).1, (whole (sign s).2).1, f.1, e.1⟩, e.2) := by
  unfold lexNumber
  split
  rename_i negative rest hsign
  have hparts : sign s = (negative, rest) := hsign
  rw [hparts]
  dsimp only
  split
  · rfl
  · rename_i hzero
    rw [whole_digits hzero]
    rfl

/-- A sign that is read stands in front. -/
theorem sign_taken (cs : List Char) : ∃ es,
    cs = (if (sign (cs.map some)).1 then ['-'] else []) ++ es ∧
      (sign (cs.map some)).2 = es.map some := by
  unfold sign
  split
  · rename_i behind hs
    obtain ⟨es, rfl, rfl⟩ := cons_eq_chars hs.symm
    exact ⟨es, rfl, rfl⟩
  · exact ⟨cs, rfl, rfl⟩

/-- A whole part that is read stands in front, without leading zeros. -/
theorem whole_taken {cs : List Char} (hsome : (whole (cs.map some)).1.isEmpty = false) :
    ∃ es, cs = (whole (cs.map some)).1 ++ es ∧ (whole (cs.map some)).2 = es.map some ∧
      (∀ c ∈ (whole (cs.map some)).1, c.isDigit = true) ∧
      ((whole (cs.map some)).1 = ['0'] ∨ ∃ c ds, (whole (cs.map some)).1 = c :: ds ∧ c ≠ '0') := by
  by_cases hzero : ∃ behind, cs.map some = some '0' :: behind
  · obtain ⟨behind, hs⟩ := hzero
    obtain ⟨es, rfl, rfl⟩ := cons_eq_chars hs.symm
    exact ⟨es, rfl, rfl, List.forall_mem_singleton.mpr rfl, Or.inl rfl⟩
  · have hother : ∀ behind, cs.map some = some '0' :: behind → False :=
      fun behind hs => hzero ⟨behind, hs⟩
    rw [whole_digits hother] at hsome ⊢
    obtain ⟨es, hcs, hrest, hdigits⟩ := digits_taken cs
    refine ⟨es, hcs, hrest, hdigits, Or.inr ?_⟩
    cases hwhole : (digits (cs.map some)).1 with
    | nil =>
        rw [hwhole] at hsome
        exact nomatch hsome
    | cons c ds =>
        refine ⟨c, ds, rfl, ?_⟩
        rintro rfl
        rw [hwhole] at hcs
        exact hother ((ds ++ es).map some) (by rw [hcs]; rfl)

/-- **A number that is read is spelled in front.** -/
theorem number_taken {cs : List Char} {n : Number} {rest : Glyphs}
    (h : lexNumber (cs.map some) = some (n, rest)) :
    ∃ w es, cs = w ++ es ∧ rest = es.map some ∧ n.SpelledBy w := by
  rw [lexNumber_eq] at h
  -- the four parts in their order, each with what is left behind it
  obtain ⟨behind, hcs, hsign⟩ := sign_taken cs
  rw [hsign] at h
  obtain ⟨⟨f, afterFraction⟩, hfraction, h⟩ := Option.bind_eq_some_iff.mp h
  obtain ⟨⟨e, afterExponent⟩, hexponent, h⟩ := Option.bind_eq_some_iff.mp h
  obtain ⟨hsome, heq⟩ := Option.ite_none_left_eq_some.mp h
  obtain ⟨rfl, rfl⟩ := Prod.mk.inj (Option.some.inj heq)
  obtain ⟨es, hbehind, hwhole, hdigits, hlead⟩ := whole_taken (Bool.eq_false_iff.mpr hsome)
  rw [hwhole] at hfraction
  obtain ⟨fs, hes, rfl, hproper⟩ := fraction_taken hfraction
  obtain ⟨x, xs, rfl, rfl, hx⟩ := exponent_taken hexponent
  refine ⟨_, xs, ?_, rfl, ⟨hdigits, hlead, hproper⟩, x, rfl, hx⟩
  have hwritten : f.elim [] ('.' :: ·) = Number.writeFraction ⟨(sign (cs.map some)).1,
      (whole (behind.map some)).1, f, e⟩ := by
    cases f with
    | none => rfl
    | some ds => rfl
  rw [Number.writeFront, ← hwritten]
  simp only [List.append_assoc]
  rw [← hes, ← hbehind, ← hcs]

/-! ## Tokens -/

/-- A mark or a word in front is a token that is spelled as it is written. -/
theorem written_taken {cs : List Char} {t : Token} {behind : Glyphs}
    (hs : cs.map some = t.write.map some ++ behind) (ht : t.SpelledBy t.write) :
    ∃ w es, cs = w ++ es ∧ behind = es.map some ∧ t.SpelledBy w := by
  obtain ⟨w, es, rfl, hw, rfl⟩ := List.map_eq_append_iff.mp hs
  obtain rfl := (List.map_inj_right fun _ _ => Option.some.inj).mp hw
  exact ⟨_, es, rfl, rfl, ht⟩

/-- **A token that is read is spelled in front.** -/
theorem token_taken {cs : List Char} {t : Token} {rest : Glyphs}
    (h : lexToken (cs.map some) = some (t, rest)) :
    ∃ w es, cs = w ++ es ∧ rest = es.map some ∧ t.SpelledBy w := by
  unfold lexToken at h
  split at h
  case h_10 behind hs =>
    obtain ⟨es, rfl, rfl⟩ := cons_eq_chars hs.symm
    obtain ⟨⟨g, rest'⟩, hread, heq⟩ := Option.map_eq_some_iff.mp h
    obtain ⟨rfl, rfl⟩ := Prod.mk.inj heq
    obtain ⟨w, after, rfl, rfl, hw⟩ := text_taken rfl hread
    exact ⟨'"' :: (w ++ ['"']), after, by simp, rfl, w, rfl, hw⟩
  case h_11 =>
    obtain ⟨⟨n, rest'⟩, hread, heq⟩ := Option.map_eq_some_iff.mp h
    obtain ⟨rfl, rfl⟩ := Prod.mk.inj heq
    exact number_taken hread
  all_goals
    rename_i hs
    obtain ⟨rfl, rfl⟩ := Prod.mk.inj (Option.some.inj h)
    exact written_taken hs rfl

/-- **Tokens that are read are spelled by the whole text.** -/
theorem spells_of_lex {s : Glyphs} {cs : List Char} (hs : s = cs.map some) {ts : List Token}
    (h : lex s = some ts) : Spells s ts := by
  fun_induction lex s generalizing cs ts with
  | case1 =>
      obtain rfl := Option.some.inj h
      exact .nil
  | case2 g rest hg ih =>
      obtain ⟨c, ds, rfl, rfl, rfl⟩ := List.map_eq_cons_iff.mp hs.symm
      exact .blank hg (ih rfl h)
  | case3 => exact nomatch h
  | case4 g rest hg t behind htoken hlen ih =>
      obtain ⟨ts, hread, rfl⟩ := Option.map_eq_some_iff.mp h
      rw [hs] at htoken ⊢
      obtain ⟨w, es, rfl, rfl, ht⟩ := token_taken htoken
      rw [List.map_append]
      exact .token ht (ih rfl hread)
  | case5 => exact nomatch h

/-! ## Values -/

/-- The tokens of elements with a comma behind each. -/
def listed (vs : List Json) : List Token := vs.flatMap fun v => v.tokens ++ [.comma]

/-- The tokens of members with a comma behind each. -/
def membersListed (ms : List (Glyphs × Json)) : List Token :=
  ms.flatMap fun m => .text m.1 :: .colon :: (m.2.tokens ++ [.comma])

/-- The last element has the end behind it in place of a comma. -/
theorem elementTokens_snoc (vs : List Json) (v : Json) :
    elementTokens (vs ++ [v]) = listed vs ++ (v.tokens ++ [.closeArray]) := by
  induction vs with
  | nil => rfl
  | cons w vs ih =>
      have hstep : ∀ rest : List Json, rest ≠ [] →
          elementTokens (w :: rest) = w.tokens ++ .comma :: elementTokens rest := by
        intro rest hne
        obtain ⟨x, xs, rfl⟩ := List.exists_cons_of_ne_nil hne
        rfl
      rw [List.cons_append, hstep _ (by simp), ih, listed, listed, List.flatMap_cons]
      simp only [List.append_assoc, List.cons_append, List.nil_append]

/-- The last member has the end behind it in place of a comma. -/
theorem memberTokens_snoc (ms : List (Glyphs × Json)) (k : Glyphs) (v : Json) :
    memberTokens (ms ++ [(k, v)])
      = membersListed ms ++ (.text k :: .colon :: (v.tokens ++ [.closeObject])) := by
  induction ms with
  | nil => rfl
  | cons m ms ih =>
      have hstep : ∀ rest : List (Glyphs × Json), rest ≠ [] → memberTokens (m :: rest)
          = .text m.1 :: .colon :: (m.2.tokens ++ .comma :: memberTokens rest) := by
        intro rest hne
        obtain ⟨x, xs, rfl⟩ := List.exists_cons_of_ne_nil hne
        rfl
      rw [List.cons_append, hstep _ (by simp), ih, membersListed, membersListed,
        List.flatMap_cons]
      simp only [List.append_assoc, List.cons_append, List.nil_append]

/-- The tokens of an open container so far. -/
def Frame.tokens : Frame → List Token
  | .array before => .openArray :: listed before.reverse
  | .object before => .openObject :: membersListed before.reverse
  | .member before k => .openObject :: (membersListed before.reverse ++ [.text k, .colon])

/-- The tokens of a part that is not yet in its container. -/
def Expected.tokens : Expected → List Token
  | .colon k => [.text k]
  | .afterValue v => v.tokens
  | _ => []

namespace Assembly

/-- The tokens that an assembly was made of. -/
def tokens (a : Assembly) : List Token :=
  a.frames.reverse.flatMap Frame.tokens ++ a.expected.tokens

/-- Where a container may end at once, nothing is in it yet. -/
structure Fresh (a : Assembly) : Prop where
  array : a.expected = .elementOrEnd → ∃ frames, a.frames = .array [] :: frames
  object : a.expected = .memberOrEnd → ∃ frames, a.frames = .object [] :: frames

/-- Nothing can end at once. -/
theorem fresh_of_ne {a : Assembly} (harray : a.expected ≠ .elementOrEnd)
    (hobject : a.expected ≠ .memberOrEnd) : a.Fresh :=
  ⟨fun h => absurd h harray, fun h => absurd h hobject⟩

/-- The innermost container comes last. -/
theorem tokens_cons (f : Frame) (frames : List Frame) (e : Expected) :
    tokens ⟨f :: frames, e⟩ = frames.reverse.flatMap Frame.tokens ++ (f.tokens ++ e.tokens) := by
  simp [tokens]

/-- The first token of a value is added. -/
theorem tokens_value {frames : List Frame} {t : Token} {b : Assembly}
    (h : value frames t = some b) {e : Expected} (he : e.tokens = []) :
    b.tokens = tokens ⟨frames, e⟩ ++ [t] ∧ b.Fresh := by
  have hbefore : tokens ⟨frames, e⟩ = frames.reverse.flatMap Frame.tokens := by
    rw [tokens, he, List.append_nil]
  rw [hbefore]
  unfold value at h
  split at h
  · obtain rfl := Option.some.inj h
    rw [tokens_cons]
    exact ⟨rfl, fun _ => ⟨frames, rfl⟩, fun h => nomatch h⟩
  · obtain rfl := Option.some.inj h
    rw [tokens_cons]
    exact ⟨rfl, fun h => (nomatch h), fun _ => ⟨frames, rfl⟩⟩
  · obtain ⟨v, hv, rfl⟩ := Option.map_eq_some_iff.mp h
    refine ⟨?_, fresh_of_ne nofun nofun⟩
    have hone : v.tokens = [t] := by
      unfold scalar? at hv
      split at hv
      · rw [← Option.some.inj hv]; rfl
      · rw [← Option.some.inj hv]; rfl
      · rw [← Option.some.inj hv]; rfl
      · rw [← Option.some.inj hv]; rfl
      · exact nomatch hv
    rw [tokens, Expected.tokens, hone]

/-- The token behind a value is added. -/
theorem tokens_next {v : Json} {frames : List Frame} {t : Token} {b : Assembly}
    (h : next v frames t = some b) :
    b.tokens = tokens ⟨frames, .afterValue v⟩ ++ [t] ∧ b.Fresh := by
  unfold next at h
  split at h
  · obtain rfl := Option.some.inj h
    refine ⟨?_, fresh_of_ne nofun nofun⟩
    rw [tokens_cons, tokens_cons]
    simp [Frame.tokens, Expected.tokens, listed]
  · obtain rfl := Option.some.inj h
    refine ⟨?_, fresh_of_ne nofun nofun⟩
    rw [tokens, tokens_cons]
    simp [Frame.tokens, Expected.tokens, Json.tokens, elementTokens_snoc]
  · obtain rfl := Option.some.inj h
    refine ⟨?_, fresh_of_ne nofun nofun⟩
    rw [tokens_cons, tokens_cons]
    simp [Frame.tokens, Expected.tokens, membersListed]
  · obtain rfl := Option.some.inj h
    refine ⟨?_, fresh_of_ne nofun nofun⟩
    rw [tokens, tokens_cons]
    simp [Frame.tokens, Expected.tokens, Json.tokens, memberTokens_snoc]
  · exact nomatch h

/-- **A step adds the token that it reads.** -/
theorem tokens_step {a b : Assembly} {t : Token} (fresh : a.Fresh) (h : a.step t = some b) :
    b.tokens = a.tokens ++ [t] ∧ b.Fresh := by
  obtain ⟨frames, e⟩ := a
  -- one case for each thing that may be expected, as the reader has them;
  -- an empty container shows that its frame is the innermost one (`fresh`)
  unfold step at h
  split at h
  case h_1 he =>
    obtain rfl : e = .value := he
    exact tokens_value h rfl
  case h_2 he hf =>
    obtain rfl : e = .elementOrEnd := he
    obtain ⟨frames, rfl⟩ := fresh.array rfl
    obtain rfl := (List.cons.inj hf).2
    obtain rfl := Option.some.inj h
    refine ⟨?_, fresh_of_ne nofun nofun⟩
    rw [tokens, tokens_cons]
    simp [Frame.tokens, Expected.tokens, Json.tokens, elementTokens, listed]
  case h_3 he _ =>
    obtain rfl : e = .elementOrEnd := he
    exact tokens_value h rfl
  case h_4 he hf =>
    obtain rfl : e = .memberOrEnd := he
    obtain ⟨frames, rfl⟩ := fresh.object rfl
    obtain rfl := (List.cons.inj hf).2
    obtain rfl := Option.some.inj h
    refine ⟨?_, fresh_of_ne nofun nofun⟩
    rw [tokens, tokens_cons]
    simp [Frame.tokens, Expected.tokens, Json.tokens, memberTokens, membersListed]
  case h_5 he =>
    obtain rfl : e = .memberOrEnd := he
    obtain rfl := Option.some.inj h
    refine ⟨?_, fresh_of_ne nofun nofun⟩
    simp [tokens, Expected.tokens]
  case h_6 he =>
    obtain rfl : e = .key := he
    obtain rfl := Option.some.inj h
    refine ⟨?_, fresh_of_ne nofun nofun⟩
    simp [tokens, Expected.tokens]
  case h_7 he hf =>
    obtain rfl : e = .colon _ := he
    obtain rfl : frames = .object _ :: _ := hf
    obtain rfl := Option.some.inj h
    refine ⟨?_, fresh_of_ne nofun nofun⟩
    rw [tokens_cons, tokens_cons]
    simp [Frame.tokens, Expected.tokens]
  case h_8 he =>
    obtain rfl : e = .afterValue _ := he
    exact tokens_next h
  case h_9 => exact nomatch h

/-- All tokens that are read are added. -/
theorem tokens_run {a b : Assembly} {ts : List Token} (fresh : a.Fresh)
    (h : a.run ts = some b) : b.tokens = a.tokens ++ ts := by
  induction ts generalizing a with
  | nil =>
      obtain rfl := Option.some.inj h
      rw [List.append_nil]
  | cons t ts ih =>
      rw [run_cons] at h
      obtain ⟨c, hstep, hrun⟩ := Option.bind_eq_some_iff.mp h
      obtain ⟨htokens, hfresh⟩ := tokens_step fresh hstep
      rw [ih hfresh hrun, htokens, List.append_assoc]
      rfl

end Assembly

/-- **Tokens make up a value** if and only if they are its own. -/
theorem assemble_eq_some {ts : List Token} {v : Json} : assemble ts = some v ↔ ts = v.tokens := by
  constructor
  · intro h
    obtain ⟨b, hrun, hresult⟩ := Option.bind_eq_some_iff.mp h
    have hfresh : Assembly.Fresh ⟨[], .value⟩ := Assembly.fresh_of_ne nofun nofun
    have htokens := Assembly.tokens_run hfresh hrun
    unfold Assembly.result? at hresult
    split at hresult
    · obtain rfl := Option.some.inj hresult
      exact htokens.symm
    · exact nomatch hresult
  · rintro rfl
    exact assemble_tokens v

/-- **A value is read from the texts that spell it**, and from no others. -/
theorem read_eq_some {s : String} {v : Json} :
    read? (Glyphs.ofString s) = some v ↔ v.SpelledBy s := by
  constructor
  · intro h
    obtain ⟨ts, hlex, hassemble⟩ := Option.bind_eq_some_iff.mp h
    obtain rfl := assemble_eq_some.mp hassemble
    exact spells_of_lex rfl hlex
  · exact read_spelled

end Postbox.Json
