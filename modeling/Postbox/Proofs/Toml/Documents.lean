import Postbox.Proofs.Record
import Postbox.Proofs.Toml.Texts

/-! # Documents — lines are read back

    A document that is written line by line is read line by line: a line with a bare
    key and a value (`lines_entry`), an empty one (`lines_empty`), and one with the
    name of a table (`lines_header`).  A value is a text in quotes or a whole number.
    The digits of a number could begin a date, a time or a fraction, too; those go on
    behind the digits with something else than the end of the line. -/

namespace Postbox.Toml

/-! ## Whole numbers -/

section

variable {ds : List Char} (hdigits : ∀ c ∈ ds, c.isDigit = true) (rest : List Char)

include hdigits

/-- Digits are read up to the end of the line. -/
theorem digits_line (hsome : ds ≠ []) :
    digits? Char.isDigit (ds ++ '\n' :: rest) = some (ds, '\n' :: rest) := by
  induction ds with
  | nil => exact absurd rfl hsome
  | cons c ds ih =>
      have hc := hdigits c List.mem_cons_self
      -- the reader looks one character ahead: an underscore may stand between two digits
      cases ds with
      | nil =>
          show digits? Char.isDigit (c :: '\n' :: rest) = _
          rw [digits?]
          · rw [hc]
            rfl
          · intro tail heq
            exact absurd (List.cons.inj heq).1 (by decide)
      | cons d ds =>
          have hd := hdigits d (by simp)
          have htail := ih (fun e he => hdigits e (List.mem_cons_of_mem c he)) (by simp)
          show digits? Char.isDigit (c :: d :: (ds ++ '\n' :: rest)) = _
          rw [digits?]
          · dsimp only
            rw [hc, hd]
            rw [List.cons_append] at htail
            simp [htail]
          · intro tail heq
            rw [(List.cons.inj heq).1] at hd
            exact nomatch hd

/-- Behind a number of digits in front comes another one or the end of the line. -/
theorem behind_field {n low high value : Nat} {left : List Char}
    (h : field? n low high (ds ++ '\n' :: rest) = some (value, left)) {c : Char}
    (hc : c.isDigit = false) (hbreak : c ≠ '\n') : behind? c left = none := by
  rw [field?] at h
  cases hvalue : Decimal.nat? ((ds ++ '\n' :: rest).take n) with
  | none =>
      rw [hvalue] at h
      exact nomatch h
  | some m =>
      rw [hvalue] at h
      dsimp only [bind, Option.bind] at h
      split at h
      · have hleft := (Prod.mk.inj (Option.some.inj h)).2
        -- all characters of the field are digits, so it lies before the end of the line
        have hfield : ∀ d ∈ (ds ++ '\n' :: rest).take n, d.isDigit = true := by
          rw [Decimal.nat?] at hvalue
          split at hvalue
          · exact nomatch hvalue
          · rename_i hall
            rw [Bool.or_eq_true, not_or, Bool.not_eq_true', Bool.not_eq_false] at hall
            exact List.all_eq_true.mp hall.2
        have hn : n ≤ ds.length := by
          refine Nat.le_of_not_lt fun hlt => ?_
          have hmem : '\n' ∈ (ds ++ '\n' :: rest).take n := by
            rw [List.take_append, List.mem_append]
            right
            rw [show n - ds.length = (n - ds.length - 1) + 1 by omega, List.take_succ_cons]
            exact List.mem_cons_self
          exact nomatch hfield '\n' hmem
        rw [← hleft, List.drop_append_of_le_length hn]
        cases hdrop : ds.drop n with
        | nil =>
            show (if ('\n' == c) = true then some rest else none) = none
            rw [if_neg (by simpa using Ne.symm hbreak)]
        | cons d ds' =>
            have hd := hdigits d (List.mem_of_mem_drop (hdrop ▸ List.mem_cons_self))
            show (if (d == c) = true then some _ else none) = none
            rw [if_neg]
            intro heq
            rw [beq_iff_eq.mp heq, hc] at hd
            exact nomatch hd
      · exact nomatch h

/-- Digits at the end of a line are no date and no time. -/
theorem moment_line : moment? (ds ++ '\n' :: rest) = none := by
  have hdate : skipDate? (ds ++ '\n' :: rest) = none := by
    rw [skipDate?]
    cases h : field? 4 0 9999 (ds ++ '\n' :: rest) with
    | none => rfl
    | some found =>
        show ((behind? '-' found.2).bind _) = none
        rw [behind_field hdigits rest h (by decide) (by decide)]
        rfl
  have htime : skipTime? (ds ++ '\n' :: rest) = none := by
    rw [skipTime?]
    cases h : field? 2 0 23 (ds ++ '\n' :: rest) with
    | none => rfl
    | some found =>
        show ((behind? ':' found.2).bind _) = none
        rw [behind_field hdigits rest h (by decide) (by decide)]
        rfl
  rw [moment?, skipMoment?, hdate]
  dsimp only
  rw [htime]
  rfl

end

/-- The digits of a number: a zero, or some that do not begin with one. -/
theorem toDigits_shape (n : Nat) : Nat.toDigits 10 n = ['0']
    ∨ ∃ c cs, Nat.toDigits 10 n = c :: cs ∧ c ≠ '0' := by
  rcases Nat.eq_zero_or_pos n with rfl | h
  · exact Or.inl rfl
  · exact Or.inr (Json.toDigits_lead n h)

/-- A number at the end of a line. -/
abbrev numberLine (n : Nat) (rest : List Char) : List Char := Nat.toDigits 10 n ++ '\n' :: rest

section

variable (n : Nat) (rest : List Char)

/-- A number begins with a digit. -/
theorem numberLine_head : ∃ c tail, numberLine n rest = c :: tail ∧ c.isDigit = true := by
  cases h : Nat.toDigits 10 n with
  | nil => exact absurd h Nat.toDigits_ne_nil
  | cons c cs =>
      refine ⟨c, cs ++ '\n' :: rest, by rw [numberLine, h]; rfl, ?_⟩
      exact Json.isDigit_toDigits n c (h ▸ List.mem_cons_self)

/-- The digits of a number are read as a whole. -/
theorem wholeDigits_line :
    wholeDigits? (numberLine n rest) = some (Nat.toDigits 10 n, '\n' :: rest) := by
  have hdigits := digits_line (Json.isDigit_toDigits n) rest Nat.toDigits_ne_nil
  rcases toDigits_shape n with h | ⟨c, cs, h, hc⟩
  · rw [numberLine, h]
    rfl
  · rw [numberLine]
    rw [h, List.cons_append] at hdigits ⊢
    rw [wholeDigits?]
    · exact hdigits
    · intro tail heq
      exact hc (List.cons.inj heq).1

/-- A number does not begin with what is no digit. -/
theorem numberLine_ne {c : Char} (hc : c.isDigit = false) (tail : List Char) :
    numberLine n rest ≠ c :: tail := by
  obtain ⟨d, tail', h, hd⟩ := numberLine_head n rest
  rw [h]
  intro heq
  rw [(List.cons.inj heq).1, hc] at hd
  exact nomatch hd

/-- A number has no sign that tells of another base. -/
theorem numberLine_ne_based {x : Char} (hx : x ≠ '\n') (tail : List Char) :
    numberLine n rest ≠ '0' :: x :: tail := by
  intro heq
  rw [numberLine] at heq
  rcases toDigits_shape n with h | ⟨c, cs, h, hc⟩
  · rw [h] at heq
    exact hx (List.cons.inj (List.cons.inj heq).2).1.symm
  · rw [h] at heq
    exact hc (List.cons.inj heq).1

/-- A number has no sign in front. -/
theorem sign_line : sign (numberLine n rest) = (false, numberLine n rest) := by
  unfold sign
  split
  · rename_i heq
    exact absurd heq (numberLine_ne n rest (by decide) _)
  · rename_i heq
    exact absurd heq (numberLine_ne n rest (by decide) _)
  · rfl

/-- A number at the end of a line has no fraction and no exponent. -/
theorem float_line : float? (numberLine n rest) = none := by
  rw [float?, sign_line]
  dsimp only
  split
  · rename_i heq
    exact absurd heq (numberLine_ne n rest (by decide) _)
  · rename_i heq
    exact absurd heq (numberLine_ne n rest (by decide) _)
  · rw [wholeDigits_line]
    rfl

/-- A number at the end of a line is read as it is, if it is a word. -/
theorem integer_line {w : Int64} (h : Decimal.word? n = some w) :
    integer? (numberLine n rest) = some (.integer w, '\n' :: rest) := by
  rw [integer?]
  · rw [sign_line]
    dsimp only
    rw [wholeDigits_line]
    dsimp only [bind, Option.bind]
    rw [Nat.ofDigitChars_ten_toDigits, if_neg Bool.false_ne_true, h]
    rfl
  · exact numberLine_ne_based n rest (by decide)
  · exact numberLine_ne_based n rest (by decide)
  · exact numberLine_ne_based n rest (by decide)

/-- **A number at the end of a line is a value**, if it is a word. -/
theorem value_number (depth : Nat) {w : Int64} (h : Decimal.word? n = some w) :
    value? depth (numberLine n rest) = some (.integer w, '\n' :: rest) := by
  unfold value?
  split
  case h_7 =>
    rw [moment_line (Json.isDigit_toDigits n) rest, float_line, integer_line n rest h]
    rfl
  all_goals
    exact absurd (by assumption) (numberLine_ne n rest (by decide) _)

end

/-! ## Texts -/

/-- What is read as a text begins with a quote. -/
theorem text_head {cs rest : List Char} {s : String} (h : text? cs = some (s, rest)) :
    ∃ c tail, cs = c :: tail ∧ (c = '"' ∨ c = '\x27') := by
  unfold text? at h
  split at h
  · exact ⟨_, _, rfl, Or.inl rfl⟩
  · exact ⟨_, _, rfl, Or.inl rfl⟩
  · exact ⟨_, _, rfl, Or.inr rfl⟩
  · exact ⟨_, _, rfl, Or.inr rfl⟩
  · exact nomatch h

/-- **A text in quotes is a value.** -/
theorem value_text {cs rest : List Char} {s : String} (h : text? cs = some (s, rest))
    (depth : Nat) : value? depth cs = some (.text s, rest) := by
  obtain ⟨c, tail, rfl, rfl | rfl⟩ := text_head h
  · rw [value?, h]
    rfl
  · rw [value?, h]
    rfl

/-- No spaces stand in front of a text. -/
theorem skipSpaces_text {cs rest : List Char} {s : String} (h : text? cs = some (s, rest)) :
    skipSpaces cs = cs := by
  obtain ⟨c, tail, rfl, rfl | rfl⟩ := text_head h
  · rfl
  · rfl

/-- No spaces stand in front of a number. -/
theorem skipSpaces_number (n : Nat) (rest : List Char) :
    skipSpaces (numberLine n rest) = numberLine n rest := by
  obtain ⟨c, tail, h, hc⟩ := numberLine_head n rest
  rw [h]
  refine List.dropWhile_cons_of_neg fun hspace => ?_
  rw [isSpace, Bool.or_eq_true, beq_iff_eq, beq_iff_eq] at hspace
  rcases hspace with rfl | rfl
  · exact nomatch hc
  · exact nomatch hc

/-! ## Keys -/

/-- A key that needs no quotes. -/
structure IsBare (key : List Char) : Prop where
  some : key ≠ []
  chars : ∀ c ∈ key, isKeyChar c = true

section

variable {key : List Char} (hkey : IsBare key)

include hkey

/-- A bare key begins with nothing that has a meaning of its own. -/
theorem IsBare.ne_cons {c : Char} (hc : isKeyChar c = false) (rest tail : List Char) :
    key ++ rest ≠ c :: tail := by
  cases key with
  | nil => exact absurd rfl hkey.some
  | cons d ds =>
      intro heq
      have hd := hkey.chars d List.mem_cons_self
      rw [(List.cons.inj heq).1, hc] at hd
      exact nomatch hd

/-- No spaces stand in front of a bare key. -/
theorem IsBare.skipSpaces_eq (rest : List Char) : skipSpaces (key ++ rest) = key ++ rest := by
  cases key with
  | nil => exact absurd rfl hkey.some
  | cons d ds =>
      refine List.dropWhile_cons_of_neg fun hspace => ?_
      have hd := hkey.chars d List.mem_cons_self
      rw [isSpace, Bool.or_eq_true, beq_iff_eq, beq_iff_eq] at hspace
      rcases hspace with rfl | rfl
      · exact nomatch hd
      · exact nomatch hd

/-- A bare key is read up to the first character that cannot stand in it. -/
theorem key_bare {c : Char} (hc : isKeyChar c = false) (rest : List Char) :
    key? (key ++ c :: rest) = some (String.ofList key, c :: rest) := by
  have hname : (key ++ c :: rest).takeWhile isKeyChar = key := by
    rw [List.takeWhile_append_of_pos hkey.chars, List.takeWhile_cons_of_neg (by rw [hc]; decide),
      List.append_nil]
  rw [key?]
  · rw [hname, List.isEmpty_eq_false_iff.mpr hkey.some, if_neg Bool.false_ne_true,
      List.drop_left]
  · exact hkey.ne_cons (by decide) _
  · exact hkey.ne_cons (by decide) _

/-- A bare key alone is a path. -/
theorem path_bare {c d : Char} {rest tail : List Char} (hc : isKeyChar c = false)
    (hskip : skipSpaces (c :: rest) = d :: tail) (hd : d ≠ '.') :
    path? (key ++ c :: rest) = some (([], String.ofList key), d :: tail) := by
  have hkeys : dottedKeys? (key ++ c :: rest) = some ([String.ofList key], d :: tail) := by
    rw [dottedKeys?, hkey.skipSpaces_eq, key_bare hkey hc]
    dsimp only
    rw [hskip]
    split
    · rename_i heq
      exact absurd (List.cons.inj heq).1 hd
    · rfl
  rw [path?, hkeys]
  rfl

end

/-! ## Lines -/

/-- **A line with a key and a value** adds to the table that the last header named. -/
theorem lines_entry {key : List Char} (hkey : IsBare key) {written : List Char} {v : Value}
    {rest : List Char} (hspaces : skipSpaces (written ++ '\n' :: rest) = written ++ '\n' :: rest)
    (hv : value? limit (written ++ '\n' :: rest) = some (v, '\n' :: rest))
    (current : List String) (root : Entries) :
    lines? current root (key ++ ' ' :: '=' :: ' ' :: (written ++ '\n' :: rest))
      = (insert? current [] (String.ofList key) v root).bind fun root =>
          lines? current root rest := by
  have hpath : path? (key ++ ' ' :: '=' :: ' ' :: (written ++ '\n' :: rest))
      = some (([], String.ofList key), '=' :: ' ' :: (written ++ '\n' :: rest)) :=
    path_bare hkey (by decide) rfl (by decide)
  -- a line that begins with a key is no end, no comment, no break and no header
  rw [lines?, hkey.skipSpaces_eq]
  dsimp only
  split
  · rename_i heq
    exact absurd heq (by simp)
  · rename_i heq
    exact absurd heq (hkey.ne_cons (by decide) _ _)
  · rename_i heq
    exact absurd heq (hkey.ne_cons (by decide) _ _)
  · split
    · rename_i heq
      exact absurd heq (hkey.ne_cons (by decide) _ _)
    · rename_i heq
      exact absurd heq (hkey.ne_cons (by decide) _ _)
    · rename_i heq
      exact absurd heq (hkey.ne_cons (by decide) _ _)
    · rw [hpath]
      show ((value? limit (skipSpaces (written ++ '\n' :: rest))).bind fun found =>
        (lineEnd? found.2).bind fun left => if left.length < _ then
          (insert? _ _ _ found.1 root).bind fun root => lines? _ root left else none) = _
      rw [hspaces, hv]
      show (if rest.length < _ then _ else none) = _
      rw [if_pos (by simp; omega)]

/-- An empty line is passed over. -/
theorem lines_empty (current : List String) (root : Entries) (rest : List Char) :
    lines? current root ('\n' :: rest) = lines? current root rest := by
  rw [lines?, show skipSpaces ('\n' :: rest) = '\n' :: rest from rfl]
  dsimp only
  show (if rest.length < _ then lines? current root rest else none) = _
  rw [if_pos (by simp)]

/-- **A line with the name of a table** begins that table. -/
theorem lines_header {key : List Char} (hkey : IsBare key) (current : List String)
    (root : Entries) (rest : List Char) :
    lines? current root ('[' :: (key ++ ']' :: '\n' :: rest))
      = (header? [] (String.ofList key) root).bind fun root =>
          lines? [String.ofList key] root rest := by
  have hpath : path? (key ++ ']' :: '\n' :: rest)
      = some (([], String.ofList key), ']' :: '\n' :: rest) :=
    path_bare hkey (by decide) rfl (by decide)
  rw [lines?, show skipSpaces ('[' :: (key ++ ']' :: '\n' :: rest))
    = '[' :: (key ++ ']' :: '\n' :: rest) from rfl]
  dsimp only
  split
  · rename_i heq
    exact absurd heq (List.cons_ne_nil _ _)
  · rename_i heq
    exact absurd (List.cons.inj heq).2 (hkey.ne_cons (by decide) _ _)
  · rename_i heq
    rw [← (List.cons.inj heq).2, hpath]
    show (if rest.length < _ then (header? _ _ root).bind fun root => lines? _ root rest
      else none) = _
    rw [if_pos (by simp; omega)]
    rfl
  · rename_i hone
    exact absurd rfl (hone _)

/-! ## Tables -/

section

variable {root : Entries} {key : String} {v : Value}

/-- A new key stands last. -/
theorem set_new (h : root.get? key = none) : root.set key v = root ++ [(key, v)] := by
  rw [Entries.set, h]
  rfl

/-- No entry has a key that has no value. -/
theorem key_ne_of_get (h : root.get? key = none) : ∀ e ∈ root, ¬ (e.1 == key) = true :=
  List.find?_eq_none.mp (Option.map_eq_none_iff.mp h)

/-- The value of a key that stands last. -/
theorem get_last (h : root.get? key = none) : Entries.get? key (root ++ [(key, v)]) = some v := by
  rw [Entries.get?, List.find?_append, List.find?_eq_none.mpr (key_ne_of_get h)]
  simp

/-- A key that stands last stays there with another value. -/
theorem set_last (h : root.get? key = none) (w : Value) :
    Entries.set key w (root ++ [(key, v)]) = root ++ [(key, w)] := by
  have hkeep : root.map (fun e => if e.1 == key then (key, w) else e) = root := by
    rw [List.map_congr_left fun e he => if_neg (key_ne_of_get h e he), List.map_id']
  rw [Entries.set, get_last h, Option.isSome_some, if_pos rfl, List.map_append, hkeep]
  simp

/-- A new key is added to the document. -/
theorem insert_new (h : root.get? key = none) :
    insert? [] [] key v root = some (root ++ [(key, v)]) := by
  show (if ((Origin.header == .dotted) == true || (root.get? key).isSome) = true then none
    else some (root.set key v)) = _
  rw [h, set_new h]
  rfl

/-- A new key is added to the table of a header. -/
theorem insert_below {name : String} {es : Entries}
    (hname : root.get? name = some (.table .header es)) (h : es.get? key = none) :
    insert? [name] [] key v root = some (root.set name (.table .header (es ++ [(key, v)]))) := by
  show update false (insertBelow? [] key v) [name] .header root = _
  rw [update, hname]
  show (insert? [] [] key v es).map _ = _
  rw [insert_new h]
  rfl

/-- A header begins a new table. -/
theorem header_new (h : root.get? key = none) :
    header? [] key root = some (root ++ [(key, .table .header [])]) := by
  rw [header?, update, h, ← set_new h]

end

end Postbox.Toml
