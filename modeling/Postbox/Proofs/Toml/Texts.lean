import Postbox.Toml.Reader

/-! # Texts in quotes — what is written in quotes is read back

    A text is written in one of four notations.  What they have in common is said by
    one relation (`Spells`): a character stands for itself, or an escape stands for it;
    and of the quotes in which the text is written at most two stand in a row, where
    there are several lines.  It counts the quotes that stand in front, which is what
    the writer counts, too (`spells_escapeFrom`, `spells_self`).

    Three readers then undo what is spelled (`basicText_spells`, `literalText_spells`,
    `linesText_spells`).  Between threefold quotes a quote may be the first of those
    that end the text; there are three or more then, and otherwise at most two
    (`Spells.run`). -/

namespace Postbox.Toml

/-! ## Escapes -/

/-- What stands behind a backslash for a character: an escape, which does not look like
    a line that goes on. -/
structure IsEscape (e : List Char) (c : Char) : Prop where
  read : ∀ left, escape? (e ++ left) = some (c, left)
  onLine : ∀ left, lineBreak? (skipSpaces (e ++ left)) = none

/-- Four digits are read as the number of a control. -/
theorem hex4_read : ∀ n < 128, (hex4 n).length = 4 ∧
    (hex4 n).foldlM (fun m c => (Hex.digit? c).map (m * 16 + ·)) 0 = some n := by
  decide

/-- Controls are the first characters. -/
theorem toNat_control {c : Char} (h : isControl c = true) : c.toNat < 128 := by
  rw [isControl, Bool.or_eq_true] at h
  rcases h with h | h
  · have hlow : c.toNat < 0x20 := by
      simp only [Bool.and_eq_true, decide_eq_true_eq] at h
      exact h.1.1
    omega
  · rw [beq_iff_eq.mp h]
    decide

/-- A control is read from its number. -/
theorem isEscape_control {c : Char} (h : isControl c = true) :
    IsEscape ('u' :: hex4 c.toNat) c where
  read := by
    intro left
    have hc := toNat_control h
    obtain ⟨hlength, hvalue⟩ := hex4_read c.toNat hc
    show codePoint? 4 (hex4 c.toNat ++ left) = _
    have hchar : Text.character? c.toNat = some c := by
      rw [Text.character?, if_pos (by simp; omega), Char.ofNat_toNat]
    rw [codePoint?, List.take_left' hlength, List.drop_left' hlength]
    dsimp only [bind, Option.bind]
    rw [if_neg (by omega), hvalue]
    dsimp only
    rw [hchar]
    rfl
  onLine := fun left => rfl

/-! ## Spelling -/

/-- A character that stands for itself in quotes, and is none of them. -/
structure IsPlain (quote : Char) (escapes severalLines : Bool) (c : Char) : Prop where
  unquoted : c ≠ quote
  unescaped : escapes = true → c ≠ '\\'
  shown : isPrintable c = true ∨ severalLines = true ∧ c = '\n'

/-- What characters are written as, where some quotes stand in front. -/
inductive Spells (quote : Char) (escapes severalLines : Bool) :
    Nat → List Char → List Char → Prop
  | done {q : Nat} : Spells quote escapes severalLines q [] []
  | quote {q : Nat} {written cs : List Char} (hlines : severalLines = true) (hq : q < 2)
      (rest : Spells quote escapes severalLines (q + 1) written cs) :
      Spells quote escapes severalLines q (quote :: written) (quote :: cs)
  | plain {q : Nat} {c : Char} {written cs : List Char}
      (hc : IsPlain quote escapes severalLines c)
      (rest : Spells quote escapes severalLines 0 written cs) :
      Spells quote escapes severalLines q (c :: written) (c :: cs)
  | escape {q : Nat} {e : List Char} {c : Char} {written cs : List Char}
      (hescapes : escapes = true) (he : IsEscape e c)
      (rest : Spells quote escapes severalLines 0 written cs) :
      Spells quote escapes severalLines q ('\\' :: (e ++ written)) (c :: cs)

/-- What is no control is printable, or a line break. -/
theorem printable_of_control {c : Char} (h : isControl c = false) :
    isPrintable c = true ∨ c = '\n' := by
  by_cases hbreak : c = '\n'
  · exact Or.inr hbreak
  · refine Or.inl ?_
    rw [isControl, Bool.or_eq_false_iff] at h
    obtain ⟨hlow, hdel⟩ := h
    have hne : c.toNat ≠ 0x7F := by
      intro hn
      have hc : c = '\x7f' := Char.toNat_inj.mp hn
      rw [hc] at hdel
      exact nomatch hdel
    by_cases htab : c = '\t'
    · rw [htab]
      rfl
    · simp only [Bool.and_eq_false_iff, decide_eq_false_iff_not, bne_eq_false_iff_eq] at hlow
      simp only [isPrintable, Bool.or_eq_true, Bool.and_eq_true, decide_eq_true_eq]
      have hge : 0x20 ≤ c.toNat := by
        rcases hlow with (hlow | htab') | hbreak'
        · omega
        · exact absurd htab' htab
        · exact absurd hbreak' hbreak
      exact Or.inr ⟨hge, hne⟩

/-- A character other than a quote is written as an escape, or as it is. -/
theorem spells_cons {severalLines : Bool} {c : Char} (hquote : c ≠ '"') {q : Nat}
    {cs : List Char} (rest : Spells '"' true severalLines 0 (escapeFrom severalLines 0 cs) cs) :
    Spells '"' true severalLines q (escapeFrom severalLines q (c :: cs)) (c :: cs) := by
  have hnone : (c == '"' && severalLines && decide (q < 2)) = false := by
    rw [beq_eq_false_iff_ne.mpr hquote, Bool.false_and, Bool.false_and]
  rw [escapeFrom, hnone, beq_eq_false_iff_ne.mpr hquote]
  rw [if_neg Bool.false_ne_true, if_neg Bool.false_ne_true]
  -- the characters that have a letter for their escape, in the order they are looked at
  by_cases hback : c = '\\'
  · subst hback
    exact .escape (e := ['\\']) rfl ⟨fun _ => rfl, fun _ => rfl⟩ rest
  rw [if_neg (by simpa using hback)]
  by_cases hb : c = '\x08'
  · subst hb
    exact .escape (e := ['b']) rfl ⟨fun _ => rfl, fun _ => rfl⟩ rest
  rw [if_neg (by simpa using hb)]
  by_cases ht : c = '\t'
  · subst ht
    exact .escape (e := ['t']) rfl ⟨fun _ => rfl, fun _ => rfl⟩ rest
  rw [if_neg (by simpa using ht)]
  by_cases hn : c = '\n'
  · subst hn
    -- a line break stands for itself only where there may be several lines
    cases severalLines with
    | true => exact .plain ⟨hquote, fun _ => hback, Or.inr ⟨rfl, rfl⟩⟩ rest
    | false => exact .escape (e := ['n']) rfl ⟨fun _ => rfl, fun _ => rfl⟩ rest
  rw [if_neg (by simpa using hn)]
  by_cases hf : c = '\x0c'
  · subst hf
    exact .escape (e := ['f']) rfl ⟨fun _ => rfl, fun _ => rfl⟩ rest
  rw [if_neg (by simpa using hf)]
  by_cases hr : c = '\r'
  · subst hr
    exact .escape (e := ['r']) rfl ⟨fun _ => rfl, fun _ => rfl⟩ rest
  rw [if_neg (by simpa using hr)]
  cases hcontrol : isControl c with
  | true => exact .escape rfl (isEscape_control hcontrol) rest
  | false =>
      rcases printable_of_control hcontrol with hshown | hbreak
      · exact .plain ⟨hquote, fun _ => hback, Or.inl hshown⟩ rest
      · exact absurd hbreak hn

/-- **What is written in double quotes spells the text.** -/
theorem spells_escapeFrom (severalLines : Bool) (cs : List Char) (q : Nat) :
    Spells '"' true severalLines q (escapeFrom severalLines q cs) cs := by
  induction cs generalizing q with
  | nil => exact .done
  | cons c cs ih =>
      by_cases hquote : c = '"'
      · subst hquote
        rw [escapeFrom]
        by_cases hraw : (severalLines && decide (q < 2)) = true
        · obtain ⟨hlines, hq⟩ := Bool.and_eq_true_iff.mp hraw
          rw [beq_self_eq_true, Bool.true_and, hraw]
          exact .quote hlines (of_decide_eq_true hq) (ih (q + 1))
        · rw [beq_self_eq_true, Bool.true_and, Bool.eq_false_iff.mpr hraw]
          exact .escape (e := ['"']) rfl ⟨fun _ => rfl, fun _ => rfl⟩ (ih 0)
      · exact spells_cons hquote (ih 0)

/-- The count of a run and of the longest one, with one character more. -/
def runStep (c : Char) (runs : Nat × Nat) (d : Char) : Nat × Nat :=
  if d == c then (runs.1 + 1, max runs.2 (runs.1 + 1)) else (0, runs.2)

/-- The longest run is found by counting. -/
theorem longestRun_eq (c : Char) (cs : List Char) :
    longestRun c cs = (cs.foldl (runStep c) (0, 0)).2 := rfl

/-- The longest run does not get shorter. -/
theorem longest_le (c : Char) (cs : List Char) (runs : Nat × Nat) :
    runs.2 ≤ (cs.foldl (runStep c) runs).2 := by
  induction cs generalizing runs with
  | nil => exact Nat.le_refl _
  | cons d cs ih =>
      refine Nat.le_trans ?_ (ih (runStep c runs d))
      rw [runStep]
      split
      · exact Nat.le_max_left ..
      · exact Nat.le_refl _

/-- The most quotes in a row that may stand between quotes. -/
def mostQuotes (severalLines : Bool) : Nat := if severalLines then 2 else 0

/-- **A text without controls spells itself in single quotes**, if no more of them stand
    in a row than may, and if no line breaks stand in one line. -/
theorem spells_self {severalLines : Bool} {cs : List Char}
    (hcontrol : ∀ c ∈ cs, isControl c = false) (hbreak : '\n' ∈ cs → severalLines = true)
    (runs : Nat × Nat) (hruns : (cs.foldl (runStep '\x27') runs).2 ≤ mostQuotes severalLines) :
    Spells '\x27' false severalLines runs.1 cs cs := by
  induction cs generalizing runs with
  | nil => exact .done
  | cons c cs ih =>
      rw [List.foldl_cons] at hruns
      have hrest := ih (fun d hd => hcontrol d (List.mem_cons_of_mem c hd))
        (fun hd => hbreak (List.mem_cons_of_mem c hd)) _ hruns
      rw [runStep] at hrest
      by_cases hquote : c = '\x27'
      · subst hquote
        -- the run that the quote belongs to is not too long, so there are several lines
        have hlong := Nat.le_trans (longest_le '\x27' cs _) hruns
        have hrun : runs.1 + 1 ≤ mostQuotes severalLines :=
          Nat.le_trans (Nat.le_max_right ..) hlong
        cases severalLines with
        | true => exact .quote rfl hrun hrest
        | false => exact absurd hrun (Nat.not_succ_le_zero _)
      · rw [if_neg (by simpa using hquote)] at hrest
        refine .plain ⟨hquote, fun h => absurd h Bool.false_ne_true, ?_⟩ hrest
        rcases printable_of_control (hcontrol c List.mem_cons_self) with hshown | hline
        · exact Or.inl hshown
        · exact Or.inr ⟨hbreak (hline ▸ List.mem_cons_self), hline⟩

/-! ## One line -/

/-- **What is spelled in one line of double quotes is read back.** -/
theorem basicText_spells {q : Nat} {written cs : List Char}
    (h : Spells '"' true false q written cs) (rest : List Char) :
    basicText? (written ++ '"' :: rest) = some (cs, rest) := by
  induction h with
  | done =>
      rw [List.nil_append, basicText?]
  | quote hlines _ _ _ => exact absurd hlines Bool.false_ne_true
  | plain hc _ ih =>
      rename_i q c written cs _
      rw [List.cons_append, basicText?]
      · rcases hc.shown with hshown | ⟨hlines, _⟩
        · rw [hshown, ih]
          rfl
        · exact absurd hlines Bool.false_ne_true
      · exact hc.unquoted
      · exact hc.unescaped rfl
  | escape _ he _ ih =>
      rename_i q e c written cs _
      rw [List.cons_append, List.append_assoc, basicText?, he.read]
      dsimp only
      rw [if_pos (by simp), ih]
      rfl

/-- **What is spelled in one line of single quotes is read back.** -/
theorem literalText_spells {q : Nat} {written cs : List Char}
    (h : Spells '\x27' false false q written cs) (rest : List Char) :
    literalText? (written ++ '\x27' :: rest) = some (cs, rest) := by
  induction h with
  | done => rfl
  | quote hlines _ _ _ => exact absurd hlines Bool.false_ne_true
  | escape hescapes _ _ _ => exact absurd hescapes Bool.false_ne_true
  | plain hc _ ih =>
      rename_i q c written cs _
      rw [List.cons_append, literalText?]
      · rcases hc.shown with hshown | ⟨hlines, _⟩
        · rw [hshown, ih]
          rfl
        · exact absurd hlines Bool.false_ne_true
      · exact hc.unquoted

/-! ## Several lines -/

section

variable {quote : Char} {escapes : Bool}

/-- **Runs of quotes**: all that is left is one, or one that is not too long ends in front
    of something else. -/
theorem Spells.run (hback : quote ≠ '\\') {q : Nat} {written cs : List Char}
    (h : Spells quote escapes true q written cs) (hq : q ≤ 2) :
    (∃ k, k + q ≤ 2 ∧ written = List.replicate k quote ∧ cs = List.replicate k quote)
      ∨ ∀ rest, ((written ++ rest).takeWhile (· == quote)).length + q ≤ 2 := by
  induction h with
  | done => exact Or.inl ⟨0, by omega, rfl, rfl⟩
  | quote _ hlt _ ih =>
      rcases ih (by omega) with ⟨k, hk, rfl, rfl⟩ | hrun
      · exact Or.inl ⟨k + 1, by omega, rfl, rfl⟩
      · refine Or.inr fun rest => ?_
        have hlength := hrun rest
        rw [List.cons_append, List.takeWhile_cons_of_pos (by simp), List.length_cons]
        omega
  | plain hc _ _ =>
      refine Or.inr fun rest => ?_
      rw [List.cons_append, List.takeWhile_cons_of_neg (by simpa using hc.unquoted)]
      simpa using hq
  | escape _ _ _ _ =>
      refine Or.inr fun rest => ?_
      rw [List.cons_append, List.takeWhile_cons_of_neg (by simpa using Ne.symm hback)]
      simpa using hq

/-- A printable character is no line break. -/
theorem lineBreak_printable {c : Char} (h : isPrintable c = true) (rest : List Char) :
    lineBreak? (c :: rest) = none := by
  unfold lineBreak?
  split
  · rename_i heq
    rw [(List.cons.inj heq).1] at h
    exact nomatch h
  · rename_i heq
    rw [(List.cons.inj heq).1] at h
    exact nomatch h
  · rfl

/-- The end of a text, before which some quotes belong to it. -/
theorem linesText_close {k : Nat} (hk : k ≤ 2) {rest : List Char}
    (hrest : rest.head? ≠ some quote) :
    linesText? quote escapes (List.replicate k quote ++ quote :: quote :: quote :: rest)
      = some (List.replicate k quote, rest) := by
  have hend : rest.takeWhile (· == quote) = [] := by
    cases rest with
    | nil => rfl
    | cons c cs =>
        refine List.takeWhile_cons_of_neg fun hc => hrest ?_
        rw [beq_iff_eq.mp hc]
        rfl
  have hall : List.replicate k quote ++ quote :: quote :: quote :: rest
      = List.replicate (k + 3) quote ++ rest := by
    rw [← List.replicate_append_replicate, List.append_assoc]
    rfl
  have hrun : ((List.replicate (k + 3) quote ++ rest).takeWhile (· == quote)).length = k + 3 := by
    rw [List.takeWhile_append_of_pos (by simp), hend, List.append_nil, List.length_replicate]
  have hdrop : (List.replicate (k + 3) quote ++ rest).drop (k + 3) = rest :=
    List.drop_left' List.length_replicate
  rw [hall]
  rw [List.replicate_succ, List.cons_append] at hrun hdrop ⊢
  rw [linesText?]
  dsimp only
  rw [if_pos (by simp), hrun, closing?, if_neg (by omega)]
  dsimp only
  rw [hdrop, Nat.add_sub_cancel, if_pos hk]

/-- **What is spelled between threefold quotes is read back.** -/
theorem linesText_spells (hback : quote ≠ '\\') {q : Nat}
    {written cs : List Char} (h : Spells quote escapes true q written cs) (hq : q ≤ 2)
    {rest : List Char} (hrest : rest.head? ≠ some quote) :
    linesText? quote escapes (written ++ quote :: quote :: quote :: rest) = some (cs, rest) := by
  -- quotes alone can be taken for the end, so only their case looks ahead
  induction h with
  | done => exact linesText_close (Nat.zero_le 2) hrest
  | quote hlines hlt hleft ih =>
      rename_i q written cs
      -- the quotes go on to the end, or there are too few of them to be one
      rcases Spells.run hback (.quote hlines hlt hleft) hq with ⟨k, hk, hw, hcs⟩ | hrun
      · rw [hw, hcs]
        exact linesText_close (by omega) hrest
      · have hlength := hrun (quote :: quote :: quote :: rest)
        rw [List.cons_append] at hlength
        rw [List.cons_append, linesText?]
        dsimp only
        rw [if_pos (by simp), closing?, if_pos (by omega)]
        dsimp only
        rw [if_pos (Nat.le_refl _), ih (by omega)]
        rfl
  | plain hc _ ih =>
      rename_i q c written cs _
      have hquote : (c == quote) = false := beq_eq_false_iff_ne.mpr hc.unquoted
      have hescape : (escapes && c == '\\') = false := by
        cases escapes with
        | false => rfl
        | true => exact beq_eq_false_iff_ne.mpr (hc.unescaped rfl)
      rw [List.cons_append, linesText?]
      dsimp only
      rw [hquote, hescape, if_neg Bool.false_ne_true, if_neg Bool.false_ne_true]
      rcases hc.shown with hshown | ⟨_, rfl⟩
      · rw [lineBreak_printable hshown]
        dsimp only
        rw [if_pos hshown, if_pos (Nat.le_refl _), ih (by omega)]
        rfl
      · rw [show lineBreak? ('\n' :: (written ++ _)) = some (written ++ _) from rfl]
        dsimp only
        rw [if_pos (Nat.le_refl _), ih (by omega)]
        rfl
  | escape hescapes he _ ih =>
      rename_i q e c written cs _
      subst hescapes
      have hquote : ('\\' == quote) = false := beq_eq_false_iff_ne.mpr (Ne.symm hback)
      rw [List.cons_append, List.append_assoc, linesText?]
      dsimp only
      rw [hquote, if_neg Bool.false_ne_true, he.onLine, he.read]
      dsimp only [Bool.true_and, Option.bind]
      rw [if_pos (by rfl), if_pos (by simp), ih (by omega)]
      rfl

/-- No line break stands in front of what spells a text without any. -/
theorem Spells.onLine (hquote : isPrintable quote = true) {q : Nat} {written cs : List Char}
    (h : Spells quote escapes true q written cs) (hlines : '\n' ∉ cs) (rest : List Char) :
    lineBreak? (written ++ quote :: rest) = none := by
  cases h with
  | done => exact lineBreak_printable hquote _
  | quote _ _ _ => exact lineBreak_printable hquote _
  | escape _ _ _ => exact lineBreak_printable (by rfl) _
  | plain hc _ =>
      rcases hc.shown with hshown | ⟨_, rfl⟩
      · exact lineBreak_printable hshown _
      · exact absurd List.mem_cons_self hlines

end

/-! ## All notations -/

/-- The line break behind threefold quotes, where the text has several lines. -/
def firstBreak (cs : List Char) : List Char := if cs.contains '\n' then ['\n'] else []

/-- The line break behind threefold quotes is passed over. -/
theorem skip_firstBreak {quote : Char} {escapes : Bool} (hquote : isPrintable quote = true)
    {q : Nat} {written cs : List Char} (h : Spells quote escapes true q written cs)
    (rest : List Char) : (lineBreak? (firstBreak cs ++ (written ++ quote :: rest))).getD
      (firstBreak cs ++ (written ++ quote :: rest)) = written ++ quote :: rest := by
  rw [firstBreak]
  split
  · rfl
  · rename_i hlines
    rw [List.nil_append, h.onLine hquote (by simpa using hlines)]
    rfl

/-- What spells a text of one line does not look like threefold quotes. -/
theorem Spells.notThreefold {quote : Char} {escapes : Bool} (hback : quote ≠ '\\') {q : Nat}
    {written cs : List Char} (h : Spells quote escapes false q written cs) {rest : List Char}
    (hrest : rest.head? ≠ some quote) (tail : List Char) :
    written ++ quote :: rest ≠ quote :: quote :: tail := by
  intro heq
  cases h with
  | done =>
      rw [(List.cons.inj heq).2] at hrest
      exact hrest rfl
  | quote hlines _ _ => exact absurd hlines Bool.false_ne_true
  | plain hc _ => exact hc.unquoted (List.cons.inj heq).1
  | escape _ _ _ => exact hback (List.cons.inj heq).1.symm

section

variable {rest : List Char} (hdouble : rest.head? ≠ some '"') (hsingle : rest.head? ≠ some '\x27')

section

include hdouble

/-- A text in one line of double quotes is read back. -/
theorem text_basic (cs : List Char) :
    text? ('"' :: (escapeFrom false 0 cs ++ '"' :: rest)) = some (String.ofList cs, rest) := by
  have h := spells_escapeFrom false cs 0
  rw [text?]
  · rw [basicText_spells h]
    rfl
  · exact h.notThreefold (by decide) hdouble

/-- A text in several lines of double quotes is read back. -/
theorem text_basicLines (cs : List Char) :
    text? ('"' :: '"' :: '"' ::
        (firstBreak cs ++ (escapeFrom true 0 cs ++ '"' :: '"' :: '"' :: rest)))
      = some (String.ofList cs, rest) := by
  have h := spells_escapeFrom true cs 0
  rw [text?, skip_firstBreak (by rfl) h, linesText_spells (by decide) h (Nat.zero_le 2) hdouble]
  rfl

end

section

include hsingle

/-- A text in one line of single quotes is read back. -/
theorem text_literal {cs : List Char} (hcontrol : ∀ c ∈ cs, isControl c = false)
    (hlines : '\n' ∉ cs) (hruns : longestRun '\x27' cs = 0) :
    text? ('\x27' :: (cs ++ '\x27' :: rest)) = some (String.ofList cs, rest) := by
  rw [longestRun_eq] at hruns
  have h : Spells '\x27' false false 0 cs cs :=
    spells_self hcontrol (fun hn => absurd hn hlines) (0, 0) (Nat.le_of_eq hruns)
  rw [text?]
  · rw [literalText_spells h]
    rfl
  · exact h.notThreefold (by decide) hsingle

/-- A text in several lines of single quotes is read back. -/
theorem text_literalLines {cs : List Char} (hcontrol : ∀ c ∈ cs, isControl c = false)
    (hruns : longestRun '\x27' cs ≤ 2) :
    text? ('\x27' :: '\x27' :: '\x27' ::
        (firstBreak cs ++ (cs ++ '\x27' :: '\x27' :: '\x27' :: rest)))
      = some (String.ofList cs, rest) := by
  rw [longestRun_eq] at hruns
  have h : Spells '\x27' false true 0 cs cs :=
    spells_self hcontrol (fun _ => rfl) (0, 0) hruns
  rw [text?, skip_firstBreak (by rfl) h, linesText_spells (by decide) h (Nat.zero_le 2) hsingle]
  rfl

end

include hdouble hsingle

/-- **A text in quotes is read back**, whatever its characters are. -/
theorem text_quote (s : String) : text? ((quote s).toList ++ rest) = some (s, rest) := by
  have hcontrol (h : (!s.toList.any isControl) = true) : ∀ c ∈ s.toList, isControl c = false := by
    simpa using h
  have hfirst : (if s.toList.contains '\n' then "\n" else "").toList = firstBreak s.toList := by
    rw [firstBreak]
    split
    · rfl
    · rfl
  have hbasic : text? (("\"" ++ String.ofList (escapeFrom false 0 s.toList) ++ "\"").toList ++ rest)
      = some (s, rest) := by
    have h := text_basic hdouble s.toList
    rw [String.ofList_toList] at h
    simpa using h
  have hbasicLines : text? (("\"\"\"" ++ (if s.toList.contains '\n' then "\n" else "")
      ++ String.ofList (escapeFrom true 0 s.toList) ++ "\"\"\"").toList ++ rest)
      = some (s, rest) := by
    have h := text_basicLines hdouble s.toList
    rw [String.ofList_toList] at h
    rw [String.toList_append, String.toList_append, String.toList_append, hfirst]
    simpa using h
  -- the quotes depend on controls, line breaks, and quotes in the text
  rw [quote]
  split
  · exact hbasic
  · split
    · rename_i h
      simp only [Bool.and_eq_true, beq_iff_eq] at h
      have hline : '\n' ∉ s.toList := by simpa using h.2
      have hread := text_literal hsingle (hcontrol h.1.1) hline h.1.2
      rw [String.ofList_toList] at hread
      simpa using hread
    · split
      · exact hbasicLines
      · split
        · rename_i h
          simp only [Bool.and_eq_true, decide_eq_true_eq] at h
          have hread := text_literalLines hsingle (hcontrol h.1) h.2
          rw [String.ofList_toList] at hread
          rw [String.toList_append, String.toList_append, String.toList_append, hfirst]
          simpa using hread
        · split
          · rename_i hlines
            rw [if_pos hlines] at hbasicLines
            exact hbasicLines
          · exact hbasic

end

end Postbox.Toml
