import Postbox.Proofs.Text.Cutting
import Postbox.Text.Punycode

/-! # Punycode — what is written is read

    The writer and the reader count through the same pairs of a code point and a position.
    `Reaches` says how far both are: from the digits written so far the reader has made a text,
    and the pairs between its last insertion and the next one are those that the writer has
    passed over.  Each character that the writer passes keeps this (`Reaches.pass`), and so
    does each of its rounds through the text (`Reaches.round`), at the end of which the reader
    has the characters up to that of the round.  So it has all of them at last
    (`decode_encode`). -/

namespace Postbox.Text

/-- A character is found by its code point. -/
theorem character_toNat (c : Char) : character? c.toNat = some c := by
  have hvalid : c.toNat < 0xD800 ∨ 0xDFFF < c.toNat ∧ c.toNat < 0x110000 := c.valid
  rw [character?, if_pos (by simp; omega), Char.ofNat_toNat]

namespace Punycode

/-! ## Numbers -/

theorem digit_digitChar : ∀ d < 36, digit? (digitChar d) = some d := by decide

theorem threshold_bounds (bias k : Nat) : 1 ≤ threshold bias k ∧ threshold bias k ≤ 26 := by
  rw [threshold]
  omega

/-- **A number is read in front of whatever follows.** -/
theorem number_writeNumber (bias k n : Nat) (rest : List Char) :
    number? bias k (writeNumber bias k n ++ rest) = some (n, rest) := by
  fun_induction writeNumber bias k n with
  | case1 k n t hlast =>
      have hbounds := threshold_bounds bias k
      rw [List.singleton_append, number?, digit_digitChar n (by omega)]
      exact if_pos hlast
  | case2 k n t hmore ih =>
      have hbounds := threshold_bounds bias k
      have hdigit : t + (n - t) % (36 - t) < 36 := by
        have hmod := Nat.mod_lt (n - t) (y := 36 - t) (by omega)
        omega
      have hsum : t + (n - t) % (36 - t) + (36 - t) * ((n - t) / (36 - t)) = n := by
        have hdivision := Nat.mod_add_div (n - t) (36 - t)
        omega
      rw [List.cons_append, number?, digit_digitChar _ hdigit]
      show (if _ then _ else (number? bias (k + 36) _).bind _) = _
      rw [if_neg (by omega), ih]
      exact congrArg (fun m => some (m, rest)) hsum

/-- The digits of a number. -/
theorem mem_writeNumber {bias k n : Nat} {c : Char} (h : c ∈ writeNumber bias k n) :
    ∃ d < 36, c = digitChar d := by
  fun_induction writeNumber bias k n with
  | case1 k n t hlast =>
      have hbounds := threshold_bounds bias k
      exact ⟨n, by omega, List.mem_singleton.mp h⟩
  | case2 k n t hmore ih =>
      have hbounds := threshold_bounds bias k
      rcases List.mem_cons.mp h with rfl | h
      · have hmod := Nat.mod_lt (n - t) (y := 36 - t) (by omega)
        exact ⟨_, by omega, rfl⟩
      · exact ih h

theorem writeNumber_ne_nil (bias k n : Nat) : writeNumber bias k n ≠ [] := by
  rw [writeNumber]
  split <;> exact List.cons_ne_nil _ _

/-! ## Insertions -/

/-- The reader goes on behind an insertion. -/
theorem insertAll_number {bias code position code' place delta : Nat} {made : List Char} {c : Char}
    (hpairs : position + delta = (code' - code) * (made.length + 1) + place) (hcode : code ≤ code')
    (hplace : place ≤ made.length) (hc : c.toNat = code') (rest : List Char) :
    insertAll bias code position made (writeNumber bias 36 delta ++ rest)
      = insertAll (adapt delta (made.length + 1) (position == 0)) code' (place + 1)
          (made.insertIdx place c) rest := by
  obtain ⟨first, others, hfirst⟩ := List.exists_cons_of_ne_nil (writeNumber_ne_nil bias 36 delta)
  -- a number counts the pairs of a code and a place, so it is taken apart by division
  have hdiv : code + (position + delta) / (made.length + 1) = code' := by
    rw [hpairs, Nat.mul_comm, Nat.mul_add_div (by omega), Nat.div_eq_of_lt (by omega)]
    omega
  have hmod : (position + delta) % (made.length + 1) = place := by
    rw [hpairs, Nat.mul_comm, Nat.mul_add_mod, Nat.mod_eq_of_lt (by omega)]
  have hread : character? code' = some c := by
    rw [← hc]
    exact character_toNat c
  have hshort : rest.length < (writeNumber bias 36 delta ++ rest).length := by
    rw [hfirst, List.cons_append, List.length_cons, List.length_append]
    omega
  have hsome : (writeNumber bias 36 delta ++ rest).isEmpty = false := by
    rw [hfirst]
    rfl
  rw [insertAll, hsome, number_writeNumber]
  simp only [Bool.false_eq_true, if_false]
  show (character? (code + (position + delta) / (made.length + 1))).bind _ = _
  rw [hdiv, hmod, hread]
  exact if_pos hshort

/-- The characters of a text before a code point. -/
def before (code : Nat) (cs : List Char) : List Char := cs.filter (·.toNat < code)

theorem before_append (code : Nat) (front back : List Char) :
    before code (front ++ back) = before code front ++ before code back := List.filter_append ..

theorem before_cons_of_lt {code : Nat} {c : Char} (h : c.toNat < code) (cs : List Char) :
    before code (c :: cs) = c :: before code cs := List.filter_cons_of_pos (decide_eq_true h)

theorem before_cons_of_le {code : Nat} {c : Char} (h : code ≤ c.toNat) (cs : List Char) :
    before code (c :: cs) = before code cs :=
  List.filter_cons_of_neg (by simpa using h)

theorem insertIdx_append (front back : List Char) (c : Char) :
    (front ++ back).insertIdx front.length c = front ++ c :: back := by
  induction front with
  | nil => rfl
  | cons d front ih =>
      rw [List.cons_append, List.length_cons, List.insertIdx_succ_cons, ih]
      rfl

/-- How far writer and reader are: from what the writer has written the reader has made a text,
    with its last insertion at the code point `n` and before the position `i`. The pairs from
    there to the given code point and place have been passed over. -/
structure Reaches (ascii made : List Char) (code place : Nat) (p : Progress) : Prop where
  handled : p.handled = made.length
  longer : ascii.length ≤ made.length
  digits : ∀ c ∈ p.written, ∃ d < 36, c = digitChar d
  reads : ∃ n i, n ≤ code ∧ i + p.passed = (code - n) * (made.length + 1) + place ∧
    (i = 0 ↔ made.length = ascii.length) ∧ ∀ rest,
      insertAll firstBias firstCode 0 ascii (p.written ++ rest) = insertAll p.bias n i made rest

namespace Reaches

variable {ascii made : List Char} {code place : Nat} {p : Progress}

/-- The beginning: nothing is written, and the reader has the characters of ASCII. -/
theorem start (ascii : List Char) :
    Reaches ascii ascii firstCode 0 { handled := ascii.length } where
  handled := rfl
  longer := Nat.le_refl _
  digits := List.forall_mem_nil _
  reads := ⟨firstCode, 0, Nat.le_refl _, by simp, by simp, fun _ => rfl⟩

/-- Pairs that are passed over. -/
theorem further (h : Reaches ascii made code place p) {code' place' passed : Nat}
    (hcode : code ≤ code')
    (hpassed : p.passed + ((code' - code) * (made.length + 1) + place') = passed + place) :
    Reaches ascii made code' place' { p with passed := passed } where
  handled := h.handled
  longer := h.longer
  digits := h.digits
  reads := by
    obtain ⟨n, i, hn, hpairs, hfirst, hreads⟩ := h.reads
    refine ⟨n, i, by omega, ?_, hfirst, hreads⟩
    have hsum : (code' - n) * (made.length + 1)
        = (code' - code) * (made.length + 1) + (code - n) * (made.length + 1) := by
      rw [← Nat.add_mul]
      congr 1
      omega
    dsimp only
    omega

/-- A character that is inserted. -/
theorem insert (h : Reaches ascii made code place p) (hplace : place ≤ made.length) {c : Char}
    (hc : c.toNat = code) :
    Reaches ascii (made.insertIdx place c) code (place + 1)
      { handled := p.handled + 1
        passed  := 0
        bias    := adapt p.passed (p.handled + 1) (p.handled == ascii.length)
        written := p.written ++ writeNumber p.bias 36 p.passed } := by
  have hlength : (made.insertIdx place c).length = made.length + 1 :=
    List.length_insertIdx_of_le_length hplace c
  have hlonger := h.longer
  obtain ⟨n, i, hn, hpairs, hfirst, hreads⟩ := h.reads
  refine ⟨?_, ?_, ?_, code, place + 1, Nat.le_refl _, ?_, ?_, fun rest => ?_⟩
  · rw [hlength, ← h.handled]
  · omega
  · refine List.forall_mem_append.mpr ⟨h.digits, fun c hc => mem_writeNumber hc⟩
  · simp
  · omega
  · have hbegun : (i == 0) = (p.handled == ascii.length) := by
      rw [h.handled, Bool.eq_iff_iff, beq_iff_eq, beq_iff_eq, hfirst]
    rw [List.append_assoc, hreads, insertAll_number hpairs hn hplace hc, hbegun, h.handled]

/-- **A character that the writer passes**: it is inserted already, or it is inserted now, or its
    turn comes later. -/
theorem pass {front back : List Char} {c : Char}
    (h : Reaches ascii (before (code + 1) front ++ before code (c :: back)) code
      (before (code + 1) front).length p) :
    Reaches ascii (before (code + 1) (front ++ [c]) ++ before code back) code
      (before (code + 1) (front ++ [c])).length (p.pass ascii.length code c) := by
  rw [Progress.pass, before_append]
  -- it is there already, it is the one to be inserted here, or its turn comes later
  rcases Nat.lt_trichotomy c.toNat code with hless | hsame | hmore
  · rw [before_cons_of_lt hless] at h
    rw [if_pos hless, before_cons_of_lt (by omega), List.append_assoc, List.length_append]
    refine h.further (Nat.le_refl _) ?_
    show p.passed + ((code - code) * _ + ((before (code + 1) front).length + 1)) = _
    rw [Nat.sub_self, Nat.zero_mul]
    omega
  · rw [before_cons_of_le (by omega)] at h
    rw [if_neg (by omega), if_pos hsame, before_cons_of_lt (by omega), List.append_assoc,
      List.length_append]
    have hinserted := h.insert (by rw [List.length_append]; omega) hsame
    rwa [insertIdx_append] at hinserted
  · rw [before_cons_of_le (by omega)] at h
    rw [if_neg (by omega), if_neg (by omega), before_cons_of_le (by omega)]
    show Reaches ascii (before (code + 1) front ++ [] ++ before code back) code
      (before (code + 1) front ++ []).length p
    rw [List.append_nil]
    exact h

/-- **A round of the writer** through the text: the reader gets the characters of the round. -/
theorem round (text : List Char) (h : Reaches ascii (before code text) code 0 p) :
    Reaches ascii (before (code + 1) text) code (before (code + 1) text).length
      (text.foldl (Progress.pass ascii.length code) p) := by
  have hrun : ∀ (back front : List Char) (p : Progress),
      Reaches ascii (before (code + 1) front ++ before code back) code
        (before (code + 1) front).length p →
      Reaches ascii (before (code + 1) (front ++ back)) code
        (before (code + 1) (front ++ back)).length
        (back.foldl (Progress.pass ascii.length code) p) := by
    intro back
    induction back with
    | nil =>
        intro front p hp
        rw [List.append_nil]
        rwa [show before code [] = [] from rfl, List.append_nil] at hp
    | cons c back ih =>
        intro front p hp
        rw [List.foldl_cons, ← List.singleton_append, ← List.append_assoc]
        exact ih _ _ hp.pass
  exact hrun text [] p h

/-- **All rounds of the writer**: at last the reader has the whole text. -/
theorem rounds {text : List Char} {codes : List Nat} {next : Nat}
    (hsorted : codes.Pairwise (· < ·)) (hlow : ∀ n ∈ codes, next ≤ n)
    (hall : ∀ c ∈ text, next ≤ c.toNat → c.toNat ∈ codes)
    (h : Reaches ascii (before next text) next 0 p) :
    ∃ last, Reaches ascii text last 0 (insertCodes text ascii.length next codes p) := by
  induction codes generalizing next p with
  | nil =>
      have hwhole : before next text = text := by
        refine List.filter_eq_self.mpr fun c hc => decide_eq_true (Nat.lt_of_not_le fun hle => ?_)
        exact List.not_mem_nil (hall c hc hle)
      rw [hwhole] at h
      exact ⟨next, h⟩
  | cons code later ih =>
      obtain ⟨hfirst, hlater⟩ := List.pairwise_cons.mp hsorted
      have hcode := hlow code List.mem_cons_self
      -- no character lies between the last round and this one
      have hsame : before next text = before code text := by
        refine List.filter_congr fun c hc => decide_eq_decide.mpr ⟨fun hless => by omega, ?_⟩
        refine fun hless => Nat.lt_of_not_le fun hle => ?_
        rcases List.mem_cons.mp (hall c hc hle) with heq | hmem
        · omega
        · have hmore := hfirst _ hmem
          omega
      rw [hsame] at h
      have hbegun : Reaches ascii (before code text) code 0
          { p with passed := p.passed + (code - next) * (p.handled + 1) } := by
        refine h.further hcode ?_
        rw [h.handled]
        rfl
      have hdone := hbegun.round text
      refine ih hlater hfirst (fun c hc hle => ?_) (hdone.further (Nat.le_succ code) ?_)
      · rcases List.mem_cons.mp (hall c hc (by omega)) with heq | hmem
        · omega
        · exact hmem
      · rw [Nat.add_sub_cancel_left, Nat.one_mul]
        omega

end Reaches

/-! ## Texts -/

/-- Without repetitions what stands in order stands in strict order. -/
theorem pairwise_eraseDups {k : Nat} {ns : List Nat} (hk : ns.length ≤ k)
    (h : ns.Pairwise (· ≤ ·)) : ns.eraseDups.Pairwise (· < ·) := by
  induction k generalizing ns with
  | zero =>
      rw [List.eq_nil_of_length_eq_zero (Nat.le_zero.mp hk)]
      exact .nil
  | succ k ih =>
      cases ns with
      | nil => exact .nil
      | cons n ns =>
          obtain ⟨hn, hns⟩ := List.pairwise_cons.mp h
          have hshort := List.length_filter_le (fun m => !m == n) ns
          have hk' : ns.length ≤ k := Nat.le_of_succ_le_succ hk
          rw [List.eraseDups_cons]
          refine .cons (fun m hm => ?_) (ih (Nat.le_trans hshort hk') (hns.filter _))
          obtain ⟨hmem, hne⟩ := List.mem_filter.mp (List.mem_eraseDups.mp hm)
          have hle := hn m hmem
          have hother : m ≠ n := by simpa using hne
          omega

/-- The code points that are inserted: each once, in their order. -/
theorem pairwise_codes (text : List Char) : (codes text).Pairwise (· < ·) := by
  have hsorted : (((text.map Char.toNat).filter (firstCode ≤ ·)).mergeSort).Pairwise
      fun a b => decide (a ≤ b) = true :=
    List.pairwise_mergeSort (fun a b c hab hbc => by simp at *; omega) (fun a b => by simp; omega) _
  exact pairwise_eraseDups (Nat.le_refl _) (hsorted.imp fun h => of_decide_eq_true h)

theorem mem_codes {text : List Char} {n : Nat} :
    n ∈ codes text ↔ firstCode ≤ n ∧ ∃ c ∈ text, c.toNat = n := by
  rw [codes, List.mem_eraseDups, List.mem_mergeSort, List.mem_filter, List.mem_map,
    decide_eq_true_iff]
  exact And.comm

/-- What is behind the hyphen: digits only, from which the reader makes the text. -/
theorem exists_encode (text : List Char) : ∃ numbers,
    encode text = (if (before firstCode text).isEmpty then []
      else before firstCode text ++ ['-']) ++ numbers ∧
    (∀ c ∈ numbers, ∃ d < 36, c = digitChar d) ∧
    insertAll firstBias firstCode 0 (before firstCode text) numbers = some text := by
  obtain ⟨last, hreached⟩ := (Reaches.start (before firstCode text)).rounds (pairwise_codes text)
    (fun n hn => (mem_codes.mp hn).1) (fun c hc hle => mem_codes.mpr ⟨hle, c, hc, rfl⟩)
  obtain ⟨n, i, -, -, -, hreads⟩ := hreached.reads
  refine ⟨_, rfl, hreached.digits, ?_⟩
  have hread := hreads []
  rw [List.append_nil] at hread
  refine hread.trans ?_
  rw [insertAll]
  rfl

/-- The characters of a written text: those of ASCII that the text has, a hyphen, and digits. -/
theorem mem_encode {text : List Char} {c : Char} (h : c ∈ encode text) :
    (c ∈ text ∧ c.toNat < firstCode) ∨ c = '-' ∨ ∃ d < 36, c = digitChar d := by
  obtain ⟨numbers, hencode, hdigits, -⟩ := exists_encode text
  rw [hencode] at h
  rcases List.mem_append.mp h with hfront | hnumber
  · split at hfront
    · cases hfront
    · rcases List.mem_append.mp hfront with hascii | hhyphen
      · exact Or.inl ⟨(List.mem_filter.mp hascii).1, of_decide_eq_true (List.mem_filter.mp hascii).2⟩
      · exact Or.inr (Or.inl (List.mem_singleton.mp hhyphen))
  · exact Or.inr (Or.inr (hdigits c hnumber))

/-- **A text is read from its Punycode.** -/
theorem decode_encode (text : List Char) : decode? (encode text) = some text := by
  obtain ⟨numbers, hencode, hdigits, hread⟩ := exists_encode text
  have hhyphen : '-' ∉ numbers := by
    intro hmem
    obtain ⟨d, hd, heq⟩ := hdigits _ hmem
    have hnone : ∀ d < 36, digitChar d ≠ '-' := by decide
    exact hnone d hd heq.symm
  -- the numbers have no hyphen, so the last one in the text is the one that was put there
  have hsplit : splitAtHyphen (encode text) = (before firstCode text, numbers) := by
    rw [splitAtHyphen, hencode]
    split
    · rename_i hempty
      have hall : (numbers.reverse ++ []).takeWhile (· != '-') = numbers.reverse := by
        refine takeWhile_append_of (fun c hc => bne_iff_ne.mpr ?_) fun c hc => by cases hc
        rintro rfl
        exact hhyphen (List.mem_reverse.mp hc)
      rw [List.append_nil] at hall
      rw [List.nil_append, hall, List.reverse_reverse, Nat.sub_self, List.isEmpty_iff.mp hempty]
      rfl
    · obtain ⟨hbehind, hfront⟩ := takeWhile_reverse_append (before firstCode text) hhyphen
      rw [List.append_assoc, List.singleton_append, hbehind, hfront]
  rw [decode?, hsplit]
  refine (if_pos (List.all_eq_true.mpr fun c hc => ?_)).trans hread
  exact (List.mem_filter.mp hc).2

end Punycode

end Postbox.Text
