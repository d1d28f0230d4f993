import Mathlib.Algebra.Ring.Nat
import Mathlib.Data.List.Induction
import Postbox.Proofs.Printable
import Postbox.Proofs.Url.Names
import Postbox.Url.Address

/-! # Addresses in numbers — one spelling, which is read

    An address that is read is a number of 32 bits, or eight pieces of 16 bits.  It is written
    in one way, from which it is read again (`Ipv4.read_write`, `Ipv6.read_write`).  The text
    of an IPv6 address has two colons in a row only where zeros are left out, so that it is
    cut at the place where it was put together. -/

namespace Postbox.Url

open Text

/-! ## Numbers -/

theorem digit_digitChar : ∀ d < 16, Hex.digit? d.digitChar = some d := by decide

/-- One more digit of a number. -/
theorem numberInBase_snoc {base d : Nat} (hbase : base ≤ 16) (hd : d < base) (cs : List Char) :
    numberInBase? base (cs ++ [d.digitChar])
      = (numberInBase? base cs).map fun n => n * base + d := by
  rw [numberInBase?, List.foldlM_append]
  show (numberInBase? base cs).bind _ = _
  cases numberInBase? base cs with
  | none => rfl
  | some n =>
      rw [Option.bind_some, List.foldlM_cons, digit_digitChar d (by omega), Option.filter_some,
        if_pos (by simpa using hd)]
      rfl

/-- **A number is read from its digits.** -/
theorem numberInBase_toDigits {base : Nat} (hbase : 1 < base) (hmax : base ≤ 16) (n : Nat) :
    numberInBase? base (Nat.toDigits base n) = some n := by
  induction n using Nat.strongRecOn with
  | ind n ih =>
      by_cases hlt : n < base
      · rw [Nat.toDigits_of_lt_base hlt, ← List.nil_append [n.digitChar],
          numberInBase_snoc hmax hlt]
        show some (0 * base + n) = some n
        rw [Nat.zero_mul, Nat.zero_add]
      · have hless : n / base < n := Nat.div_lt_self (by omega) hbase
        rw [Nat.toDigits_of_base_le hbase (by omega),
          numberInBase_snoc hmax (Nat.mod_lt n (by omega)), ih _ hless, Option.map_some,
          Nat.mul_comm, Nat.div_add_mod]

/-- A number of few digits is small. -/
theorem numberInBase_lt {base : Nat} {cs : List Char} {n : Nat}
    (h : numberInBase? base cs = some n) : n < base ^ cs.length := by
  induction cs using List.reverseRecOn generalizing n with
  | nil =>
      obtain rfl := Option.some.inj h
      exact Nat.one_pos
  | append_singleton cs c ih =>
      rw [numberInBase?, List.foldlM_append] at h
      obtain ⟨m, hm, h⟩ := Option.bind_eq_some_iff.mp h
      rw [List.foldlM_cons] at h
      obtain ⟨k, hk, h⟩ := Option.bind_eq_some_iff.mp h
      obtain ⟨d, hd, rfl⟩ := Option.map_eq_some_iff.mp hk
      have hdigit : d < base := of_decide_eq_true (Option.filter_eq_some_iff.mp hd).2
      obtain rfl := Option.some.inj h
      have hless := ih hm
      rw [List.length_append, List.length_singleton, Nat.pow_succ]
      calc m * base + d < (m + 1) * base := by rw [Nat.succ_mul]; omega
        _ ≤ base ^ cs.length * base := Nat.mul_le_mul_right _ hless

/-! ## IPv4 -/

namespace Ipv4

/-- The digits of one of the four numbers. -/
def digits (n bit : Nat) : List Char := Nat.toDigits 10 ((n >>> bit) % 256)

/-- The parts of a written address. -/
def parts (n : Nat) : List (List Char) := [digits n 24, digits n 16, digits n 8, digits n 0]

theorem write_eq (n : Nat) : (write n).toList = ['.'].intercalate (parts n) := by
  have hdigits : ∀ bit, (toString ((n >>> bit) % 256)).toList = digits n bit :=
    fun bit => Nat.toList_repr
  rw [write, String.toList_intercalate]
  simp only [List.map_cons, List.map_nil, hdigits]
  rfl

/-- The parts are digits. -/
theorem isDigit_parts (n : Nat) : ∀ part ∈ parts n, part ≠ [] ∧ ∀ c ∈ part, c.isDigit = true := by
  have hdigits : ∀ bit, digits n bit ≠ [] ∧ ∀ c ∈ digits n bit, c.isDigit = true := fun bit =>
    ⟨Nat.toDigits_ne_nil, fun c hc => Nat.isDigit_of_mem_toDigits (by omega) (by omega) hc⟩
  simp only [parts, List.forall_mem_cons]
  exact ⟨hdigits 24, hdigits 16, hdigits 8, hdigits 0, List.forall_mem_nil _⟩

theorem places_write (n : Nat) : places (write n).toList = parts n := by
  have hsplit : (write n).toList.splitOn '.' = parts n := by
    rw [write_eq]
    refine List.splitOn_intercalate '.' (fun part hpart hstop => ?_) (List.cons_ne_nil _ _)
    exact absurd ((isDigit_parts n part hpart).2 '.' hstop) (by decide)
  have hlast : ((parts n).getLast? == some []) = false := by
    have hsome := (isDigit_parts n (digits n 0) (by simp [parts])).1
    simpa [parts] using hsome
  rw [places, hsplit, hlast, Bool.and_false, if_neg Bool.false_ne_true]

/-- What is written of an address ends in a number. -/
theorem endsInNumber_write (n : Nat) : endsInNumber (write n).toList = true := by
  obtain ⟨hsome, hdigits⟩ := isDigit_parts n (digits n 0) (by simp [parts])
  have hlast : (parts n).getLast? = some (digits n 0) := rfl
  rw [endsInNumber, places_write, hlast]
  dsimp only
  rw [List.all_eq_true.mpr hdigits, List.isEmpty_eq_false_iff.mpr hsome]
  rfl

/-- A byte in decimal is read as it is. -/
theorem number_digits : ∀ b < 256, number? (Nat.toDigits 10 b) = some b := by decide +kernel

/-- **An address of 32 bits is read from what is written of it.** -/
theorem read_write {n : Nat} (h : n < 2 ^ 32) : read? (write n).toList = some n := by
  have hbyte : ∀ bit, number? (digits n bit) = some ((n >>> bit) % 256) :=
    fun bit => number_digits _ (Nat.mod_lt _ (by decide))
  have hnumbers : (parts n).mapM number?
      = some [(n >>> 24) % 256, (n >>> 16) % 256, (n >>> 8) % 256, (n >>> 0) % 256] :=
    mapM_eq_some_iff.mpr
      (.cons (hbyte 24) (.cons (hbyte 16) (.cons (hbyte 8) (.cons (hbyte 0) .nil))))
  have hfits : ((parts n).length ≤ 4 && [(n >>> 24) % 256, (n >>> 16) % 256, (n >>> 8) % 256].all
      (· ≤ 255) && (n >>> 0) % 256 < 1 <<< 8) = true := by
    have hall : ∀ bit, (n >>> bit) % 256 ≤ 255 := fun bit =>
      Nat.le_of_lt_succ (Nat.mod_lt _ (by decide))
    have hlast : n % 256 < 256 := Nat.mod_lt n (by decide)
    simp [parts, hall, hlast]
  rw [read?, places_write]
  show ((parts n).mapM number?).bind _ = _
  rw [hnumbers]
  refine (if_pos hfits).trans (congrArg some ?_)
  show ((((0 * 256 + (n >>> 24) % 256) * 256 + (n >>> 16) % 256) * 256 + (n >>> 8) % 256) <<< 8)
    + (n >>> 0) % 256 = n
  simp only [Nat.shiftRight_eq_div_pow, Nat.shiftLeft_eq]
  omega

/-- An address that is read has 32 bits. -/
theorem lt_of_read {host : List Char} {n : Nat} (h : read? host = some n) : n < 2 ^ 32 := by
  have hbytes : ∀ (bytes : List Nat) (k : Nat), (∀ b ∈ bytes, b ≤ 255) →
      bytes.foldl (fun n byte => n * 256 + byte) k < (k + 1) * 256 ^ bytes.length := by
    intro bytes
    induction bytes with
    | nil => intro k _; simp
    | cons b bytes ih =>
        intro k hall
        obtain ⟨hb, hrest⟩ := List.forall_mem_cons.mp hall
        rw [List.foldl_cons, List.length_cons, Nat.pow_succ', ← Nat.mul_assoc]
        calc bytes.foldl (fun n byte => n * 256 + byte) (k * 256 + b)
            < (k * 256 + b + 1) * 256 ^ bytes.length := ih _ hrest
          _ ≤ (k + 1) * 256 * 256 ^ bytes.length := Nat.mul_le_mul_right _ (by omega)
  rw [read?] at h
  obtain ⟨numbers, hnumbers, h⟩ := Option.bind_eq_some_iff.mp h
  obtain ⟨last, hlast, h⟩ := Option.bind_eq_some_iff.mp h
  obtain ⟨hfits, h⟩ := Option.ite_none_right_eq_some.mp h
  simp only [Bool.and_eq_true, decide_eq_true_iff, List.all_eq_true] at hfits
  obtain ⟨⟨hfour, hfirst⟩, hsmall⟩ := hfits
  obtain ⟨front, rfl⟩ := List.getLast?_eq_some_iff.mp hlast
  rw [List.dropLast_concat] at hfirst hsmall h
  have hlength := (mapM_eq_some_iff.mp hnumbers).length_eq
  rw [List.length_append, List.length_singleton] at hlength
  have hless := hbytes front 0 hfirst
  -- the last part fills what the parts in front of it leave of the four bytes
  have hpower : (256 : Nat) ^ front.length * 2 ^ (8 * (4 - front.length)) = 2 ^ 32 := by
    rw [show (256 : Nat) = 2 ^ 8 from rfl, ← Nat.pow_mul, ← Nat.pow_add]
    congr 1
    omega
  rw [Nat.one_shiftLeft] at hsmall
  rw [Nat.shiftLeft_eq] at h
  rw [← Option.some.inj h, ← hpower]
  generalize 2 ^ (8 * (4 - front.length)) = weight at hsmall ⊢
  calc front.foldl (fun n byte => n * 256 + byte) 0 * weight + last
      < (front.foldl (fun n byte => n * 256 + byte) 0 + 1) * weight := by
        rw [Nat.succ_mul]
        omega
    _ ≤ 256 ^ front.length * weight := Nat.mul_le_mul_right _ (by omega)

end Ipv4

/-! ## IPv6 -/

namespace Ipv6

/-- The text of pieces with colons between them. -/
def runText (pieces : List Nat) : List Char := [':'].intercalate (pieces.map (Nat.toDigits 16))

theorem writeRun_eq (pieces : List Nat) : (writeRun pieces).toList = runText pieces := by
  rw [writeRun, String.toList_intercalate, List.map_map]
  refine congrArg [':'].intercalate (List.map_congr_left fun n _ => String.toList_ofList)

/-- The digits of a piece: there are some, and no colon or full stop is among them. -/
theorem digits_piece (n : Nat) : Nat.toDigits 16 n ≠ [] ∧
    ∀ c ∈ Nat.toDigits 16 n, c ≠ ':' ∧ c ≠ '.' :=
  ⟨Nat.toDigits_ne_nil, forall_digits (P := fun c => c ≠ ':' ∧ c ≠ '.') (by decide) (by omega)
    (by omega) n⟩

/-! ### Cutting -/

/-- The first pair of colons does not lie in a part without colons. -/
theorem splitAtGap_part {part : List Char} (h : ':' ∉ part) (rest : List Char) :
    splitAtGap? (part ++ rest) = (splitAtGap? rest).map fun p => (part ++ p.1, p.2) := by
  induction part with
  | nil => exact Option.map_id'.symm
  | cons c part ih =>
      obtain ⟨hc, hpart⟩ := not_or.mp (mt List.mem_cons.mpr h)
      rw [List.cons_append, splitAtGap?, ih hpart, Option.map_map]
      · rfl
      · exact fun _ heq _ => hc heq.symm

theorem runText_cons (n m : Nat) (pieces : List Nat) :
    runText (n :: m :: pieces) = Nat.toDigits 16 n ++ ':' :: runText (m :: pieces) := by
  rw [runText, List.map_cons, List.map_cons, List.intercalate_cons_cons, List.append_assoc]
  rfl

/-- A text of pieces begins with a digit. -/
theorem exists_runText (m : Nat) (pieces : List Nat) :
    ∃ d rest, runText (m :: pieces) = d :: rest ∧ d ≠ ':' := by
  obtain ⟨hsome, hdigits⟩ := digits_piece m
  obtain ⟨d, ds, hd⟩ := List.exists_cons_of_ne_nil hsome
  have hcolon : d ≠ ':' := (hdigits d (hd ▸ List.mem_cons_self)).1
  cases pieces with
  | nil =>
      refine ⟨d, ds, ?_, hcolon⟩
      rw [runText, List.map_singleton, List.intercalate_singleton, hd]
  | cons n pieces =>
      refine ⟨d, ds ++ ':' :: runText (n :: pieces), ?_, hcolon⟩
      rw [runText_cons, hd, List.cons_append]

/-- **The first pair of colons does not lie in a text of pieces.** -/
theorem splitAtGap_run (pieces : List Nat) (rest : List Char) :
    splitAtGap? (runText pieces ++ rest)
      = (splitAtGap? rest).map fun p => (runText pieces ++ p.1, p.2) := by
  have hpart : ∀ n, ':' ∉ Nat.toDigits 16 n := fun n hmem => ((digits_piece n).2 ':' hmem).1 rfl
  induction pieces with
  | nil => exact Option.map_id'.symm
  | cons n pieces ih =>
      cases pieces with
      | nil =>
          rw [runText, List.map_singleton, List.intercalate_singleton]
          exact splitAtGap_part (hpart n) rest
      | cons m pieces =>
          obtain ⟨d, others, hothers, hd⟩ := exists_runText m pieces
          rw [runText_cons, List.append_assoc, splitAtGap_part (hpart n), List.cons_append,
            hothers, List.cons_append, splitAtGap?, ← List.cons_append, ← hothers, ih,
            Option.map_map, Option.map_map]
          · exact congrArg (Option.map · _) (funext fun p => by simp)
          · exact fun _ _ heq => hd (List.cons.inj heq).1

/-! ### Reading -/

/-- A piece of 16 bits is read from its digits. -/
theorem pieces_digits {n : Nat} (h : n < 65536) (isLast : Bool) :
    pieces? isLast (Nat.toDigits 16 n) = some [n] := by
  obtain ⟨hsome, hdigits⟩ := digits_piece n
  have hstop : (Nat.toDigits 16 n).contains '.' = false := by
    rw [List.contains_eq_mem, decide_eq_false_iff_not]
    exact fun hmem => (hdigits '.' hmem).2 rfl
  have hlength : (Nat.toDigits 16 n).length ≤ 4 := (Nat.length_toDigits_le_iff (by omega) (by omega)).mpr h
  have hfits : ((Nat.toDigits 16 n).isEmpty || decide ((Nat.toDigits 16 n).length > 4)) = false := by
    rw [List.isEmpty_eq_false_iff.mpr hsome, decide_eq_false (Nat.not_lt.mpr hlength)]
    rfl
  rw [pieces?, hstop, Bool.and_false, if_neg Bool.false_ne_true, hfits, if_neg Bool.false_ne_true,
    numberInBase_toDigits (by omega) (by omega)]
  rfl

/-- **Pieces are read from their text.** -/
theorem run_runText {pieces : List Nat} (h : ∀ n ∈ pieces, n < 65536) (isLast : Bool) :
    run? isLast (runText pieces) = some pieces := by
  cases pieces with
  | nil => rfl
  | cons m pieces =>
      obtain ⟨d, rest, hd, -⟩ := exists_runText m pieces
      have hsplit : (runText (m :: pieces)).splitOn ':' = (m :: pieces).map (Nat.toDigits 16) := by
        refine List.splitOn_intercalate ':' (List.forall_mem_map.mpr fun n _ hcolon => ?_)
          (List.cons_ne_nil _ _)
        exact ((digits_piece n).2 ':' hcolon).1 rfl
      have hall : ∀ (ns : List Nat) (i : Nat) (p : Nat → Bool), (∀ n ∈ ns, n < 65536) →
          ((ns.map (Nat.toDigits 16)).zipIdx i).mapM (fun (part, i) => pieces? (p i) part)
            = some (ns.map fun n => [n]) := by
        intro ns
        induction ns with
        | nil => exact fun _ _ _ => rfl
        | cons n ns ih =>
            intro i p hns
            obtain ⟨hn, hrest⟩ := List.forall_mem_cons.mp hns
            rw [List.map_cons, List.zipIdx_cons, List.mapM_cons, ih _ p hrest]
            dsimp only
            rw [pieces_digits hn]
            rfl
      rw [run?, hd, List.isEmpty_cons, if_neg Bool.false_ne_true, ← hd, hsplit]
      dsimp only
      rw [hall _ 1 (fun i => isLast && i == _) h, Option.map_some, ← List.flatMap_def,
        List.flatMap_singleton']

/-- The zeros in front are in front. -/
theorem zerosInFront_append (pieces : List Nat) :
    List.replicate (zerosInFront pieces) 0 ++ pieces.drop (zerosInFront pieces) = pieces := by
  induction pieces with
  | nil => rfl
  | cons n pieces ih =>
      cases n with
      | zero =>
          show 0 :: (List.replicate (zerosInFront pieces) 0 ++ pieces.drop (zerosInFront pieces)) = _
          rw [ih]
      | succ n => rfl

/-- What is left out is zeros. -/
theorem longestZeros_append (pieces : List Nat) :
    pieces.take (longestZeros pieces).1 ++ (List.replicate (longestZeros pieces).2 0
      ++ pieces.drop ((longestZeros pieces).1 + (longestZeros pieces).2)) = pieces := by
  induction pieces with
  | nil => rfl
  | cons n pieces ih =>
      rw [longestZeros]
      dsimp only
      split
      · rw [Nat.zero_add]
        exact zerosInFront_append (n :: pieces)
      · rw [List.take_succ_cons, Nat.add_right_comm, List.drop_succ_cons, List.cons_append, ih]

/-- The text of an address. -/
theorem write_eq {pieces : List Nat} {start count : Nat}
    (h : longestZeros pieces = (start, count)) : (write pieces).toList =
      if count < 2 then runText pieces
      else runText (pieces.take start) ++ (':' :: ':' :: runText (pieces.drop (start + count))) := by
  rw [write, h]
  dsimp only
  split
  · exact writeRun_eq pieces
  · rw [String.toList_append, String.toList_append, writeRun_eq, writeRun_eq, List.append_assoc]
    rfl

/-- **An address of eight pieces of 16 bits is read from what is written of it.** -/
theorem read_write {pieces : List Nat} (hlength : pieces.length = 8)
    (h : ∀ n ∈ pieces, n < 65536) : read? (write pieces).toList = some pieces := by
  cases hzeros : longestZeros pieces with
  | mk start count =>
      have hwhole := longestZeros_append pieces
      rw [hzeros] at hwhole
      rw [write_eq hzeros]
      split
      · have hgap := splitAtGap_run pieces []
        rw [List.append_nil] at hgap
        rw [read?, hgap]
        show (run? true (runText pieces)).filter _ = _
        rw [run_runText h, Option.filter_some, if_pos (beq_iff_eq.mpr hlength)]
      · rename_i hmany
        have hfront : ∀ n ∈ pieces.take start, n < 65536 := fun n hn => h n (List.mem_of_mem_take hn)
        have hbehind : ∀ n ∈ pieces.drop (start + count), n < 65536 :=
          fun n hn => h n (List.mem_of_mem_drop hn)
        -- the gap is as long as what is missing of the eight pieces
        have hcount : (pieces.take start).length + (count + (pieces.drop (start + count)).length)
            = 8 := by
          rw [← hlength, ← congrArg List.length hwhole]
          simp only [List.length_append, List.length_replicate]
        rw [read?, splitAtGap_run]
        show ((run? false (runText (pieces.take start) ++ [])).bind _) = _
        rw [List.append_nil, run_runText hfront]
        show ((run? true (runText (pieces.drop (start + count)))).bind _) = _
        rw [run_runText hbehind]
        refine (if_pos (by omega)).trans ?_
        have hleft : 8 - (pieces.take start).length - (pieces.drop (start + count)).length = count := by
          omega
        rw [hleft, List.append_assoc, hwhole]

/-- The digits of an address end with f. -/
theorem x_notMem_write (pieces : List Nat) : 'x' ∉ (write pieces).toList := by
  have hrun : ∀ ns : List Nat, ∀ c ∈ runText ns, c ≠ 'x' := fun ns =>
    forall_mem_intercalate (forall_mem_of_all (by decide)) (List.forall_mem_map.mpr fun n _ =>
      forall_digits (P := (· ≠ 'x')) (by decide) (by omega) (by omega) n)
  have hall : ∀ c ∈ (write pieces).toList, c ≠ 'x' := by
    rw [write_eq rfl]
    split
    · exact hrun _
    · exact List.forall_mem_append.mpr ⟨hrun _, List.forall_mem_cons.mpr
        ⟨by decide, List.forall_mem_cons.mpr ⟨by decide, hrun _⟩⟩⟩
  exact fun hmem => hall 'x' hmem rfl

/-! ### Bounds -/

/-- The pieces of a part have 16 bits. -/
theorem lt_of_pieces {isLast : Bool} {part : List Char} {pieces : List Nat}
    (h : pieces? isLast part = some pieces) : ∀ n ∈ pieces, n < 65536 := by
  rw [pieces?] at h
  split at h
  · obtain ⟨bytes, hbytes, h⟩ := Option.bind_eq_some_iff.mp h
    have hbyte : ∀ b ∈ bytes, b ≤ 255 := by
      intro b hb
      obtain ⟨ds, -, hread⟩ := (exists_of_mapM hbytes).2 b hb
      obtain ⟨-, hread⟩ := Option.ite_none_left_eq_some.mp hread
      exact of_decide_eq_true (Option.filter_eq_some_iff.mp hread).2
    split at h
    · simp only [List.forall_mem_cons] at hbyte
      rw [← Option.some.inj h]
      simp only [List.forall_mem_cons]
      exact ⟨by omega, by omega, List.forall_mem_nil _⟩
    · cases h
  · obtain ⟨hfits, h⟩ := Option.ite_none_left_eq_some.mp h
    obtain ⟨n, hn, rfl⟩ := Option.map_eq_some_iff.mp h
    rw [Bool.or_eq_true, decide_eq_true_iff, not_or] at hfits
    refine List.forall_mem_singleton.mpr ?_
    calc n < 16 ^ part.length := numberInBase_lt hn
      _ ≤ 16 ^ 4 := Nat.pow_le_pow_right (by decide) (Nat.le_of_not_lt hfits.2)

/-- The pieces of a run have 16 bits. -/
theorem lt_of_run {isLast : Bool} {cs : List Char} {pieces : List Nat}
    (h : run? isLast cs = some pieces) : ∀ n ∈ pieces, n < 65536 := by
  rw [run?] at h
  split at h
  · rw [← Option.some.inj h]
    exact List.forall_mem_nil _
  · obtain ⟨parts, hparts, rfl⟩ := Option.map_eq_some_iff.mp h
    intro n hn
    obtain ⟨piece, hpiece, hn⟩ := List.mem_flatten.mp hn
    obtain ⟨_, -, hread⟩ := (exists_of_mapM hparts).2 piece hpiece
    exact lt_of_pieces hread n hn

/-- **An address that is read has eight pieces of 16 bits.** -/
theorem bounds_of_read {cs : List Char} {pieces : List Nat} (h : read? cs = some pieces) :
    pieces.length = 8 ∧ ∀ n ∈ pieces, n < 65536 := by
  rw [read?] at h
  split at h
  · obtain ⟨hrun, hlength⟩ := Option.filter_eq_some_iff.mp h
    exact ⟨beq_iff_eq.mp hlength, lt_of_run hrun⟩
  · obtain ⟨front, hfront, h⟩ := Option.bind_eq_some_iff.mp h
    obtain ⟨behind, hbehind, h⟩ := Option.bind_eq_some_iff.mp h
    obtain ⟨hfits, h⟩ := Option.ite_none_right_eq_some.mp h
    rw [← Option.some.inj h]
    refine ⟨?_, List.forall_mem_append.mpr ⟨List.forall_mem_append.mpr
      ⟨lt_of_run hfront, fun n hn => ?_⟩, lt_of_run hbehind⟩⟩
    · simp only [List.length_append, List.length_replicate]
      omega
    · rw [List.eq_of_mem_replicate hn]
      decide

end Ipv6

end Postbox.Url
