import Postbox.Text.Composition
import Postbox.Proofs.Text.Tables
import Postbox.Proofs.Utf8

/-! # Composition — characters and their parts

    A character is taken apart into parts that have none (`split_of_mem_parts`), and two
    characters join into one that has the parts of both (`parts_join`).  Of the syllables of
    Hangul this is arithmetic.  Of the others it is true because the table is sound: `isSound`
    says what one run of it has to be, the kernel reads the table and looks at all runs
    (`areSound_runs`), and the lemmas follow from that. -/

namespace Postbox.Text

open Runs

/-! ## The tables -/

/-- The order of a character by a tree of marks. -/
def Mark.orderIn (marks : Tree Mark) (c : Char) : Nat :=
  if c.toNat < 0x300 then 0 else ((marks.find? c.toNat).map fun r => r.value.order).getD 0

namespace Composition

/-- The parts of a character by a tree of composed characters. -/
def splitIn (t : Tree (Char × Char)) (c : Char) : List Char :=
  if Hangul.isSyllable c.toNat then Hangul.letters c.toNat
  else match t.find? c.toNat with
    | some r => [r.value.1, r.value.2]
    | none   => [c]

/-- What holds of a composed character: it has no other beside it in its run, is no syllable and
    no letter of Hangul; its second part has no parts, and the parts of its first part have none;
    the first part is a letter, and neither is a full stop. -/
def isSound (t : Tree (Char × Char)) (marks : Tree Mark) (r : Run (Char × Char)) : Bool :=
  r.first == r.last && decide r.first.isValidChar && !Hangul.isSyllable r.first &&
    (decide (r.last < 0x1100) || decide (0x1200 ≤ r.first)) &&
    splitIn t r.value.2 == [r.value.2] &&
    (splitIn t r.value.1).all (fun d => splitIn t d == [d]) &&
    Mark.orderIn marks r.value.1 == 0 && r.value.1 != '.' && r.value.2 != '.'

/-- What holds of a run of marks: those with an order are no letters nor syllables of Hangul. -/
def isApart (r : Run Mark) : Bool :=
  r.value.order == 0 || (decide (r.last < 0x1100) || decide (0x1200 ≤ r.first)) &&
    (decide (r.last < 0xAC00) || decide (0xD7A4 ≤ r.first))

/-- What can be computed of the tables. -/
def areSound (rs : List (Run (Char × Char))) (ms : List (Run Mark)) : Bool :=
  isSortedFrom 0xE0 rs && isSortedFrom 0x300 ms && ms.all isApart &&
    (Tree.ofList 10 rs).2.isEmpty && (Tree.ofList 10 ms).2.isEmpty &&
    rs.all (isSound (Tree.ofList 10 rs).1 (Tree.ofList 10 ms).1)

set_option maxRecDepth 100000 in
/-- The tables are sound: the kernel reads both and looks at each run. -/
theorem areSound_runs : areSound runs.toList Mark.runs.toList = true := by
  unfold runs Mark.runs
  with_reducible refine ofText_of_ofChars (l := ?l) ?hs (P := fun rs => areSound rs _ = true) ?h
  case hs => with_reducible exact rfl
  case h =>
    with_reducible refine ofText_of_ofChars (l := ?k) ?hs (P := fun ms => areSound _ ms = true) ?h
    case hs => with_reducible exact rfl
    case h => decide +kernel

/-- The trees of two sound tables tell what is found in them. -/
theorem exists_trees {rs : Runs (Char × Char)} {ms : Runs Mark}
    (h : areSound rs.toList ms.toList = true) :
    isSortedFrom 0xE0 rs.toList = true ∧ (∀ m ∈ ms.toList, isApart m = true) ∧
      ∃ t marks, (∀ c, rs.run? c = t.find? c.toNat) ∧ (∀ c, ms.run? c = marks.find? c.toNat) ∧
        ∀ r ∈ rs.toList, isSound t marks r = true := by
  simp only [areSound, Bool.and_eq_true, List.isEmpty_iff, List.all_eq_true] at h
  obtain ⟨⟨⟨⟨⟨hsorted, hmarks⟩, hapart⟩, hwhole⟩, hwholeMarks⟩, hsound⟩ := h
  exact ⟨hsorted, hapart, _, _, Tree.run_eq_find hsorted hwhole,
    Tree.run_eq_find hmarks hwholeMarks, hsound⟩

/-- What holds of a run of the table. -/
structure Sound (r : Run (Char × Char)) : Prop where
  single : r.first = r.last
  valid : r.first.isValidChar
  noSyllable : Hangul.isSyllable r.first = false
  noLetter : r.last < 0x1100 ∨ 0x1200 ≤ r.first
  second : split r.value.2 = [r.value.2]
  first : ∀ d ∈ split r.value.1, split d = [d]
  order : markOrder r.value.1 = 0
  noStop : r.value.1 ≠ '.' ∧ r.value.2 ≠ '.'

theorem sorted_runs : isSortedFrom 0xE0 runs.toList = true := (exists_trees areSound_runs).1

theorem apart_marks : ∀ m ∈ Mark.runs.toList, isApart m = true := (exists_trees areSound_runs).2.1

/-- **Each run of the table is sound.** -/
theorem sound_of_mem {r : Run (Char × Char)} (hr : r ∈ runs.toList) : Sound r := by
  obtain ⟨-, -, t, marks, hrun, hmark, hsound⟩ := exists_trees areSound_runs
  have hsplit : ∀ c, split c = splitIn t c := by
    intro c
    rw [split, splitIn, value?, hrun]
    cases t.find? c.toNat with
    | none => rfl
    | some r => rfl
  have horder : ∀ c, markOrder c = Mark.orderIn marks c := by
    intro c
    rw [markOrder, mark?, Mark.orderIn, value?, hmark]
    split
    · rfl
    · rw [Option.map_map]
      rfl
  have h := hsound r hr
  simp only [isSound, Bool.and_eq_true, Bool.or_eq_true, beq_iff_eq, decide_eq_true_iff,
    Bool.not_eq_true', bne_iff_ne, List.all_eq_true, ← hsplit, ← horder] at h
  obtain ⟨⟨⟨⟨⟨⟨⟨⟨hsingle, hvalid⟩, hsyllable⟩, hletter⟩, hsecond⟩, hfirst⟩, hzero⟩, hstop⟩, hstop'⟩ := h
  exact ⟨hsingle, hvalid, hsyllable, hletter, hsecond, hfirst, hzero, hstop, hstop'⟩

/-! ## Parts -/

/-- All parts of a character: those of its parts, or their parts. -/
def parts (c : Char) : List Char := (split c).flatMap split

/-- A character that no run has, and that is no syllable, has no parts. -/
theorem split_of_none {c : Char} (hsyllable : Hangul.isSyllable c.toNat = false)
    (h : ∀ r ∈ runs.toList, ¬ r.Has c.toNat) : split c = [c] := by
  rw [split, hsyllable, if_neg Bool.false_ne_true, value?]
  cases hrun : runs.run? c with
  | none => rfl
  | some r => exact absurd (has_of_run hrun).2 (h r (has_of_run hrun).1)

/-- A letter of Hangul has no parts. -/
theorem split_letter {n : Nat} (hlow : 0x1100 ≤ n) (hhigh : n < 0x1200) :
    split (Char.ofNat n) = [Char.ofNat n] := by
  have hn : (Char.ofNat n).toNat = n := toNat_ofNat (Or.inl (by omega))
  refine split_of_none ?_ fun r hr hhas => ?_
  · rw [hn, Hangul.isSyllable, Hangul.syllables, decide_eq_false (by omega), Bool.false_and]
  · have hsound := sound_of_mem hr
    have hsingle := hsound.single
    rw [hn] at hhas
    obtain ⟨hfirst, hlast⟩ := hhas
    rcases hsound.noLetter with hbelow | habove
    · omega
    · omega

/-- The parts of a composed character of the table. -/
theorem split_run {r : Run (Char × Char)} (hr : r ∈ runs.toList) :
    split (Char.ofNat r.first) = [r.value.1, r.value.2] := by
  have hsound := sound_of_mem hr
  have hn := toNat_ofNat hsound.valid
  have hhas : r.Has (Char.ofNat r.first).toNat := by
    rw [hn]
    exact ⟨Nat.le_refl _, Nat.le_of_eq hsound.single⟩
  rw [split, hn, hsound.noSyllable, if_neg Bool.false_ne_true, value?,
    run_of_has sorted_runs hr hhas]
  rfl

/-- A character is a syllable, or has a run of the table, or has no parts. -/
theorem split_cases (c : Char) :
    (Hangul.isSyllable c.toNat = true ∧ split c = Hangul.letters c.toNat) ∨
      (∃ r ∈ runs.toList, r.Has c.toNat ∧ split c = [r.value.1, r.value.2]) ∨
      split c = [c] := by
  rw [split]
  split
  · rename_i hsyllable
    exact Or.inl ⟨hsyllable, rfl⟩
  · refine Or.inr ?_
    rw [value?]
    cases hrun : runs.run? c with
    | none => exact Or.inr rfl
    | some r => exact Or.inl ⟨r, (has_of_run hrun).1, (has_of_run hrun).2, rfl⟩

/-- The letters of a syllable, by the place of each. -/
theorem letters_eq {n : Nat} (h : Hangul.isSyllable n = true) :
    ∃ lead vowel tail, lead < 19 ∧ vowel < 21 ∧ tail < 28 ∧
      n = 0xAC00 + lead * 588 + vowel * 28 + tail ∧
      Hangul.letters n = [Char.ofNat (0x1100 + lead), Char.ofNat (0x1161 + vowel)] ++
        (if tail = 0 then [] else [Char.ofNat (0x11A7 + tail)]) := by
  rw [Hangul.isSyllable, Bool.and_eq_true, decide_eq_true_iff, decide_eq_true_iff,
    Hangul.syllables] at h
  refine ⟨(n - 0xAC00) / 588, (n - 0xAC00) % 588 / 28, (n - 0xAC00) % 28, by omega, by omega,
    by omega, by omega, rfl⟩

/-- The letters of a syllable lie where those of Hangul do. -/
theorem exists_of_mem_letters {n : Nat} (h : Hangul.isSyllable n = true) {d : Char}
    (hd : d ∈ Hangul.letters n) :
    ∃ m, (0x1100 ≤ m ∧ m < 0x115F ∨ 0x1161 ≤ m ∧ m < 0x1200) ∧ d = Char.ofNat m := by
  obtain ⟨lead, vowel, tail, hlead, hvowel, htail, -, hletters⟩ := letters_eq h
  rw [hletters] at hd
  simp only [List.mem_append, List.mem_cons, List.not_mem_nil, or_false] at hd
  rcases hd with (rfl | rfl) | hd
  · exact ⟨_, by omega, rfl⟩
  · exact ⟨_, by omega, rfl⟩
  · split at hd
    · cases hd
    · obtain rfl := List.mem_singleton.mp hd
      exact ⟨_, by omega, rfl⟩

/-- The letters of a syllable have no parts. -/
theorem split_of_mem_letters {n : Nat} (h : Hangul.isSyllable n = true) {d : Char}
    (hd : d ∈ Hangul.letters n) : split d = [d] := by
  obtain ⟨m, hm, rfl⟩ := exists_of_mem_letters h hd
  exact split_letter (by omega) (by omega)

/-- **All parts have no parts.** -/
theorem split_of_mem_parts {c d : Char} (hd : d ∈ parts c) : split d = [d] := by
  obtain ⟨e, he, hde⟩ := List.mem_flatMap.mp hd
  rcases split_cases c with ⟨hsyllable, hletters⟩ | ⟨r, hr, -, hpair⟩ | hself
  · rw [hletters] at he
    have hone := split_of_mem_letters hsyllable he
    rw [hone] at hde
    rw [List.mem_singleton.mp hde]
    exact hone
  · have hsound := sound_of_mem hr
    rw [hpair, List.mem_cons, List.mem_singleton] at he
    rcases he with rfl | rfl
    · exact hsound.first d hde
    · rw [hsound.second] at hde
      rw [List.mem_singleton.mp hde]
      exact hsound.second
  · rw [hself] at he
    rw [List.mem_singleton.mp he, hself] at hde
    rw [List.mem_singleton.mp hde]
    exact hself

/-- Before the first composed character none has parts. -/
theorem split_low {c : Char} (h : c.toNat < 0xE0) : split c = [c] := by
  rw [split, value?, run_none sorted_runs h, if_neg]
  · rfl
  · rw [Hangul.isSyllable, Hangul.syllables, decide_eq_false (by omega)]
    exact Bool.false_ne_true

/-- No part of another character is a full stop. -/
theorem stop_notMem_split {c : Char} (h : c ≠ '.') : '.' ∉ split c := by
  intro hmem
  rcases split_cases c with ⟨hsyllable, hletters⟩ | ⟨r, hr, -, hpair⟩ | hself
  · rw [hletters] at hmem
    obtain ⟨m, hm, heq⟩ := exists_of_mem_letters hsyllable hmem
    have hcode : (Char.ofNat m).toNat = m := toNat_ofNat (Or.inl (by omega))
    rw [← heq] at hcode
    exact absurd (show (46 : Nat) = m from hcode) (by omega)
  · obtain ⟨hfirst, hsecond⟩ := (sound_of_mem hr).noStop
    rw [hpair, List.mem_cons, List.mem_singleton] at hmem
    rcases hmem with heq | heq
    · exact hfirst heq.symm
    · exact hsecond heq.symm
  · rw [hself, List.mem_singleton] at hmem
    exact h hmem.symm

/-- What has no parts is not taken apart. -/
theorem flatMap_self {f : Char → List Char} {cs : List Char} (h : ∀ c ∈ cs, f c = [c]) :
    cs.flatMap f = cs := by
  induction cs with
  | nil => rfl
  | cons c cs ih =>
      obtain ⟨hc, hcs⟩ := List.forall_mem_cons.mp h
      rw [List.flatMap_cons, hc, ih hcs]
      rfl

/-- A character without parts is its only part. -/
theorem parts_of_split {c : Char} (h : split c = [c]) : parts c = [c] := by
  rw [parts, h, List.flatMap_singleton, h]

/-! ## Joining -/

/-- What joins is a lead and a vowel of Hangul, or a syllable without a tail and a tail, or the
    two parts of a run of the table. -/
theorem join_cases {a b j : Char} (h : join? a b = some j) :
    (∃ lead vowel, lead < 19 ∧ vowel < 21 ∧ a = Char.ofNat (0x1100 + lead) ∧
      b = Char.ofNat (0x1161 + vowel) ∧ j = Char.ofNat (0xAC00 + lead * 588 + vowel * 28)) ∨
    (∃ lead vowel tail, lead < 19 ∧ vowel < 21 ∧ 0 < tail ∧ tail < 28 ∧
      a = Char.ofNat (0xAC00 + lead * 588 + vowel * 28) ∧ b = Char.ofNat (0x11A7 + tail) ∧
      j = Char.ofNat (0xAC00 + lead * 588 + vowel * 28 + tail)) ∨
    ∃ r ∈ runs.toList, r.value = (a, b) ∧ j = Char.ofNat r.first := by
  rw [join?] at h
  obtain ⟨-, h⟩ := Option.ite_none_left_eq_some.mp h
  -- syllables are computed, and only the rest is in the table
  rcases Option.or_eq_some_iff.mp h with hhangul | ⟨-, hrun⟩
  · rw [Hangul.join?] at hhangul
    split at hhangul
    · rename_i hpair
      simp only [Bool.and_eq_true, decide_eq_true_eq] at hpair
      simp only [Hangul.leads, Hangul.vowels] at hpair
      obtain ⟨⟨⟨hlead, hlead'⟩, hvowel⟩, hvowel'⟩ := hpair
      refine Or.inl ⟨a.toNat - 0x1100, b.toNat - 0x1161, by omega, by omega, ?_, ?_,
        (Option.some.inj hhangul).symm⟩
      · rw [Nat.add_sub_cancel' hlead, Char.ofNat_toNat]
      · rw [Nat.add_sub_cancel' hvowel, Char.ofNat_toNat]
    · obtain ⟨htail, hj⟩ := Option.ite_none_right_eq_some.mp hhangul
      simp only [Bool.and_eq_true, decide_eq_true_eq, beq_iff_eq] at htail
      simp only [Hangul.tails, Hangul.syllables] at htail hj
      obtain ⟨⟨⟨hsyllable, hopen⟩, hlow⟩, hhigh⟩ := htail
      obtain ⟨lead, vowel, tail, hlead, hvowel, htail, ha, -⟩ := letters_eq hsyllable
      refine Or.inr (Or.inl ⟨lead, vowel, b.toNat - 0x11A7, hlead, hvowel, by omega, by omega,
        ?_, ?_, ?_⟩)
      · exact (Char.ofNat_toNat a).symm.trans (congrArg Char.ofNat (by omega))
      · rw [Nat.add_sub_cancel' (by omega), Char.ofNat_toNat]
      · exact (Option.some.inj hj).symm.trans (congrArg Char.ofNat (by omega))
  · obtain ⟨r, hr, rfl⟩ := Option.map_eq_some_iff.mp hrun
    have hvalue := Array.find?_some hr
    exact Or.inr (Or.inr ⟨r, Array.mem_toList_iff.mpr (Array.mem_of_find?_eq_some hr),
      beq_iff_eq.mp hvalue, rfl⟩)

/-- The parts of a syllable. -/
theorem split_syllable {lead vowel tail : Nat} (hlead : lead < 19) (hvowel : vowel < 21)
    (htail : tail < 28) : split (Char.ofNat (0xAC00 + lead * 588 + vowel * 28 + tail))
      = [Char.ofNat (0x1100 + lead), Char.ofNat (0x1161 + vowel)] ++
        (if tail = 0 then [] else [Char.ofNat (0x11A7 + tail)]) := by
  have hn : (Char.ofNat (0xAC00 + lead * 588 + vowel * 28 + tail)).toNat
      = 0xAC00 + lead * 588 + vowel * 28 + tail := toNat_ofNat (Or.inl (by omega))
  have hsyllable : Hangul.isSyllable (0xAC00 + lead * 588 + vowel * 28 + tail) = true := by
    rw [Hangul.isSyllable, Hangul.syllables, decide_eq_true (by omega), decide_eq_true (by omega)]
    rfl
  obtain ⟨lead', vowel', tail', hlead', hvowel', htail', heq, hletters⟩ := letters_eq hsyllable
  obtain rfl : lead = lead' := by omega
  obtain rfl : vowel = vowel' := by omega
  obtain rfl : tail = tail' := by omega
  rw [split, hn, hsyllable, if_pos rfl, hletters]

/-- **What is joined has the parts of both**, and the second is a part. -/
theorem parts_join {a b j : Char} (h : join? a b = some j) :
    split b = [b] ∧ parts j = parts a ++ [b] := by
  rcases join_cases h with ⟨lead, vowel, hlead, hvowel, rfl, rfl, rfl⟩
    | ⟨lead, vowel, tail, hlead, hvowel, hpos, htail, rfl, rfl, rfl⟩ | ⟨r, hr, hvalue, rfl⟩
  · have hfirst := split_letter (n := 0x1100 + lead) (by omega) (by omega)
    have hsecond := split_letter (n := 0x1161 + vowel) (by omega) (by omega)
    have hboth := @split_syllable lead vowel 0 hlead hvowel (by omega)
    rw [Nat.add_zero, if_pos rfl, List.append_nil] at hboth
    refine ⟨hsecond, ?_⟩
    rw [parts_of_split hfirst, parts, hboth, List.flatMap_cons, List.flatMap_singleton, hfirst,
      hsecond]
  · have hfirst := split_letter (n := 0x1100 + lead) (by omega) (by omega)
    have hsecond := split_letter (n := 0x1161 + vowel) (by omega) (by omega)
    have hthird := split_letter (n := 0x11A7 + tail) (by omega) (by omega)
    have hboth := @split_syllable lead vowel 0 hlead hvowel (by omega)
    rw [Nat.add_zero, if_pos rfl, List.append_nil] at hboth
    refine ⟨hthird, ?_⟩
    rw [parts, parts, hboth, split_syllable hlead hvowel htail, if_neg (by omega),
      List.flatMap_append, List.flatMap_singleton, hthird]
  · have hsound := sound_of_mem hr
    have hpair := split_run hr
    rw [hvalue] at hpair
    have hsecond := hsound.second
    have hfirst := hsound.first
    rw [hvalue] at hsecond hfirst
    refine ⟨hsecond, ?_⟩
    have hparts : parts a = split a := flatMap_self hfirst
    rw [hparts, parts, hpair, List.flatMap_cons, List.flatMap_singleton, hsecond]

/-- What stands first in a joined pair is a letter or a syllable of Hangul, or the first part of
    a run of the table. -/
theorem join_first {a b j : Char} (h : join? a b = some j) :
    (∃ n, (0x1100 ≤ n ∧ n < 0x1200 ∨ 0xAC00 ≤ n ∧ n < 0xD7A4) ∧ a.toNat = n) ∨
      ∃ r ∈ runs.toList, r.value.1 = a := by
  rcases join_cases h with ⟨lead, vowel, hlead, hvowel, rfl, -, -⟩
    | ⟨lead, vowel, tail, hlead, hvowel, hpos, htail, rfl, -, -⟩ | ⟨r, hr, hvalue, -⟩
  · exact Or.inl ⟨_, by omega, toNat_ofNat (Or.inl (by omega))⟩
  · exact Or.inl ⟨_, by omega, toNat_ofNat (Or.inl (by omega))⟩
  · exact Or.inr ⟨r, hr, congrArg Prod.fst hvalue⟩

/-- What stands first in a joined pair is no mark with an order. -/
theorem markOrder_join {a b j : Char} (h : join? a b = some j) : markOrder a = 0 := by
  rcases join_first h with ⟨n, hn, ha⟩ | ⟨r, hr, rfl⟩
  · rw [markOrder, mark?, if_neg (by omega), value?]
    cases hrun : Mark.runs.run? a with
    | none => rfl
    | some m =>
        obtain ⟨hmem, hfirst, hlast⟩ := has_of_run hrun
        have hapart := apart_marks m hmem
        simp only [isApart, Bool.or_eq_true, Bool.and_eq_true, beq_iff_eq,
          decide_eq_true_iff] at hapart
        rcases hapart with hzero | hapart
        · exact hzero
        · omega
  · exact (sound_of_mem hr).order

/-- Nothing joins with a character before the first marks. -/
theorem join_low {a b : Char} (h : b.toNat < 0x300) : join? a b = none := if_pos h

/-- Nothing joins with a full stop in front of it. -/
theorem join_stop (b : Char) : join? '.' b = none := by
  cases hjoin : join? '.' b with
  | none => rfl
  | some j =>
      rcases join_first hjoin with ⟨n, hn, hstop⟩ | ⟨r, hr, hstop⟩
      · have hcode : n = 46 := hstop.symm
        omega
      · exact absurd hstop (sound_of_mem hr).noStop.1

/-- What is joined is no full stop. -/
theorem ne_stop_of_join {a b j : Char} (h : join? a b = some j) : j ≠ '.' := by
  rintro rfl
  have hparts : parts '.' = ['.'] := parts_of_split (split_low (by decide))
  obtain ⟨-, hboth⟩ := parts_join h
  rw [hparts] at hboth
  obtain ⟨-, hb⟩ := List.append_inj' (show [] ++ ['.'] = parts a ++ [b] from hboth) rfl
  have hlow := join_low (a := a) (b := '.') (by decide)
  rw [← List.singleton_inj.mp hb, hlow] at h
  cases h

end Composition

end Postbox.Text
