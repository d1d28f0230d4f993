import Postbox.Proofs.Printable
import Postbox.Proofs.Text.Normal
import Postbox.Url.Domain.Label

/-! # Alphabet — plain forms are plain

    A character of a name is plain when it stands for itself.  What stands for any other is
    plain (`plain_of_mem_simplify`), and so are the parts of plain characters and what plain
    characters are joined to, so that a name is plain when it is composed (`plain_normalize`).
    All this is read off the tables: `areSettled` says what has to be true of each run, and
    the kernel looks at all of them once. -/

namespace Postbox.Url.Domain

open Text Text.Runs Text.Composition

/-- A character that stands for itself in a name. -/
def Plain (c : Char) : Prop := simplify? c = some [c]

/-- Whether a run keeps one of its code points. -/
def Fate.keeps (n : Nat) (r : Text.Run Fate) : Bool :=
  match r.value with
  | .kept  => true
  | .pairs => (n - r.first) % 2 == 1
  | _      => false

/-- Whether a code point is that of a plain character, by a tree of fates. -/
def isPlainCode (t : Text.Tree Fate) (n : Nat) : Bool :=
  decide n.isValidChar && if n < 0x80 then !(0x41 ≤ n && n ≤ 0x5A) else (t.find? n).any (Fate.keeps n)

/-- Whether all that stands for the characters of a run is plain. -/
def Fate.isSettled (t : Text.Tree Fate) (r : Text.Run Fate) : Bool :=
  match r.value with
  | .kept          => true
  | .pairs         => (r.last - r.first) % 2 == 1 && decide r.last.isValidChar &&
    (r.last < 0xD800 || 0xE000 ≤ r.first)
  | .movedTo start => (List.range (r.last + 1 - r.first)).all fun i => isPlainCode t (start + i)
  | .spelled text  => text.all fun c => isPlainCode t c.toNat

/-- Whether some run keeps all code points from `low` on and before `high`. -/
def areKept (fates : List (Text.Run Fate)) (low high : Nat) : Bool :=
  fates.any fun r => r.value == .kept && r.first ≤ low && high ≤ r.last + 1

/-- What can be computed of the tables of fates and of composed characters. -/
def areSettled (fates : List (Text.Run Fate)) (rs : List (Text.Run (Char × Char))) : Bool :=
  isSortedFrom 0x80 fates && (Text.Tree.ofList 13 fates).2.isEmpty &&
    fates.all (Fate.isSettled (Text.Tree.ofList 13 fates).1) && areKept fates 0x1100 0x115F &&
    areKept fates 0x1161 0x1200 && areKept fates 0xAC00 0xD7A4 &&
    rs.all fun r => isPlainCode (Text.Tree.ofList 13 fates).1 r.first &&
      isPlainCode (Text.Tree.ofList 13 fates).1 r.value.1.toNat &&
      isPlainCode (Text.Tree.ofList 13 fates).1 r.value.2.toNat

set_option maxRecDepth 400000 in
/-- The tables are settled: the kernel reads both and looks at each run. -/
theorem areSettled_runs : areSettled Fate.runs.toList Composition.runs.toList = true := by
  unfold Fate.runs Composition.runs
  with_reducible refine ofText_of_ofChars (l := ?l) ?hs (P := fun rs => areSettled rs _ = true) ?h
  case hs => with_reducible exact rfl
  case h =>
    with_reducible refine ofText_of_ofChars (l := ?k) ?hs (P := fun rs => areSettled _ rs = true) ?h
    case hs => with_reducible exact rfl
    case h => decide +kernel

/-- The tree of a settled table tells what becomes of characters. -/
theorem exists_tree {fates : Runs Fate} {rs : List (Text.Run (Char × Char))}
    (h : areSettled fates.toList rs = true) :
    isSortedFrom 0x80 fates.toList = true ∧
      (areKept fates.toList 0x1100 0x115F = true ∧ areKept fates.toList 0x1161 0x1200 = true ∧
        areKept fates.toList 0xAC00 0xD7A4 = true) ∧
      ∃ t, (∀ c, fates.run? c = t.find? c.toNat) ∧ (∀ r ∈ fates.toList, Fate.isSettled t r = true) ∧
        ∀ r ∈ rs, isPlainCode t r.first = true ∧ isPlainCode t r.value.1.toNat = true ∧
          isPlainCode t r.value.2.toNat = true := by
  simp only [areSettled, Bool.and_eq_true, List.isEmpty_iff, List.all_eq_true, and_assoc] at h
  obtain ⟨hsorted, hwhole, hsettled, hleads, hvowels, hsyllables, hplain⟩ := h
  exact ⟨hsorted, ⟨hleads, hvowels, hsyllables⟩, _, Text.Tree.run_eq_find hsorted hwhole, hsettled,
    hplain⟩

/-! ## Plain characters -/

/-- The characters of ASCII are plain, other than capital letters. -/
theorem plain_of_ascii {c : Char} (hc : c.toNat < 0x80)
    (hcapital : ¬ (0x41 ≤ c.toNat ∧ c.toNat ≤ 0x5A)) : Plain c := by
  have hlower : c.toLower = c := forall_ascii
    (P := fun c => ¬ (0x41 ≤ c.toNat ∧ c.toNat ≤ 0x5A) → c.toLower = c) (by decide) hc hcapital
  rw [Plain, simplify?, if_pos hc, hlower]

/-- A character that a run keeps is plain. -/
theorem plain_of_keeps {c : Char} (hc : 0x80 ≤ c.toNat) {r : Text.Run Fate}
    (hrun : Fate.runs.run? c = some r) (h : Fate.keeps c.toNat r = true) : Plain c := by
  rw [Plain, simplify?, if_neg (by omega), hrun]
  obtain ⟨first, last, value⟩ := r
  cases value with
  | kept => rfl
  | pairs =>
      have hodd : (c.toNat - first) % 2 = 1 := beq_iff_eq.mp h
      show some [if (c.toNat - first) % 2 = 0 then _ else c] = _
      rw [if_neg (by omega)]
  | movedTo start => cases h
  | spelled text => cases h

/-- A code point that is plain by a tree is that of a plain character. -/
theorem plain_of_code {t : Text.Tree Fate} (hrun : ∀ c, Fate.runs.run? c = t.find? c.toNat) {n : Nat}
    (h : isPlainCode t n = true) : Plain (Char.ofNat n) := by
  rw [isPlainCode, Bool.and_eq_true, decide_eq_true_iff] at h
  obtain ⟨hvalid, h⟩ := h
  have hn := toNat_ofNat hvalid
  split at h
  · rename_i hlow
    refine plain_of_ascii (by omega) fun hcapital => ?_
    rw [hn] at hcapital
    rw [decide_eq_true hcapital.1, decide_eq_true hcapital.2] at h
    cases h
  · obtain ⟨r, hr, hkeeps⟩ := (Option.any_eq_true _ _).mp h
    exact plain_of_keeps (by omega) (by rw [hrun, hn, hr]) (by rwa [hn])

/-- A code point that is kept is that of a plain character. -/
theorem plain_of_kept {low high : Nat} (hlow : 0x80 ≤ low)
    (h : areKept Fate.runs.toList low high = true) {n : Nat} (hn : low ≤ n ∧ n < high)
    (hvalid : n.isValidChar) : Plain (Char.ofNat n) := by
  obtain ⟨r, hr, h⟩ := List.any_eq_true.mp h
  simp only [Bool.and_eq_true, beq_iff_eq, decide_eq_true_iff] at h
  obtain ⟨⟨hkept, hfirst⟩, hlast⟩ := h
  have hcode := toNat_ofNat hvalid
  have hhas : r.Has (Char.ofNat n).toNat := by
    rw [hcode]
    exact ⟨by omega, by omega⟩
  refine plain_of_keeps (by omega) (run_of_has (exists_tree areSettled_runs).1 hr hhas) ?_
  rw [Fate.keeps, hkept]

/-- The letters of Hangul and its syllables are plain. -/
theorem plain_hangul {n : Nat} (h : (0x1100 ≤ n ∧ n < 0x115F ∨ 0x1161 ≤ n ∧ n < 0x1200) ∨
    0xAC00 ≤ n ∧ n < 0xD7A4) : Plain (Char.ofNat n) := by
  obtain ⟨-, ⟨hleads, hvowels, hsyllables⟩, -⟩ := exists_tree areSettled_runs
  rcases h with (hlead | hvowel) | hsyllable
  · exact plain_of_kept (by omega) hleads hlead (Or.inl (by omega))
  · exact plain_of_kept (by omega) hvowels hvowel (Or.inl (by omega))
  · exact plain_of_kept (by omega) hsyllables hsyllable (Or.inl (by omega))

/-- The characters of a run of composed characters are plain. -/
theorem plain_run {r : Text.Run (Char × Char)} (hr : r ∈ Composition.runs.toList) :
    Plain (Char.ofNat r.first) ∧ Plain r.value.1 ∧ Plain r.value.2 := by
  obtain ⟨-, -, t, hrun, -, hplain⟩ := exists_tree areSettled_runs
  obtain ⟨hfirst, hleft, hright⟩ := hplain r hr
  refine ⟨plain_of_code hrun hfirst, ?_, ?_⟩
  · rw [← Char.ofNat_toNat r.value.1]
    exact plain_of_code hrun hleft
  · rw [← Char.ofNat_toNat r.value.2]
    exact plain_of_code hrun hright

/-- **What stands for a character is plain.** -/
theorem plain_of_mem_simplify {c : Char} {cs : List Char} (h : simplify? c = some cs) :
    ∀ d ∈ cs, Plain d := by
  rw [simplify?] at h
  split at h
  · rename_i hlow
    rw [← Option.some.inj h]
    refine List.forall_mem_singleton.mpr ?_
    have hlower : ∀ n < 0x80, (Char.ofNat n).toLower.toNat < 0x80 ∧
        ¬ (0x41 ≤ (Char.ofNat n).toLower.toNat ∧ (Char.ofNat n).toLower.toNat ≤ 0x5A) := by decide
    obtain ⟨hascii, hcapital⟩ := forall_ascii (P := fun c => c.toLower.toNat < 0x80 ∧
      ¬ (0x41 ≤ c.toLower.toNat ∧ c.toLower.toNat ≤ 0x5A)) hlower hlow
    exact plain_of_ascii hascii hcapital
  · rename_i hhigh
    obtain ⟨r, hr, rfl⟩ := Option.map_eq_some_iff.mp h
    obtain ⟨-, -, t, hrun, hsettled, -⟩ := exists_tree areSettled_runs
    obtain ⟨hmem, hfirst, hlast⟩ := has_of_run hr
    have hr' := hsettled r hmem
    rw [Fate.isSettled] at hr'
    intro d hd
    cases hvalue : r.value with
    | kept =>
        rw [hvalue] at hd
        rw [List.mem_singleton.mp hd]
        exact plain_of_keeps (by omega) hr (by rw [Fate.keeps, hvalue])
    | pairs =>
        rw [hvalue] at hd hr'
        simp only [Bool.and_eq_true, Bool.or_eq_true, beq_iff_eq, decide_eq_true_iff] at hr'
        obtain ⟨⟨hodd, hvalid⟩, hside⟩ := hr'
        rw [List.mem_singleton.mp hd]
        split
        · -- the small letter is the next one, which is in the same run
          have hnext : (c.toNat + 1).isValidChar := by
            rw [Nat.isValidChar] at hvalid ⊢
            omega
          have hcode := toNat_ofNat hnext
          have hhas : r.Has (Char.ofNat (c.toNat + 1)).toNat := by
            rw [hcode]
            exact ⟨by omega, by omega⟩
          refine plain_of_keeps (by omega) (run_of_has (exists_tree areSettled_runs).1 hmem hhas) ?_
          rw [Fate.keeps, hvalue, hcode]
          exact beq_iff_eq.mpr (by omega)
        · refine plain_of_keeps (by omega) hr ?_
          rw [Fate.keeps, hvalue]
          exact beq_iff_eq.mpr (by omega)
    | movedTo start =>
        rw [hvalue] at hd hr'
        rw [List.mem_singleton.mp hd]
        exact plain_of_code hrun
          (List.all_eq_true.mp hr' _ (List.mem_range.mpr (by omega)))
    | spelled text =>
        rw [hvalue] at hd hr'
        rw [← Char.ofNat_toNat d]
        exact plain_of_code hrun (List.all_eq_true.mp hr' d hd)

/-- **A name is plain when it is composed**, if it was before. -/
theorem plain_normalize {cs : List Char} (h : ∀ c ∈ cs, Plain c) : ∀ c ∈ normalize cs, Plain c := by
  refine normalize_forall (fun c hc d hd => ?_) (fun a b j _ _ hj => ?_) h
  · rcases split_cases c with ⟨hsyllable, hletters⟩ | ⟨r, hr, -, hpair⟩ | hself
    · rw [hletters] at hd
      obtain ⟨m, hm, rfl⟩ := exists_of_mem_letters hsyllable hd
      exact plain_hangul (Or.inl hm)
    · obtain ⟨-, hleft, hright⟩ := plain_run hr
      rw [hpair, List.mem_cons, List.mem_singleton] at hd
      rcases hd with rfl | rfl
      · exact hleft
      · exact hright
    · rw [hself] at hd
      rwa [List.mem_singleton.mp hd]
  · rcases join_cases hj with ⟨lead, vowel, hlead, hvowel, -, -, rfl⟩
      | ⟨lead, vowel, tail, hlead, hvowel, hpos, htail, -, -, rfl⟩ | ⟨r, hr, -, rfl⟩
    · exact plain_hangul (Or.inr (by omega))
    · exact plain_hangul (Or.inr (by omega))
    · exact (plain_run hr).1

end Postbox.Url.Domain
