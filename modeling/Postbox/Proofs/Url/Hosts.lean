import Postbox.Proofs.Url.Addresses
import Postbox.Url.Reader

/-! # Hosts — what is read as a host is read as itself

    A host under a special scheme is an address in numbers, or a name.  An address is read
    again from its spelling.  The spelling of an IPv4 address is a name first, whose labels
    are digits: such a name is read as it is (`toAscii_digits`), since no digit is a mark, or
    goes from right to left.  A name is read as itself if its labels are short
    (`specialHost_again`). -/

namespace Postbox.Url

open Text

namespace Domain

/-! ## Labels of digits -/

/-- Whether no run of characters from right to left begins in ASCII. -/
def areLeftward (rs : List (Text.Run Direction)) : Bool :=
  rs.all fun r => 0x80 ≤ r.first || (r.value != .right && r.value != .arabicNumber)

set_option maxRecDepth 10000 in
/-- The table of directions has no such run: the kernel reads it and looks at each run. -/
theorem areLeftward_runs : areLeftward Direction.runs.toList = true := by
  unfold Direction.runs
  with_reducible refine Runs.ofText_of_ofChars (l := ?l) ?hs (P := fun rs => areLeftward rs = true) ?h
  case hs => with_reducible exact rfl
  case h => decide +kernel

/-- A character of ASCII is no mark, and does not go from right to left. -/
theorem ascii_facts {c : Char} (h : c.toNat < 0x80) :
    isMark c = false ∧ direction c ≠ .right ∧ direction c ≠ .arabicNumber := by
  have hmark : mark? c = none := if_pos (by omega)
  have hspacing : isNonspacing c = false := by rw [isNonspacing, hmark]; rfl
  refine ⟨by rw [isMark, hmark]; rfl, ?_⟩
  rw [direction, Runs.value?, hspacing]
  cases hrun : Direction.runs.run? c with
  | none => exact ⟨by decide, by decide⟩
  | some r =>
      obtain ⟨hmem, hfirst, -⟩ := Runs.has_of_run hrun
      have hr := List.all_eq_true.mp areLeftward_runs r hmem
      rw [decide_eq_false (by omega), Bool.false_or, Bool.and_eq_true, bne_iff_ne, bne_iff_ne] at hr
      exact hr

/-- A text without joiners has none that does not fit. -/
theorem joinersFit_of {cs : List Char} (h : ∀ c ∈ cs, c ≠ joiner ∧ c ≠ nonJoiner)
    (before : List Char) : joinersFit before cs = true := by
  induction cs generalizing before with
  | nil => rfl
  | cons c cs ih =>
      obtain ⟨⟨hjoiner, hother⟩, hcs⟩ := List.forall_mem_cons.mp h
      rw [joinersFit, beq_false_of_ne hjoiner, beq_false_of_ne hother, ih hcs]
      rfl

/-- What is needed of a digit. -/
theorem ascii_of_isDigit {c : Char} (h : c.isDigit = true) :
    (c.toNat < 0x80 ∧ ¬ (0x41 ≤ c.toNat ∧ c.toNat ≤ 0x5A)) ∧ c ≠ '.' ∧ c ≠ 'x' ∧
      (c ≠ joiner ∧ c ≠ nonJoiner) ∧ isPermitted c = true := by
  have hlow : c.toNat < 0x80 := ascii_of_isGraphic (isGraphic_of_isAlphanum (by simp [Char.isAlphanum, h]))
  exact forall_ascii (P := fun c => c.isDigit = true →
    (c.toNat < 0x80 ∧ ¬ (0x41 ≤ c.toNat ∧ c.toNat ≤ 0x5A)) ∧ c ≠ '.' ∧ c ≠ 'x' ∧
      (c ≠ joiner ∧ c ≠ nonJoiner) ∧ isPermitted c = true) (by decide) hlow h

/-- A label of digits stands for itself. -/
theorem Label.read_digits {cs : List Char} (h : ∀ c ∈ cs, c.isDigit = true) :
    Label.read? cs = some ⟨cs, cs⟩ := by
  have hmark : ∀ code, cs ≠ punycodeMark ++ code := by
    rintro code rfl
    exact (ascii_of_isDigit (h 'x' List.mem_cons_self)).2.2.1 rfl
  have hascii : cs.all isAscii = true :=
    List.all_eq_true.mpr fun c hc => decide_eq_true (ascii_of_isDigit (h c hc)).1.1
  have hvalid : Label.isValid ⟨cs, cs⟩ = true := by
    rw [isValid, joinersFit_of fun c hc => (ascii_of_isDigit (h c hc)).2.2.2.1, Bool.and_true]
    cases cs with
    | nil => rfl
    | cons c cs =>
        show (!isMark c) = true
        rw [(ascii_facts (ascii_of_isDigit (h c List.mem_cons_self)).1.1).1]
        rfl
  rw [read_text hmark, ofText?, if_pos hascii, Option.filter_some, if_pos hvalid]

/-- **A name of digits is read as it is.** -/
theorem toAscii_digits {name : String} {parts : List (List Char)} (hsome : parts ≠ [])
    (hname : name.toList = ['.'].intercalate parts)
    (h : ∀ part ∈ parts, ∀ c ∈ part, c.isDigit = true) :
    toAscii? (utf8 name.toList) = some name := by
  have hchars : ∀ c ∈ name.toList, (c.toNat < 0x80 ∧ ¬ (0x41 ≤ c.toNat ∧ c.toNat ≤ 0x5A)) ∧
      isPermitted c = true := by
    rw [hname]
    refine forall_mem_intercalate (forall_mem_of_all (by decide)) fun part hpart c hc => ?_
    have hdigit := ascii_of_isDigit (h part hpart c hc)
    exact ⟨hdigit.1, hdigit.2.2.2.2⟩
  have hsplit : name.toList.splitOn '.' = parts := by
    rw [hname]
    refine List.splitOn_intercalate '.' (fun part hpart hstop => ?_) hsome
    exact (ascii_of_isDigit (h part hpart '.' hstop)).2.1 rfl
  have hlabels : parts.mapM Label.read? = some (parts.map fun part => ⟨part, part⟩) := by
    rw [mapM_eq_some_iff, List.forall₂_map_right_iff, List.forall₂_same]
    exact fun part hpart => Label.read_digits (h part hpart)
  -- digits are written from left to right, so the rules for the other direction do not apply
  have hright : (parts.any hasRightward) = false := by
    refine List.any_eq_false.mpr fun part hpart hright => ?_
    obtain ⟨d, hd, hdirection⟩ := List.any_eq_true.mp hright
    obtain ⟨c, hc, rfl⟩ := List.mem_map.mp hd
    have hfacts := (ascii_facts (ascii_of_isDigit (h part hpart c hc)).1.1).2
    rw [Bool.or_eq_true, beq_iff_eq, beq_iff_eq] at hdirection
    exact hdirection.elim hfacts.1 hfacts.2
  rw [toAscii_plain (fun c hc => (hchars c hc).1.1)
    fun c hc => plain_of_ascii (hchars c hc).1.1 (hchars c hc).1.2, hsplit, hlabels, Option.bind_some,
    joinLabels?]
  simp only [List.map_map, Function.comp_def, List.map_id', hright, Bool.false_and, Bool.false_or]
  rw [← hname, List.all_eq_true.mpr fun c hc => (hchars c hc).2, Bool.not_true,
    if_neg Bool.false_ne_true, String.ofList_toList]

/-- Without an x there is no label in Punycode. -/
theorem hasShortLabels_of {name : String} (h : 'x' ∉ name.toList) : HasShortLabels name := by
  rintro label hlabel code rfl
  exact absurd (forall_mem_splitOnP _ _ _ hlabel 'x' List.mem_cons_self).1 h

end Domain

/-! ## Hosts -/

/-- A text without percent signs has its own bytes. -/
theorem unescape_self {cs : List Char} (h : '%' ∉ cs) : unescape cs = utf8 cs := by
  induction cs with
  | nil => rfl
  | cons c cs ih =>
      obtain ⟨hc, hcs⟩ := not_or.mp (mt List.mem_cons.mpr h)
      rw [unescape_plain (Ne.symm hc), ih hcs]
      rfl

/-- What has no bracket does not begin with one. -/
theorem head_of_notMem {cs : List Char} (h : '[' ∉ cs) : ¬ (cs.head? == some '[') = true :=
  fun hhead => h (List.mem_of_head? (beq_iff_eq.mp hhead))

/-- An address in brackets is read as itself. -/
theorem bracketHost_again {cs : List Char} {host : String} (h : bracketHost cs = .ok host) :
    specialHost host.toList = .ok host ∧ 'x' ∉ host.toList := by
  rw [bracketHost] at h
  split at h
  · split at h
    · rename_i pieces hread
      obtain ⟨hlength, hbounds⟩ := Ipv6.bounds_of_read hread
      obtain rfl := Except.ok.inj h
      have htext : ("[" ++ Ipv6.write pieces ++ "]").toList
          = '[' :: ((Ipv6.write pieces).toList ++ [']']) := by
        rw [String.toList_append, String.toList_append]
        rfl
      have hlast : ('[' :: ((Ipv6.write pieces).toList ++ [']'])).getLast? = some ']' := by
        rw [← List.cons_append, List.getLast?_concat]
      refine ⟨?_, ?_⟩
      · rw [htext, specialHost]
        refine (if_pos rfl).trans ?_
        rw [bracketHost, hlast, List.drop_one, List.tail_cons, List.dropLast_concat, Ipv6.read_write hlength hbounds]
        rfl
      · rw [htext, List.mem_cons, List.mem_append, List.mem_singleton]
        rintro (hx | hx | hx)
        · exact absurd hx (by decide)
        · exact Ipv6.x_notMem_write pieces hx
        · exact absurd hx (by decide)
    · cases h
  · cases h

/-- An address in four numbers is read as itself. -/
theorem ipv4_again {n : Nat} (h : n < 2 ^ 32) :
    specialHost (Ipv4.write n).toList = .ok (Ipv4.write n) ∧ 'x' ∉ (Ipv4.write n).toList := by
  have hdigits := Ipv4.isDigit_parts n
  have hchars : ∀ c ∈ (Ipv4.write n).toList, c ≠ '[' ∧ c ≠ '%' ∧ c ≠ 'x' := by
    rw [Ipv4.write_eq]
    refine forall_mem_intercalate (forall_mem_of_all (by decide)) fun part hpart c hc => ?_
    have hdigit := (hdigits part hpart).2 c hc
    refine ⟨?_, ?_, ?_⟩ <;> rintro rfl <;> exact absurd hdigit (by decide)
  -- as a name it is read as it is, and only then as a number
  have hascii : Domain.toAscii? (utf8 (Ipv4.write n).toList) = some (Ipv4.write n) :=
    Domain.toAscii_digits (List.cons_ne_nil _ _) (Ipv4.write_eq n) fun part hpart =>
      (hdigits part hpart).2
  have hsome : ¬ (Ipv4.write n).isEmpty = true := by
    rw [String.isEmpty_iff, ← String.toList_eq_nil_iff]
    intro hnil
    have hends := Ipv4.endsInNumber_write n
    rw [hnil] at hends
    cases hends
  refine ⟨?_, fun hx => (hchars 'x' hx).2.2 rfl⟩
  rw [specialHost, if_neg (head_of_notMem fun hmem => (hchars _ hmem).1 rfl),
    unescape_self fun hmem => (hchars _ hmem).2.1 rfl, hascii]
  dsimp only
  rw [if_neg hsome, if_pos (Ipv4.endsInNumber_write n), Ipv4.read_write h]

/-- A name that is no address in numbers is read as itself if its labels are short. -/
theorem name_again {bytes : List UInt8} {name : String}
    (h : Domain.toAscii? bytes = some name) (hsome : ¬ name.isEmpty = true)
    (hnumber : ¬ Ipv4.endsInNumber name.toList = true) :
    specialHost name.toList = .ok name ↔ Domain.HasShortLabels name := by
  have hpermitted := Domain.isPermitted_of_toAscii h
  have hbracket : '[' ∉ name.toList := fun hmem => absurd (hpermitted _ hmem) (by decide)
  have hpercent : '%' ∉ name.toList := fun hmem => absurd (hpermitted _ hmem) (by decide)
  rw [← Domain.toAscii_written h, specialHost, if_neg (head_of_notMem hbracket),
    unescape_self hpercent]
  constructor
  · intro hread
    split at hread
    · cases hread
    · rename_i other hother
      split at hread
      · cases hread
      · split at hread
        · split at hread
          · -- an address in numbers would end in one
            rw [← Except.ok.inj hread] at hnumber
            exact absurd (Ipv4.endsInNumber_write _) hnumber
          · cases hread
        · rw [hother, Except.ok.inj hread]
  · intro hread
    rw [hread]
    dsimp only
    rw [if_neg hsome, if_neg hnumber]

/-- **What is read as a host is read as itself**, unless one of its labels is too long to be read
    in Punycode. -/
theorem specialHost_again {cs : List Char} {host : String} (h : specialHost cs = .ok host) :
    specialHost host.toList = .ok host ↔ Domain.HasShortLabels host := by
  rw [specialHost] at h
  split at h
  · obtain ⟨hread, hx⟩ := bracketHost_again h
    exact iff_of_true hread (Domain.hasShortLabels_of hx)
  -- numbers have no x in them; only names can have labels in Punycode
  · split at h
    · cases h
    · rename_i name hname
      split at h
      · cases h
      · rename_i hsome
        split at h
        · split at h
          · rename_i n hn
            obtain ⟨hread, hx⟩ := ipv4_again (Ipv4.lt_of_read hn)
            rw [← Except.ok.inj h]
            exact iff_of_true hread (Domain.hasShortLabels_of hx)
          · cases h
        · rename_i hnumber
          rw [← Except.ok.inj h]
          exact name_again hname hsome hnumber

end Postbox.Url
