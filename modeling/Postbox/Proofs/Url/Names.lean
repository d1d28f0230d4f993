import Postbox.Proofs.Segment
import Postbox.Proofs.Steps
import Postbox.Proofs.Text.Punycode
import Postbox.Proofs.Url.Alphabet
import Postbox.Url.Domain

/-! # Names — a written name is read as itself

    What is written of a name is its labels with full stops between them.  Read again, it is
    cut into the same labels, since nothing of it is changed: it is plain, and composed.  A
    label in ASCII stands for itself, and so does one that was given in Punycode.  One that
    was written in Punycode stands for its text again, unless the Punycode has become too
    long to be read (`Label.read_written`, `toAscii_written`). -/

namespace Postbox.Url.Domain

open Text

/-! ## Labels -/

/-- A label in Punycode is read from what stands behind its mark. -/
theorem Label.read_mark (code : List Char) :
    Label.read? (punycodeMark ++ code) = (ofPunycode? code).filter isValid := rfl

/-- A label that does not begin with the mark is read as its text. -/
theorem Label.read_text {cs : List Char} (h : ∀ code, cs ≠ punycodeMark ++ code) :
    Label.read? cs = (ofText? cs).filter isValid := by
  rw [Label.read?]
  exact fun code hcode => h code hcode

/-- A label that is read in Punycode is written as it was given, and is not too long. -/
theorem Label.written_of_ofPunycode {code : List Char} {l : Label} (h : ofPunycode? code = some l) :
    l.written = punycodeMark ++ code ∧ code.length ≤ codeLimit := by
  rw [ofPunycode?] at h
  obtain ⟨hshort, h⟩ := Option.ite_none_left_eq_some.mp h
  obtain ⟨text, -, h⟩ := Option.bind_eq_some_iff.mp h
  obtain ⟨label, -, h⟩ := Option.bind_eq_some_iff.mp h
  obtain ⟨hsame, h⟩ := Option.ite_none_right_eq_some.mp h
  rw [Bool.and_eq_true, beq_iff_eq] at hsame
  rw [← Option.some.inj h]
  exact ⟨hsame.2, Nat.le_of_not_lt hshort⟩

/-- A piece of a name from which a label is read: its characters are plain, it is composed, and it
    has no full stop. -/
structure Piece (cs : List Char) : Prop where
  plain : ∀ c ∈ cs, Plain c
  composed : normalize cs = cs
  noStop : '.' ∉ cs

/-- The three ways to read a label from a piece: its Punycode is given, or it is in ASCII, or its
    Punycode is made. -/
inductive Label.Reading (cs : List Char) (l : Label) : Prop
  | given (written : l.written = cs)
  | made (written : l.written = punycodeMark ++ Punycode.encode cs)
      (ofText : ofText? cs = some l)

theorem Label.reading {cs : List Char} {l : Label} (h : Label.read? cs = some l) :
    Label.Reading cs l := by
  by_cases hmark : ∃ code, cs = punycodeMark ++ code
  · obtain ⟨code, rfl⟩ := hmark
    rw [Label.read_mark] at h
    exact .given (written_of_ofPunycode (Option.filter_eq_some_iff.mp h).1).1
  · rw [Label.read_text fun code hcode => hmark ⟨code, hcode⟩] at h
    have hl := (Option.filter_eq_some_iff.mp h).1
    have hcases := hl
    rw [ofText?] at hcases
    split at hcases
    · rw [← Option.some.inj hcases]
      exact .given rfl
    · obtain ⟨-, hcases⟩ := Option.ite_none_right_eq_some.mp hcases
      have hlabel := Option.some.inj hcases
      exact .made (by rw [← hlabel]) hl

/-- No label is read from Punycode that is too long. -/
theorem Label.length_of_read {code : List Char} {l : Label}
    (h : Label.read? (punycodeMark ++ code) = some l) : code.length ≤ codeLimit := by
  rw [Label.read_mark] at h
  exact (written_of_ofPunycode (Option.filter_eq_some_iff.mp h).1).2

/-- **A label is read again from its written form**, if its Punycode is not too long. -/
theorem Label.read_written {cs : List Char} {l : Label} (hcs : Piece cs)
    (h : Label.read? cs = some l)
    (hshort : ∀ code, l.written = punycodeMark ++ code → code.length ≤ codeLimit) :
    Label.read? l.written = some l := by
  cases Label.reading h with
  | given written => rw [written, h]
  | made written ofText =>
      have hvalid : l.isValid = true := by
        unfold Label.read? at h
        exact (Option.filter_eq_some_iff.mp h).2
      have hplain : isPlain cs = true := by
        rw [isPlain, Bool.and_eq_true, List.all_eq_true]
        exact ⟨fun c hc => beq_iff_eq.mpr (hcs.plain c hc), beq_iff_eq.mpr hcs.composed⟩
      have hcode : ofPunycode? (Punycode.encode cs) = some l := by
        rw [ofPunycode?, if_neg (Nat.not_lt.mpr (hshort _ written))]
        show (Punycode.decode? (Punycode.encode cs)).bind _ = _
        rw [Punycode.decode_encode]
        show (ofText? cs).bind _ = _
        rw [ofText]
        exact if_pos (by rw [hplain, written, beq_self_eq_true]; rfl)
      rw [written, Label.read_mark, hcode]
      exact Option.filter_eq_some_iff.mpr ⟨rfl, hvalid⟩

/-- The characters of a written label: they are plain, and none is a full stop. -/
theorem Label.mem_written {cs : List Char} {l : Label} (hcs : Piece cs)
    (h : Label.read? cs = some l) : ∀ c ∈ l.written, Plain c ∧ c ≠ '.' := by
  have hpiece : ∀ c ∈ cs, Plain c ∧ c ≠ '.' := fun c hc =>
    ⟨hcs.plain c hc, fun heq => hcs.noStop (heq ▸ hc)⟩
  cases Label.reading h with
  | given written =>
      rw [written]
      exact hpiece
  | made written ofText =>
      have hmark : ∀ c ∈ punycodeMark ++ ['-'], Plain c ∧ c ≠ '.' := by
        have hascii : ∀ c ∈ punycodeMark ++ ['-'],
            (c.toNat < 0x80 ∧ ¬ (0x41 ≤ c.toNat ∧ c.toNat ≤ 0x5A)) ∧ c ≠ '.' :=
          forall_mem_of_all (by decide)
        exact fun c hc => ⟨plain_of_ascii (hascii c hc).1.1 (hascii c hc).1.2, (hascii c hc).2⟩
      have hdigit : ∀ d < 36, Plain (Punycode.digitChar d) ∧ Punycode.digitChar d ≠ '.' := by
        have hascii : ∀ d < 36, ((Punycode.digitChar d).toNat < 0x80 ∧
            ¬ (0x41 ≤ (Punycode.digitChar d).toNat ∧ (Punycode.digitChar d).toNat ≤ 0x5A)) ∧
            Punycode.digitChar d ≠ '.' := by decide
        exact fun d hd => ⟨plain_of_ascii (hascii d hd).1.1 (hascii d hd).1.2, (hascii d hd).2⟩
      intro c hc
      rw [written] at hc
      rcases List.mem_append.mp hc with hc | hc
      · exact hmark c (List.mem_append_left _ hc)
      · rcases Punycode.mem_encode hc with ⟨hc, -⟩ | rfl | ⟨d, hd, rfl⟩
        · exact hpiece c hc
        · exact hmark _ (List.mem_append_right _ (List.mem_singleton_self _))
        · exact hdigit d hd

/-! ## Names -/

/-- The name that labels make together. -/
def joinLabels? (labels : List Label) : Option String :=
  let texts := labels.map Label.text
  let written := ['.'].intercalate (labels.map Label.written)
  if (texts.any hasRightward && !texts.all fitsDirection) || !written.all isPermitted then none
  else some (String.ofList written)

theorem toAscii_eq (bytes : List UInt8) : toAscii? bytes = (ofUtf8? bytes).bind fun name =>
    (name.toList.mapM simplify?).bind fun plain =>
      (((normalize plain.flatten).splitOn '.').mapM Label.read?).bind joinLabels? := rfl

/-- What labels make has their written forms with full stops between them, and only characters
    that are permitted. -/
theorem written_of_joinLabels {labels : List Label} {name : String}
    (h : joinLabels? labels = some name) :
    name.toList = ['.'].intercalate (labels.map Label.written) ∧
      ∀ c ∈ name.toList, isPermitted c = true := by
  obtain ⟨hfits, h⟩ := Option.ite_none_left_eq_some.mp h
  rw [Bool.or_eq_true, not_or, Bool.not_eq_true', Bool.not_eq_false] at hfits
  rw [← Option.some.inj h, String.toList_ofList]
  exact ⟨rfl, List.all_eq_true.mp hfits.2⟩

/-- The pieces of a name that was made plain and composed. -/
theorem piece_of_mem {cs : List Char} {plain : List (List Char)}
    (h : cs.mapM simplify? = some plain) :
    ∀ piece ∈ (normalize plain.flatten).splitOn '.', Piece piece := by
  have hplain : ∀ c ∈ plain.flatten, Plain c := by
    intro c hc
    obtain ⟨ds, hds, hc⟩ := List.mem_flatten.mp hc
    obtain ⟨d, -, hd⟩ := (exists_of_mapM h).2 ds hds
    exact plain_of_mem_simplify hd c hc
  intro piece hpiece
  refine ⟨fun c hc => ?_, normalize_label (normalize_normalize _) hpiece, notMem_of_mem_splitOn hpiece⟩
  exact plain_normalize hplain c (forall_mem_splitOnP _ _ piece hpiece c hc).1

/-- **A name in plain ASCII** is read label by label. -/
theorem toAscii_plain {name : String} (hascii : ∀ c ∈ name.toList, c.toNat < 0x80)
    (hplain : ∀ c ∈ name.toList, Plain c) :
    toAscii? (utf8 name.toList)
      = ((name.toList.splitOn '.').mapM Label.read?).bind joinLabels? := by
  have hsimple : name.toList.mapM simplify? = some (name.toList.map fun c => [c]) := by
    rw [mapM_eq_some_iff, List.forall₂_map_right_iff, List.forall₂_same]
    exact hplain
  have hflat : (name.toList.map fun c => [c]).flatten = name.toList := by
    rw [← List.flatMap_def, List.flatMap_singleton']
  rw [toAscii_eq, ofUtf8_text, Option.bind_some, hsimple, Option.bind_some, hflat,
    normalize_ascii hascii]

/-- Whether the labels of a written name are not too long to be read in Punycode. -/
def HasShortLabels (name : String) : Prop :=
  ∀ label ∈ name.toList.splitOn '.', ∀ code, label = punycodeMark ++ code → code.length ≤ codeLimit

/-- The labels of a written name: each was read from a piece of the name that was given. -/
theorem exists_labels {bytes : List UInt8} {name : String} (h : toAscii? bytes = some name) :
    ∃ labels, labels ≠ [] ∧ joinLabels? labels = some name ∧
      ∀ l ∈ labels, ∃ piece, Piece piece ∧ Label.read? piece = some l := by
  rw [toAscii_eq] at h
  obtain ⟨given, -, h⟩ := Option.bind_eq_some_iff.mp h
  obtain ⟨plain, hplain, h⟩ := Option.bind_eq_some_iff.mp h
  obtain ⟨labels, hlabels, hjoin⟩ := Option.bind_eq_some_iff.mp h
  refine ⟨labels, ?_, hjoin, fun l hl => ?_⟩
  · rintro rfl
    rw [mapM_eq_some_iff, List.forall₂_nil_right_iff] at hlabels
    exact List.splitOnP_ne_nil _ _ hlabels
  · obtain ⟨piece, hmem, hread⟩ := (exists_of_mapM hlabels).2 l hl
    exact ⟨piece, piece_of_mem hplain piece hmem, hread⟩

/-- A written name has only characters that are permitted in one. -/
theorem isPermitted_of_toAscii {bytes : List UInt8} {name : String}
    (h : toAscii? bytes = some name) : ∀ c ∈ name.toList, isPermitted c = true := by
  obtain ⟨_, -, hjoin, -⟩ := exists_labels h
  exact (written_of_joinLabels hjoin).2

/-- A written name is in plain ASCII, and is cut into the written forms of its labels. -/
theorem splitOn_written {labels : List Label} {name : String} (hsome : labels ≠ [])
    (hjoin : joinLabels? labels = some name)
    (hpiece : ∀ l ∈ labels, ∃ piece, Piece piece ∧ Label.read? piece = some l) :
    (∀ c ∈ name.toList, c.toNat < 0x80) ∧ (∀ c ∈ name.toList, Plain c) ∧
      name.toList.splitOn '.' = labels.map Label.written := by
  obtain ⟨hwritten, hpermitted⟩ := written_of_joinLabels hjoin
  have hchars : ∀ part ∈ labels.map Label.written, ∀ c ∈ part, Plain c ∧ c ≠ '.' := by
    refine List.forall_mem_map.mpr fun l hl => ?_
    obtain ⟨piece, hcs, hread⟩ := hpiece l hl
    exact Label.mem_written hcs hread
  refine ⟨fun c hc => ?_, ?_, ?_⟩
  · have hc' := hpermitted c hc
    rw [isPermitted, Bool.and_eq_true, Bool.and_eq_true, decide_eq_true_iff,
      decide_eq_true_iff] at hc'
    omega
  · rw [hwritten]
    exact forall_mem_intercalate (List.forall_mem_singleton.mpr
      (plain_of_ascii (by decide) (by decide))) fun part hpart c hc => (hchars part hpart c hc).1
  · rw [hwritten]
    exact List.splitOn_intercalate '.'
      (fun part hpart hstop => (hchars part hpart '.' hstop).2 rfl) (mt List.map_eq_nil_iff.mp hsome)

/-- **A written name is read as itself** exactly when no Punycode in it is too long. -/
theorem toAscii_written {bytes : List UInt8} {name : String} (h : toAscii? bytes = some name) :
    toAscii? (utf8 name.toList) = some name ↔ HasShortLabels name := by
  obtain ⟨labels, hsome, hjoin, hpiece⟩ := exists_labels h
  obtain ⟨hascii, hplain, hsplit⟩ := splitOn_written hsome hjoin hpiece
  rw [toAscii_plain hascii hplain, HasShortLabels, hsplit]
  constructor
  · rintro hread label hlabel code rfl
    obtain ⟨others, hothers, -⟩ := Option.bind_eq_some_iff.mp hread
    obtain ⟨l, -, hl⟩ := (exists_of_mapM hothers).1 _ hlabel
    exact Label.length_of_read hl
  · intro hshort
    have hagain : (labels.map Label.written).mapM Label.read? = some labels := by
      rw [mapM_eq_some_iff, List.forall₂_map_left_iff, List.forall₂_same]
      intro l hl
      obtain ⟨piece, hcs, hread⟩ := hpiece l hl
      exact Label.read_written hcs hread (hshort _ (List.mem_map_of_mem hl))
    rw [hagain, Option.bind_some, hjoin]

end Postbox.Url.Domain
