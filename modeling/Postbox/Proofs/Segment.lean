import Postbox.Proofs.Address
import Postbox.Proofs.Utf8

/-! # Segments — each message has an address of its own

    The address of a message is made by one more segment behind the path of the
    collection, and the segment is the text of the id with escapes.  Where percent
    signs are escaped, unescaping gives the bytes of the text back
    (`unescape_escape`), so different texts give different segments.  The same law
    tells which segments mean a place of the path instead of a name: dots that stand
    for themselves come from dots only.

    An address is freed of tabs and line breaks, so it is the rest of a text that
    makes the segment (`freed`), and some texts name none (`NamesSegment`): those of
    which nothing is left, or one or two dots, and at the beginning of a file's path
    those that are cut into a drive and what stands behind it. -/

namespace Postbox

namespace Url

/-! ## Escapes -/

/-- A digit in upper case has its value. -/
theorem digit_upper {n : Nat} (h : n < 16) : Hex.digit? (Hex.upper n) = some n := by
  revert n
  decide

/-- The escape of a byte stands for the byte. -/
theorem unescape_escapeByte (b : UInt8) (rest : List Char) :
    unescape (escapeByte b ++ rest) = b :: unescape rest := by
  have hb : b.toNat < 256 := b.toNat_lt
  show unescape ('%' :: Hex.upper (b.toNat / 16) :: Hex.upper (b.toNat % 16) :: rest) = _
  rw [unescape, digit_upper (by omega), digit_upper (by omega)]
  show UInt8.ofNat (b.toNat / 16 * 16 + b.toNat % 16) :: unescape rest = _
  rw [Nat.div_add_mod' b.toNat 16, UInt8.ofNat_toNat]

/-- The escapes of bytes stand for the bytes. -/
theorem unescape_escapeBytes (bs : List UInt8) (rest : List Char) :
    unescape (bs.flatMap escapeByte ++ rest) = bs ++ unescape rest := by
  induction bs with
  | nil => rfl
  | cons b bs ih =>
      rw [List.flatMap_cons, List.append_assoc, unescape_escapeByte, ih, List.cons_append]

/-- A character that begins no escape stands for itself. -/
theorem unescape_plain {c : Char} (h : c ≠ '%') (rest : List Char) :
    unescape (c :: rest) = String.utf8EncodeChar c ++ unescape rest := by
  rw [unescape]
  intro a b cs heq
  exact absurd heq h

/-- **A text is unescaped to its bytes**, if percent signs are escaped in it. -/
theorem unescape_escape {reserved : Char → Bool} (h : reserved '%' = true) (cs : List Char) :
    unescape (escape reserved cs) = Text.utf8 cs := by
  induction cs with
  | nil => rfl
  | cons c cs ih =>
      rw [escape, List.flatMap_cons, show cs.flatMap _ = escape reserved cs from rfl,
        Text.utf8, List.flatMap_cons, show cs.flatMap _ = Text.utf8 cs from rfl, escapeChar]
      by_cases hc : (decide (c.toNat ≥ 0x80) || reserved c) = true
      · rw [if_pos hc, unescape_escapeBytes, ih]
      · -- what is not escaped is no percent sign, which would begin an escape
        have hplain : c ≠ '%' := by
          rintro rfl
          rw [h, Bool.or_true] at hc
          exact hc rfl
        rw [if_neg hc, List.singleton_append, unescape_plain hplain, ih]

/-- Texts with the same escapes are the same. -/
theorem escape_inj {reserved : Char → Bool} (h : reserved '%' = true) {cs ds : List Char}
    (heq : escape reserved cs = escape reserved ds) : cs = ds := by
  have hbytes := congrArg unescape heq
  rw [unescape_escape h, unescape_escape h] at hbytes
  exact Text.utf8_inj hbytes

/-! ## Dots -/

/-- What is a dot when its escape is undone stands for the byte of a dot. -/
theorem unescape_dot {cs ds : List Char} (h : unescapeDots cs = '.' :: ds) :
    ∃ rest, unescape cs = 0x2E :: unescape rest ∧ unescapeDots rest = ds := by
  unfold unescapeDots at h
  split at h
  · rename_i e rest
    split at h
    · rename_i he
      refine ⟨rest, ?_, (List.cons.inj h).2⟩
      rcases Bool.or_eq_true_iff.mp he with he | he
      · rw [beq_iff_eq.mp he]
        rfl
      · rw [beq_iff_eq.mp he]
        rfl
    · exact absurd (List.cons.inj h).1 (by decide)
  · rename_i c rest _
    obtain ⟨rfl, hrest⟩ := List.cons.inj h
    exact ⟨rest, unescape_plain (by decide) rest, hrest⟩
  · exact nomatch h

/-- Nothing is left of nothing only. -/
theorem eq_nil_of_unescapeDots {cs : List Char} (h : unescapeDots cs = []) : cs = [] := by
  unfold unescapeDots at h
  split at h
  · split at h
    · exact nomatch h
    · exact nomatch h
  · exact nomatch h
  · rfl

/-- A segment for the place where it is stands for one dot. -/
theorem unescape_of_isHere {segment : List Char} (h : isHere segment = true) :
    unescape segment = Text.utf8 ['.'] := by
  obtain ⟨rest, hbytes, hrest⟩ := unescape_dot (beq_iff_eq.mp h)
  rw [hbytes, eq_nil_of_unescapeDots hrest]
  rfl

/-- A segment for the place above stands for two dots. -/
theorem unescape_of_isAbove {segment : List Char} (h : isAbove segment = true) :
    unescape segment = Text.utf8 ['.', '.'] := by
  obtain ⟨rest, hbytes, hrest⟩ := unescape_dot (beq_iff_eq.mp h)
  obtain ⟨rest', hbytes', hrest'⟩ := unescape_dot hrest
  rw [hbytes, hbytes', eq_nil_of_unescapeDots hrest']
  rfl

/-! ## One more segment -/

/-- What an address keeps of a text: all but tabs and line breaks. -/
def freed (text : String) : String := String.ofList (withoutBreaks text.toList)

/-- A text that names a segment behind some others: what is kept of it is not empty,
    not one dot nor two, and it is not cut behind a drive, as the beginning of a file's
    path may be. -/
structure NamesSegment (scheme : String) (done : List String) (text : String) : Prop where
  some : freed text ≠ ""
  notHere : freed text ≠ "."
  notAbove : freed text ≠ ".."
  uncut : scheme = "file" → done = [] → cutDrive? text.toList = none

/-- Whether a text names a segment can be found out. -/
instance (scheme : String) (done : List String) (text : String) :
    Decidable (NamesSegment scheme done text) :=
  decidable_of_iff (freed text ≠ "" ∧ freed text ≠ "." ∧ freed text ≠ ".."
      ∧ (scheme = "file" → done = [] → cutDrive? text.toList = none))
    ⟨fun h => ⟨h.1, h.2.1, h.2.2.1, h.2.2.2⟩,
      fun h => ⟨h.some, h.notHere, h.notAbove, h.uncut⟩⟩

/-- The whole of a text without tabs and line breaks is kept. -/
theorem freed_unbroken {text : String} (h : ∀ c ∈ text.toList, isBreak c = false) :
    freed text = text := by
  have hall : withoutBreaks text.toList = text.toList := by
    refine List.filter_eq_self.mpr fun c hc => ?_
    rw [h c hc]
    rfl
  rw [freed, hall, String.ofList_toList]

/-- The characters that are escaped in a segment that is added under a scheme. -/
def Reserved.added (scheme : String) : Char → Bool :=
  if isSpecial scheme then specialSegment else segment

/-- Percent signs are escaped in every segment that is added. -/
theorem Reserved.added_percent (scheme : String) : added scheme '%' = true := by
  rw [added]
  split
  · rfl
  · rfl

namespace Path

/-- The segments before a final slash, which stands as an empty one at the end. -/
def stem (names : List String) : List String :=
  if names.getLast? = some "" then names.dropLast else names

/-- The segments behind which another one is added: the stem, but nothing in place of
    two empty segments. -/
def below (names : List String) : List String := if names = ["", ""] then [] else stem names

/-- Whether a text becomes the drive at the beginning of a file's path. -/
def isDriven (scheme : String) (isFirst : Bool) (text : String) : Bool :=
  scheme == "file" && isFirst && isDrive (escape (Reserved.added scheme) text.toList)

/-- The segment that a text becomes.  A drive gets a colon. -/
def added (scheme : String) (isFirst : Bool) (text : String) : String :=
  let segment := escape (Reserved.added scheme) text.toList
  if isDriven scheme isFirst text then String.ofList (segment.take 1 ++ [':'])
  else String.ofList segment

end Path

section

variable {scheme : String} {text : String}

/-- A segment that is added stands for the text that it was made of. -/
theorem unescape_added (scheme : String) (cs : List Char) :
    unescape (escape (Reserved.added scheme) cs) = Text.utf8 cs :=
  unescape_escape (Reserved.added_percent scheme) cs

/-- What is kept of a text that names a segment has none of the meanings of dots. -/
theorem NamesSegment.not_dots {done : List String} (h : NamesSegment scheme done text) :
    isAbove (escape (Reserved.added scheme) (freed text).toList) = false ∧
      isHere (escape (Reserved.added scheme) (freed text).toList) = false := by
  constructor
  · refine Bool.eq_false_iff.mpr fun habove => h.notAbove ?_
    have hbytes := (unescape_added scheme _).symm.trans (unescape_of_isAbove habove)
    exact String.ext (Text.utf8_inj hbytes)
  · refine Bool.eq_false_iff.mpr fun hhere => h.notHere ?_
    have hbytes := (unescape_added scheme _).symm.trans (unescape_of_isHere hhere)
    exact String.ext (Text.utf8_inj hbytes)

/-- A text that names a segment is one more segment of a trail. -/
theorem Trail.read_added {done : List String} (h : NamesSegment scheme done text) :
    (Trail.read scheme (Reserved.added scheme) true text.toList { behind := done.reverse }).behind
      = Path.added scheme done.isEmpty (freed text) :: done.reverse := by
  have hcut : (if (scheme == "file" && done.isEmpty) = true then cutDrive? text.toList
      else none) = none := by
    split
    · rename_i hdrive
      obtain ⟨hfile, hfirst⟩ := Bool.and_eq_true_iff.mp hdrive
      exact h.uncut (beq_iff_eq.mp hfile) (List.isEmpty_iff.mp hfirst)
    · rfl
  have hkept : withoutBreaks text.toList = (freed text).toList := String.toList_ofList.symm
  obtain ⟨habove, hhere⟩ := h.not_dots
  rw [Trail.read]
  dsimp only
  rw [List.isEmpty_reverse, hcut]
  dsimp only
  rw [hkept, habove, hhere, Path.added, Path.isDriven, if_neg (by decide), if_neg (by decide)]
  split
  · rfl
  · rfl

/-- A segment that is added for some text is not empty. -/
theorem Path.added_ne_empty (h : text ≠ "") (scheme : String) (isFirst : Bool) :
    Path.added scheme isFirst text ≠ "" := by
  rw [Path.added]
  split
  · intro hempty
    have hlist := congrArg String.toList hempty
    rw [String.toList_ofList] at hlist
    simp at hlist
  · intro hempty
    have hlist := congrArg String.toList hempty
    rw [String.toList_ofList] at hlist
    have hbytes : Text.utf8 [] = Text.utf8 text.toList := by
      rw [← unescape_added scheme text.toList, hlist]
      rfl
    exact h (String.ext (Text.utf8_inj hbytes.symm))

/-- A drive has no escapes. -/
theorem eq_of_isDrive {cs : List Char} (h : isDrive (escape (Reserved.added scheme) cs) = true) :
    escape (Reserved.added scheme) cs = cs := by
  have hbytes := unescape_added scheme cs
  unfold isDrive at h
  split at h
  · rename_i letter mark hsegment
    obtain ⟨hletter, hmark⟩ := Bool.and_eq_true_iff.mp h
    have hl : letter ≠ '%' := by
      rintro rfl
      exact nomatch hletter
    have hm : mark ≠ '%' := by
      rintro rfl
      exact nomatch hmark
    rw [hsegment, unescape_plain hl, unescape_plain hm] at hbytes
    rw [hsegment]
    exact Text.utf8_inj hbytes
  · exact nomatch h

/-- What becomes the same segment as a drive is a drive. -/
theorem Path.isDriven_of_eq {text' : String} {isFirst : Bool}
    (heq : added scheme isFirst text = added scheme isFirst text')
    (h : isDriven scheme isFirst text = true) : isDriven scheme isFirst text' = true := by
  cases h' : isDriven scheme isFirst text' with
  | true => rfl
  | false =>
      -- the other segment would be a letter and a colon, which is a drive
      rw [added, added, if_pos h, h', if_neg (by decide)] at heq
      have hsegment := String.ofList_inj.mp heq
      obtain ⟨hfile, hdrive⟩ := Bool.and_eq_true_iff.mp h
      unfold isDrive at hdrive
      split at hdrive
      · rename_i letter mark hletters
        rw [hletters] at hsegment
        rw [isDriven, hfile, ← hsegment] at h'
        rw [← h']
        simpa [isDrive] using (Bool.and_eq_true_iff.mp hdrive).1
      · exact nomatch hdrive

/-- Texts that denote one drive, with a colon or a bar. -/
structure SameDrive (text text' : String) : Prop where
  left : isDrive text.toList = true
  right : isDrive text'.toList = true
  letter : text.toList.take 1 = text'.toList.take 1

/-- **Different texts are different segments**, but for one drive at the beginning of a
    file's path. -/
theorem Path.added_inj {text' : String} {isFirst : Bool}
    (heq : added scheme isFirst text = added scheme isFirst text') :
    text = text' ∨ scheme = "file" ∧ isFirst = true ∧ SameDrive text text' := by
  by_cases h : isDriven scheme isFirst text = true
  · have h' := isDriven_of_eq heq h
    rw [added, added, if_pos h, if_pos h'] at heq
    obtain ⟨hplace, hdrive⟩ := Bool.and_eq_true_iff.mp h
    obtain ⟨hfile, hfirst⟩ := Bool.and_eq_true_iff.mp hplace
    have hdrive' := (Bool.and_eq_true_iff.mp h').2
    have hplain := eq_of_isDrive hdrive
    have hplain' := eq_of_isDrive hdrive'
    rw [hplain, hplain'] at heq
    rw [hplain] at hdrive
    rw [hplain'] at hdrive'
    have hletter := List.append_cancel_right (String.ofList_inj.mp heq)
    exact Or.inr ⟨beq_iff_eq.mp hfile, hfirst, hdrive, hdrive', hletter⟩
  · have h' : ¬ isDriven scheme isFirst text' = true := fun h' => h (isDriven_of_eq heq.symm h')
    rw [added, added, if_neg h, if_neg h'] at heq
    exact Or.inl (String.ext (escape_inj (Reserved.added_percent scheme)
      (String.ofList_inj.mp heq)))

/-- The segments of a trail are those that it holds, if the path of a file does not
    begin with an empty one. -/
theorem Trail.names_eq {t : Trail} {names : List String} (hnames : t.behind.reverse = names)
    (h : scheme = "file" → ∃ name rest, names = name :: rest ∧ name ≠ "") :
    t.names scheme = names := by
  rw [Trail.names, hnames]
  split
  · rename_i hfile
    obtain ⟨name, rest, rfl, hne⟩ := h (beq_iff_eq.mp hfile)
    have hdrop : (name :: rest).dropWhile String.isEmpty = name :: rest := by
      refine List.dropWhile_cons_of_neg fun hempty => hne ?_
      exact String.isEmpty_iff.mp hempty
    rw [hdrop]
  · rfl

/-- What is left of a path in front of a segment that is added. -/
theorem Path.below_eq (names : List String) :
    (let kept := if names.length > 1 && names.getLast? == some "" then names.dropLast else names
      if kept == [""] then [] else kept) = below names := by
  dsimp only
  rw [below, stem]
  by_cases hlast : names.getLast? = some ""
  · obtain ⟨front, rfl⟩ := List.getLast?_eq_some_iff.mp hlast
    rw [if_pos hlast, List.dropLast_concat]
    cases front with
    | nil => rfl
    | cons name front =>
        -- what is left in front of the final slash may be one empty segment
        have hlong : (decide ((name :: front ++ [""]).length > 1)
            && (name :: front ++ [""]).getLast? == some "") = true := by
          rw [hlast]
          simp
        have htwo : name :: front ++ [""] = [""] ++ [""] ↔ name :: front = [""] :=
          List.append_left_inj [""]
        rw [if_pos hlong, show ["", ""] = [""] ++ [""] from rfl]
        simp only [beq_iff_eq, htwo]
  · have hshort : (decide (names.length > 1) && names.getLast? == some "") = false := by
      rw [beq_eq_false_iff_ne.mpr hlast, Bool.and_false]
    have hkept : (names == [""]) = false := by
      refine beq_eq_false_iff_ne.mpr ?_
      rintro rfl
      exact hlast rfl
    have htwo : names ≠ ["", ""] := by
      rintro rfl
      exact hlast rfl
    rw [if_neg hlast, hshort, if_neg Bool.false_ne_true, hkept, if_neg htwo]
    rfl

/-- The segment is added behind the stem, unless the path is two empty segments. -/
theorem Path.below_stem {names : List String} (hn : names ≠ ["", ""]) :
    below names = stem names := if_neg hn

/-- The stem of a file's path does not begin with an empty segment. -/
theorem Path.stem_head {names : List String} (h : names = [""] ∨ names.head? ≠ some "")
    {name : String} {rest : List String} (hstem : stem names = name :: rest) : name ≠ "" := by
  rintro rfl
  rw [stem] at hstem
  rcases h with rfl | h
  · exact nomatch hstem
  · split at hstem
    · rename_i hlast
      obtain ⟨front, rfl⟩ := List.getLast?_eq_some_iff.mp hlast
      rw [List.dropLast_concat] at hstem
      rw [hstem] at h
      exact h rfl
    · rw [hstem] at h
      exact h rfl

/-- What is left of a file's path does not begin with an empty segment. -/
theorem Path.below_head {names : List String} (h : names = [""] ∨ names.head? ≠ some "")
    {name : String} {rest : List String} (hbelow : below names = name :: rest) : name ≠ "" := by
  rw [below] at hbelow
  split at hbelow
  · exact nomatch hbelow
  · exact stem_head h hbelow

/-- **A text that names a segment is added as it** behind what is left of the path. -/
theorem Path.push_eq {names : List String} (h : NamesSegment scheme (below names) text)
    (hfits : Path.Fits scheme (.segments names)) :
    push scheme names text
      = below names ++ [added scheme (below names).isEmpty (freed text)] := by
  -- plain dots are what is kept of them, so the text is none
  have hdots : (text == "." || text == "..") = false := by
    refine Bool.eq_false_iff.mpr fun hdots => ?_
    rcases Bool.or_eq_true_iff.mp hdots with hhere | habove
    · exact h.notHere (by rw [beq_iff_eq.mp hhere]; rfl)
    · exact h.notAbove (by rw [beq_iff_eq.mp habove]; rfl)
  rw [push]
  dsimp only
  rw [hdots, if_neg Bool.false_ne_true, below_eq]
  refine Trail.names_eq ?_ ?_
  · show (Trail.read scheme (Reserved.added scheme) true text.toList _).behind.reverse = _
    rw [Trail.read_added h, List.reverse_cons, List.reverse_reverse]
  · intro hfile
    cases hbelow : below names with
    | nil => exact ⟨_, [], rfl, added_ne_empty h.some _ _⟩
    | cons name rest => exact ⟨name, _, rfl, below_head (hfits hfile) hbelow⟩

end

end Url

namespace Remote

/-! ## Messages -/

/-- A message has no address only if its collection has no path of segments. -/
theorem messageUrl_eq_error {r : Remote} {id : MessageId} :
    r.messageUrl id = .error .noPathSegments ↔ ¬ r.collection.HasSegments := by
  rw [messageUrl, Url.push?]
  cases hpath : r.collection.path with
  | segments names =>
      refine ⟨fun h => (nomatch h), fun h => absurd ⟨names, hpath⟩ h⟩
  | flat text =>
      refine ⟨fun _ => ?_, fun _ => rfl⟩
      rintro ⟨names, hnames⟩
      rw [hpath] at hnames
      exact nomatch hnames

/-- The address of a message whose id names a segment. -/
theorem messageUrl_eq {r : Remote} {names : List String} (hfits : r.collection.Fits)
    (hpath : r.collection.path = .segments names) {id : MessageId}
    (hid : Url.NamesSegment r.collection.scheme (Url.Path.below names) id.display) :
    r.messageUrl id = .ok { r.collection with
      path := .segments (Url.Path.below names ++ [Url.Path.added r.collection.scheme
        (Url.Path.below names).isEmpty (Url.freed id.display)]) } := by
  rw [Url.Fits, hpath] at hfits
  rw [messageUrl, Url.push?, hpath]
  dsimp only
  rw [Url.Path.push_eq hid hfits]

end Remote

/-- **Each message has an address of its own, one segment below the collection.**  A
    message has no address only if the collection has no path of segments.  Else an id
    that names a segment makes the address of the collection with one segment more,
    which is not empty, behind its path without the final slash, unless that path is
    two empty segments; and ids that make the same address have the same text but for
    tabs and line breaks, or denote one drive at the root of a file. -/
theorem messages_have_own_addresses {s : Settings} {r : Remote}
    (accepted : Remote.ofSettings s = .ok r) :
    (∀ id, r.messageUrl id = .error .noPathSegments ↔ ¬ r.collection.HasSegments)
      ∧ ∀ names, r.collection.path = .segments names →
        (names ≠ ["", ""] → ∀ id,
          Url.NamesSegment r.collection.scheme (Url.Path.stem names) id.display →
          ∃ segment, segment ≠ "" ∧ r.messageUrl id = .ok { r.collection with
            path := .segments (Url.Path.stem names ++ [segment]) })
        ∧ ∀ id id', Url.NamesSegment r.collection.scheme (Url.Path.below names) id.display →
          Url.NamesSegment r.collection.scheme (Url.Path.below names) id'.display →
          r.messageUrl id = r.messageUrl id' → Url.freed id.display = Url.freed id'.display
            ∨ r.collection.scheme = "file" ∧ Url.Path.below names = []
              ∧ Url.SameDrive (Url.freed id.display) (Url.freed id'.display) := by
  have hfits := Remote.fits_collection accepted
  refine ⟨fun id => Remote.messageUrl_eq_error, ?_⟩
  intro names hpath
  constructor
  · intro hn id hid
    rw [← Url.Path.below_stem hn] at hid ⊢
    exact ⟨_, Url.Path.added_ne_empty hid.some _ _, Remote.messageUrl_eq hfits hpath hid⟩
  · intro id id' hid hid' heq
    rw [Remote.messageUrl_eq hfits hpath hid, Remote.messageUrl_eq hfits hpath hid'] at heq
    have hnames := Url.Path.segments.inj (congrArg Url.path (Except.ok.inj heq))
    rcases Url.Path.added_inj (List.cons.inj (List.append_cancel_left hnames)).1 with
      hsame | ⟨hfile, hroot, hdrive⟩
    · exact Or.inl hsame
    · exact Or.inr ⟨hfile, List.isEmpty_iff.mp hroot, hdrive⟩

/-- Slashes, percent signs and what looks like escaped dots make no difference at the
    loop-back address, and tabs do not either. -/
theorem messages_have_own_addresses_loopback :
    (∃ segment, segment ≠ "" ∧ Remote.loopback.messageUrl (.text "../\t%2e")
        = .ok (.loopback (.segments ["rest", segment])))
      ∧ (Remote.loopback.messageUrl (.text "../\t%2e") = Remote.loopback.messageUrl (.number 7) →
        "../%2e" = "7") := by
  have h := messages_have_own_addresses (s := { baseUrl := "http://[::1]/" })
    (r := .loopback) rfl
  have hids := h.2 ["rest", ""] rfl
  have hdots : Url.NamesSegment "http" ["rest"] "../\t%2e" := by decide
  have hseven : Url.NamesSegment "http" ["rest"] (MessageId.number 7).display := by decide
  refine ⟨hids.1 (by decide) (.text "../\t%2e") hdots, fun heq => ?_⟩
  rcases hids.2 (.text "../\t%2e") (.number 7) hdots hseven heq with hsame | ⟨hfile, -⟩
  · exact hsame
  · exact absurd hfile (by decide)

/-- **Ids that name no segment, and collections that have none.**  An empty id makes
    the address of the collection itself, one or two dots that of the place without
    the final slash, dots around a tab that of a place above; ids that differ in a tab
    make one address.  Under a flat path there is no address, and under a path of two
    empty segments one that is not below it.  At the root of a file, one drive has two
    texts, and a drive that is cut off makes two segments. -/
theorem messages_share_addresses :
    Remote.ofSettings { baseUrl := "http://[::1]/" } = .ok .loopback
      ∧ Remote.loopback.messageUrl (.text "") = .ok Remote.loopback.collection
      ∧ Remote.loopback.messageUrl (.text ".") = .ok (.loopback (.segments ["rest"]))
      ∧ Remote.loopback.messageUrl (.text "..") = .ok (.loopback (.segments ["rest"]))
      ∧ Remote.loopback.messageUrl (.text ".\t.") = .ok (.loopback (.segments [""]))
      ∧ Remote.loopback.messageUrl (.text "a\tb") = Remote.loopback.messageUrl (.text "ab")
      ∧ (∃ r, Remote.ofSettings { baseUrl := "http://[::1]/", restPath := "mailto:x" } = .ok r
        ∧ r.messageUrl (.number 1) = .error .noPathSegments)
      ∧ (∃ r, Remote.ofSettings { baseUrl := "http://[::1]//", restPath := "." } = .ok r
        ∧ r.collection = .loopback (.segments ["", ""])
        ∧ r.messageUrl (.number 1) = .ok (.loopback (.segments ["1"])))
      ∧ ∃ r, Remote.ofSettings { baseUrl := "http://[::1]/", restPath := "file:" } = .ok r
        ∧ r.messageUrl (.text "C|") = r.messageUrl (.text "C:")
        ∧ r.messageUrl (.text "C:\tx")
          = .ok { r.collection with path := .segments ["C:", "x"] } := by
  refine ⟨rfl, rfl, rfl, rfl, rfl, rfl, ⟨_, rfl, rfl⟩, ⟨_, rfl, rfl, rfl⟩, ?_⟩
  let file (names : List String) : Url := ⟨"file", some {}, .segments names, none, none⟩
  let r : Remote := { Remote.loopback with collection := file [""] }
  have hbar : r.messageUrl (.text "C|") = .ok (file ["C:"]) := rfl
  have hcolon : r.messageUrl (.text "C:") = .ok (file ["C:"]) := rfl
  exact ⟨r, rfl, hbar.trans hcolon.symm, rfl⟩

end Postbox
