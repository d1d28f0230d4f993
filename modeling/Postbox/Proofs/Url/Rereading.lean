import Postbox.Proofs.Url.Hosts
import Postbox.Proofs.Url.Settled

/-! # Rereading — an address is read back from its text

    An address of the web is put together from its parts with marks between them, and read by
    looking for these marks.  In a settled address each mark is found where it was put: no
    part has one in it that would end the part, and what is read of a part is the part.  Only
    the host is worked on again, so the address that is read has the host that its host is
    read as (`Url.Settled.read_write`); and that is the same one, unless a label of it is too
    long to be read in Punycode (`Url.Settled.read_write_iff`). -/

namespace Postbox

namespace Url

open Text

/-! ## Characters -/

/-- A graphic text has nothing to trim. -/
theorem clean_graphic {s : String} (h : Graphic s) : clean s = s.toList := by
  have hdrop : ∀ cs : List Char, (∀ c ∈ cs, isGraphic c = true) →
      cs.dropWhile (fun c => decide (c.toNat ≤ 0x20)) = cs := by
    intro cs hcs
    cases cs with
    | nil => rfl
    | cons c cs =>
        refine List.dropWhile_cons_of_neg ?_
        have hc := hcs c List.mem_cons_self
        rw [isGraphic, Bool.and_eq_true, decide_eq_true_iff] at hc
        simpa using hc.1
  rw [clean, strip, hdrop _ h, hdrop _ fun c hc => h c (List.mem_reverse.mp hc),
    List.reverse_reverse]

/-- A graphic text has no breaks. -/
theorem withoutBreaks_graphic {cs : List Char} (h : ∀ c ∈ cs, isGraphic c = true) :
    withoutBreaks cs = cs := by
  refine List.filter_eq_self.mpr fun c hc => ?_
  cases hbreak : isBreak c with
  | false => rfl
  | true =>
      have hgraphic := h c hc
      simp only [isBreak, Bool.or_eq_true, beq_iff_eq] at hbreak
      rcases hbreak with (rfl | rfl) | rfl <;> exact absurd hgraphic (by decide)

/-! ## User and host -/

/-- The last at sign is between user and host. -/
theorem splitUser_append (front : List Char) {behind : List Char} (h : '@' ∉ behind) :
    splitUser? (front ++ '@' :: behind) = some (front, behind) := by
  obtain ⟨hbehind, hfront⟩ := takeWhile_reverse_append front h
  rw [splitUser?, if_pos (by simp), hbehind]
  dsimp only
  rw [hfront]

theorem splitUser_none {cs : List Char} (h : '@' ∉ cs) : splitUser? cs = none := by
  rw [splitUser?, if_neg (by simpa using h)]

/-- User and password are read from the text that they make. -/
theorem readUser_write {a : Authority} {scheme : String} (ha : a.Settled scheme) :
    readUser (a.user ++ (if a.password.isEmpty then "" else ":" ++ a.password)).toList
      = { user := a.user, password := a.password } := by
  have hcolon : ∀ c ∈ a.user.toList, (c != ':') = true := by
    intro c hc
    refine bne_iff_ne.mpr ?_
    rintro rfl
    exact absurd (ha.user ':' hc).2 (by decide)
  have hname : (a.user ++ (if a.password.isEmpty then "" else ":" ++ a.password)).toList.takeWhile
      (· != ':') = a.user.toList := by
    rw [String.toList_append]
    refine takeWhile_append_of hcolon fun c hc => ?_
    split at hc
    · exact nomatch hc
    · rw [String.toList_append] at hc
      rw [← Option.some.inj hc]
      rfl
  have hpassword : (a.user ++ (if a.password.isEmpty then "" else ":" ++ a.password)).toList.drop
      (a.user.toList.length + 1) = a.password.toList := by
    rw [String.toList_append, ← List.drop_drop, List.drop_left]
    split
    · rename_i hempty
      rw [String.isEmpty_iff.mp hempty]
      rfl
    · rw [String.toList_append]
      rfl
  rw [readUser, hname, hpassword, ha.user.escape_eq, ha.password.escape_eq, String.ofList_toList,
    String.ofList_toList]

/-- No mark of an authority, other than a colon. -/
def isInside (c : Char) : Bool := !"/\\?#@[]".toList.contains c

/-- A host that was read: it is not empty, no mark of an authority is in it, and a colon only
    within brackets. -/
structure HostText (cs : List Char) : Prop where
  nonempty : cs ≠ []
  marks : (∀ c ∈ cs, isInside c = true ∧ c ≠ ':') ∨ ∃ inside, cs = '[' :: (inside ++ [']']) ∧
    ∀ c ∈ inside, isInside c = true

theorem ne_of_isInside {c : Char} (h : isInside c = true) : endsAuthority true c = false ∧
    c ≠ '@' ∧ c ≠ '[' ∧ c ≠ ']' := by
  simp only [isInside, String.reduceToList, List.contains_cons, List.contains_nil, Bool.or_false,
    Bool.not_or, Bool.and_eq_true, Bool.not_eq_true', beq_eq_false_iff_ne] at h
  simp only [endsAuthority, isSlash, Bool.true_and, Bool.or_eq_false_iff, beq_eq_false_iff_ne]
  grind

/-- No authority ends in a host, and none has its user there. -/
theorem HostText.marks_mem {cs : List Char} (h : HostText cs) :
    ∀ c ∈ cs, endsAuthority true c = false ∧ c ≠ '@' := by
  rcases h.marks with hplain | ⟨inside, rfl, hinside⟩
  · intro c hc
    obtain ⟨hends, hat, -⟩ := ne_of_isInside (hplain c hc).1
    exact ⟨hends, hat⟩
  · refine List.forall_mem_cons.mpr ⟨by decide, List.forall_mem_append.mpr ⟨fun c hc => ?_,
      List.forall_mem_singleton.mpr (by decide)⟩⟩
    obtain ⟨hends, hat, -⟩ := ne_of_isInside (hinside c hc)
    exact ⟨hends, hat⟩

/-- Without brackets a host goes up to the first colon. -/
theorem splitHost_plain {cs behind : List Char} (hcs : ∀ c ∈ cs, c ≠ ':' ∧ c ≠ '[')
    (hbehind : behind = [] ∨ behind.head? = some ':') :
    splitHost false (cs ++ behind) = (cs, behind) := by
  induction cs with
  | nil =>
      cases behind with
      | nil => rfl
      | cons c behind =>
          rcases hbehind with hnil | hcolon
          · exact nomatch hnil
          · obtain rfl := Option.some.inj hcolon
            rfl
  | cons c cs ih =>
      obtain ⟨⟨hcolon, hopen⟩, hrest⟩ := List.forall_mem_cons.mp hcs
      rw [List.cons_append, splitHost, if_neg (by simpa using hcolon), if_neg (by simpa using hopen)]
      have hsame : (if (c == ']') = true then false else false) = false := ite_self _
      rw [hsame]
      dsimp only
      rw [ih hrest]

/-- Between brackets a host goes on behind colons. -/
theorem splitHost_inside {cs behind : List Char} (hcs : ∀ c ∈ cs, c ≠ '[' ∧ c ≠ ']') :
    splitHost true (cs ++ ']' :: behind)
      = (cs ++ ']' :: (splitHost false behind).1, (splitHost false behind).2) := by
  induction cs with
  | nil => rfl
  | cons c cs ih =>
      obtain ⟨⟨hopen, hclose⟩, hrest⟩ := List.forall_mem_cons.mp hcs
      rw [List.cons_append, splitHost, Bool.not_true, Bool.and_false, if_neg Bool.false_ne_true,
        if_neg (by simpa using hopen), if_neg (by simpa using hclose)]
      dsimp only
      rw [ih hrest]
      rfl

/-- A host is separated from the TCP number behind it. -/
theorem HostText.split {cs behind : List Char} (h : HostText cs)
    (hbehind : behind = [] ∨ behind.head? = some ':') :
    splitHost false (cs ++ behind) = (cs, behind) := by
  rcases h.marks with hplain | ⟨inside, rfl, hinside⟩
  · exact splitHost_plain (fun c hc => ⟨(hplain c hc).2, (ne_of_isInside (hplain c hc).1).2.2.1⟩)
      hbehind
  · have hend : splitHost false ([] ++ behind) = ([], behind) :=
      splitHost_plain (List.forall_mem_nil _) hbehind
    rw [List.cons_append, List.append_assoc, splitHost]
    show ('[' :: (splitHost true (inside ++ ']' :: behind)).1,
      (splitHost true (inside ++ ']' :: behind)).2) = _
    rw [List.nil_append] at hend
    rw [splitHost_inside fun c hc => (ne_of_isInside (hinside c hc)).2.2, hend]

/-! ## TCP numbers -/

/-- A TCP number that is settled is read from its digits. -/
theorem readPortNumber_write {scheme : String} {n : Nat} (hn : n ≤ 65535)
    (hother : defaultPortNumber? scheme ≠ some n) {behind : List Char}
    (hbehind : behind = [] ∨ behind.head? = some '/') :
    readPortNumber scheme ((toString n).toList ++ behind) = .ok (some n, behind) := by
  have htext : (toString n).toList = Nat.toDigits 10 n := Nat.toList_repr
  have hdigits : ((toString n).toList ++ behind).takeWhile Char.isDigit = Nat.toDigits 10 n := by
    rw [htext]
    refine takeWhile_append_of (Json.isDigit_toDigits n) fun c hc => ?_
    rcases hbehind with rfl | hslash
    · cases hc
    · rw [← Option.some.inj (hslash.symm.trans hc)]
      rfl
  have hsome : (Nat.toDigits 10 n).isEmpty = false :=
    List.isEmpty_eq_false_iff.mpr Nat.toDigits_ne_nil
  have hlarge : decide (n > 65535) = false := decide_eq_false (Nat.not_lt.mpr hn)
  have hdefault : (defaultPortNumber? scheme == some n) = false := beq_eq_false_iff_ne.mpr hother
  rw [readPortNumber, hdigits, Nat.ofDigitChars_ten_toDigits, hlarge, hsome, hdefault, htext, List.drop_left]
  rcases hbehind with rfl | hslash
  · rfl
  · obtain ⟨rest, rfl⟩ := List.head?_eq_some_iff.mp hslash
    rfl

/-! ## Hosts -/

/-- An address in four numbers has no marks. -/
theorem isInside_ipv4 (n : Nat) :
    ∀ c ∈ (Ipv4.write n).toList, isInside c = true ∧ c ≠ ':' := by
  rw [Ipv4.write, String.toList_intercalate]
  refine forall_mem_intercalate (P := fun c => isInside c = true ∧ c ≠ ':')
    (forall_mem_of_all (by decide)) ?_
  simp only [List.forall_mem_map]
  intro bit _ c hc
  rw [show toString ((n >>> bit) % 256) = Nat.repr ((n >>> bit) % 256) from rfl,
    Nat.toList_repr] at hc
  exact forall_digits (P := fun c => isInside c = true ∧ c ≠ ':') (by decide) (by omega) (by omega)
    _ c hc

theorem isInside_writeRun (pieces : List Nat) :
    ∀ c ∈ (Ipv6.writeRun pieces).toList, isInside c = true := by
  rw [Ipv6.writeRun, String.toList_intercalate]
  refine forall_mem_intercalate (P := fun c => isInside c = true)
    (forall_mem_of_all (by decide)) ?_
  simp only [List.forall_mem_map, String.toList_ofList]
  exact fun n _ => forall_digits (P := fun c => isInside c = true) (by decide) (by omega)
    (by omega) n

/-- An address in eight pieces has no marks but colons. -/
theorem isInside_ipv6 (pieces : List Nat) :
    ∀ c ∈ (Ipv6.write pieces).toList, isInside c = true := by
  rw [Ipv6.write]
  dsimp only
  split
  · exact isInside_writeRun _
  · rw [String.toList_append, String.toList_append]
    exact List.forall_mem_append.mpr ⟨List.forall_mem_append.mpr
      ⟨isInside_writeRun _, forall_mem_of_all (by decide)⟩, isInside_writeRun _⟩

/-- A name has no marks. -/
theorem isInside_domain {bytes : List UInt8} {name : String}
    (h : Domain.toAscii? bytes = some name) : ∀ c ∈ name.toList, isInside c = true ∧ c ≠ ':' := by
  intro c hc
  have hpermitted := Domain.isPermitted_of_toAscii h c hc
  rw [Domain.isPermitted, Bool.and_eq_true] at hpermitted
  have hmarks := hpermitted.2
  simp only [isInside, String.reduceToList, List.contains_cons, List.contains_nil, Bool.or_false,
    Bool.not_or, Bool.and_eq_true, Bool.not_eq_true', beq_eq_false_iff_ne] at hmarks ⊢
  grind

/-- **What is read as a host** is not empty, and its marks are brackets around it. -/
theorem hostText_of_specialHost {cs : List Char} {host : String} (h : specialHost cs = .ok host) :
    HostText host.toList := by
  rw [specialHost] at h
  split at h
  -- brackets, numbers, and names, each read in its own way
  · rw [bracketHost] at h
    split at h
    · split at h
      · rename_i pieces _
        rw [← Except.ok.inj h, String.toList_append, String.toList_append]
        exact ⟨List.cons_ne_nil _ _, Or.inr ⟨_, rfl, isInside_ipv6 pieces⟩⟩
      · cases h
    · cases h
  · split at h
    · cases h
    · rename_i name hname
      obtain ⟨hsome, h⟩ := not_refused h
      have hmarks := isInside_domain hname
      split at h
      · split at h
        · rename_i n _
          rw [← Except.ok.inj h]
          refine ⟨?_, Or.inl (isInside_ipv4 n)⟩
          rw [Ipv4.write, String.toList_intercalate, List.map_cons, List.map_cons, List.map_cons,
            List.map_cons, List.intercalate_cons_cons]
          simp
        · cases h
      · rw [← Except.ok.inj h]
        refine ⟨fun hnil => hsome ?_, Or.inl hmarks⟩
        rw [String.isEmpty_iff, ← String.toList_eq_nil_iff]
        exact hnil

/-! ## Authorities -/

namespace Authority

variable {a : Authority} {scheme : String}

/-- The text of a TCP number, with the colon before it. -/
def numberText (a : Authority) : String := (a.portNumber.map fun n => ":" ++ toString n).getD ""

/-- Behind a host stands a colon, or nothing. -/
theorem numberText_head (a : Authority) :
    a.numberText.toList = [] ∨ a.numberText.toList.head? = some ':' := by
  rw [numberText]
  cases a.portNumber with
  | none => exact Or.inl rfl
  | some n =>
      refine Or.inr ?_
      show (":" ++ toString n).toList.head? = _
      rw [String.toList_append]
      rfl

/-- The characters of a TCP number have no other meaning. -/
theorem numberText_mem (a : Authority) :
    ∀ c ∈ a.numberText.toList, endsAuthority true c = false ∧ c ≠ '@' := by
  rw [numberText]
  cases a.portNumber with
  | none => exact List.forall_mem_nil _
  | some n =>
      show ∀ c ∈ (":" ++ toString n).toList, _
      rw [String.toList_append, show toString n = Nat.repr n from rfl, Nat.toList_repr]
      exact List.forall_mem_append.mpr ⟨forall_mem_of_all (by decide),
        forall_digits (P := fun c => endsAuthority true c = false ∧ c ≠ '@') (by decide)
          (by omega) (by omega) n⟩

/-- User and password stand before an at sign, if they are there. -/
theorem write_eq (a : Authority) : a.write.toList
    = (if a.user.isEmpty && a.password.isEmpty then []
      else (a.user ++ (if a.password.isEmpty then "" else ":" ++ a.password)).toList ++ ['@'])
      ++ (a.host.toList ++ a.numberText.toList) := by
  rw [write, userInfo, String.toList_append, String.toList_append, List.append_assoc]
  congr 1
  split
  · rfl
  · rw [String.toList_append]
    rfl

/-- No authority ends in the text of a settled one. -/
theorem Settled.write_mem (h : a.Settled scheme) :
    ∀ c ∈ a.write.toList, endsAuthority true c = false := by
  -- what ends an authority is escaped in user and password
  have hclear : ∀ {cs : List Char}, Clear Reserved.userInfo cs →
      ∀ c ∈ cs, endsAuthority true c = false := by
    intro cs hcs c hc
    refine Bool.eq_false_iff.mpr fun hends => ?_
    have hplain := (hcs c hc).2
    simp only [endsAuthority, isSlash, Bool.true_and, Bool.or_eq_true, beq_iff_eq] at hends
    rcases hends with ((rfl | rfl) | rfl) | rfl <;> exact absurd hplain (by decide)
  have hpassword : ∀ c ∈ (if a.password.isEmpty then "" else ":" ++ a.password).toList,
      endsAuthority true c = false := by
    split
    · exact List.forall_mem_nil _
    · rw [String.toList_append]
      exact List.forall_mem_append.mpr ⟨forall_mem_of_all (by decide), hclear h.password⟩
  obtain ⟨cs, hhost⟩ := h.host
  rw [write_eq]
  refine List.forall_mem_append.mpr ⟨?_, List.forall_mem_append.mpr
    ⟨fun c hc => ((hostText_of_specialHost hhost).marks_mem c hc).1,
      fun c hc => (a.numberText_mem c hc).1⟩⟩
  split
  · exact List.forall_mem_nil _
  · rw [String.toList_append]
    exact List.forall_mem_append.mpr ⟨List.forall_mem_append.mpr ⟨hclear h.user, hpassword⟩,
      forall_mem_of_all (by decide)⟩

theorem Settled.write_nonempty (h : a.Settled scheme) : a.write.toList ≠ [] := by
  obtain ⟨cs, hhost⟩ := h.host
  rw [write_eq]
  exact List.append_ne_nil_of_right_ne_nil _
    (List.append_ne_nil_of_left_ne_nil (hostText_of_specialHost hhost).nonempty _)

/-- The user of a settled authority is separated from its host. -/
theorem Settled.splitUser (h : a.Settled scheme) :
    ∃ user, (Url.splitUser? a.write.toList).getD ([], a.write.toList)
        = (user, a.host.toList ++ a.numberText.toList) ∧
      readUser user = { user := a.user, password := a.password } := by
  obtain ⟨cs, hhost⟩ := h.host
  have hat : '@' ∉ a.host.toList ++ a.numberText.toList := by
    intro hmem
    rcases List.mem_append.mp hmem with hmem | hmem
    · exact ((hostText_of_specialHost hhost).marks_mem _ hmem).2 rfl
    · exact (a.numberText_mem _ hmem).2 rfl
  rw [write_eq]
  split
  · rename_i hempty
    obtain ⟨huser, hpassword⟩ := Bool.and_eq_true_iff.mp hempty
    refine ⟨[], ?_, ?_⟩
    · rw [List.nil_append, splitUser_none hat]
      rfl
    · rw [String.isEmpty_iff.mp huser, String.isEmpty_iff.mp hpassword]
      rfl
  · refine ⟨_, ?_, readUser_write h⟩
    rw [List.append_assoc, List.singleton_append, splitUser_append _ hat]
    rfl

end Authority

/-- **A settled authority is read back**, with the host that its host is read as. -/
theorem readAuthority_write {scheme : String} (hspecial : isSpecial scheme = true)
    {a : Authority} (h : a.Settled scheme) {behind : List Char}
    (hbehind : behind.head? = some '/') :
    readAuthority scheme (a.write.toList ++ behind)
      = (specialHost a.host.toList).bind fun host => .ok ({ a with host := host }, behind) := by
  obtain ⟨cs, hhost⟩ := h.host
  have htext := hostText_of_specialHost hhost
  have hinside : (a.write.toList ++ behind).takeWhile (fun c => !endsAuthority true c)
      = a.write.toList := by
    refine takeWhile_append_of (fun c hc => ?_) fun c hc => ?_
    · rw [h.write_mem c hc]
      rfl
    · rw [← Option.some.inj (hbehind.symm.trans hc)]
      rfl
  obtain ⟨user, hsplit, huser⟩ := h.splitUser
  have hsome : (a.host.toList ++ a.numberText.toList).isEmpty = false :=
    List.isEmpty_eq_false_iff.mpr (List.append_ne_nil_of_left_ne_nil htext.nonempty _)
  have hhostSome : a.host.toList.isEmpty = false := List.isEmpty_eq_false_iff.mpr htext.nonempty
  -- behind the host stands the number, then the path
  have hrest : (a.write.toList ++ behind).drop (a.write.toList.length - a.numberText.toList.length)
      = a.numberText.toList ++ behind := by
    rw [Authority.write_eq, ← List.append_assoc, List.length_append, Nat.add_sub_cancel,
      List.append_assoc, List.drop_left]
  rw [readAuthority]
  dsimp only
  rw [hspecial, hinside, hsplit]
  dsimp only
  rw [hsome, huser, htext.split a.numberText_head]
  dsimp only
  rw [hrest, hhostSome, Bool.and_false, Bool.and_false, Bool.false_and, if_neg Bool.false_ne_true,
    if_neg Bool.false_ne_true, if_pos rfl]
  cases hread : specialHost a.host.toList with
  | error p => rfl
  | ok host =>
      have hne : host.isEmpty = false := by
        refine Bool.eq_false_iff.mpr fun hempty => (hostText_of_specialHost hread).nonempty ?_
        rw [String.isEmpty_iff.mp hempty]
        rfl
      dsimp only [bind, Except.bind]
      rw [hne, Bool.false_and, if_neg Bool.false_ne_true, Authority.numberText]
      cases hnumber : a.portNumber with
      | none => rfl
      | some n =>
          obtain ⟨hn, hother⟩ := h.portNumber n hnumber
          have hdigits : ((some n).map fun n => ":" ++ toString n).getD "" = ":" ++ toString n := rfl
          have hskip : (":".toList ++ (toString n).toList ++ behind).drop 1
              = (toString n).toList ++ behind := rfl
          rw [hdigits, String.toList_append, if_pos (by rfl), hskip,
            readPortNumber_write hn hother (Or.inr hbehind)]
          rfl

/-! ## Paths -/

/-- The text of a path of segments. -/
theorem Path.write_segments (names : List String) :
    (Path.segments names).write.toList = names.flatMap fun name => '/' :: name.toList := by
  rw [Path.write, String.toList_join, List.flatMap_map]
  exact congrArg names.flatMap (funext fun name => String.toList_append)

/-- A segment in front, and others behind slashes. -/
def segmentsText (name : String) (names : List String) : List Char :=
  name.toList ++ names.flatMap fun name => '/' :: name.toList

/-- The text is that of the path, without the slash in front. -/
theorem write_segmentsText (name : String) (names : List String) :
    (Path.segments (name :: names)).write.toList = '/' :: segmentsText name names := by
  rw [Path.write_segments]
  rfl

/-- What holds of a slash and of all segments holds of the text. -/
theorem forall_mem_segmentsText {P : Char → Prop} (hslash : P '/') {name : String}
    {names : List String} (h : ∀ part ∈ name :: names, ∀ c ∈ part.toList, P c) :
    ∀ c ∈ segmentsText name names, P c := by
  obtain ⟨hname, hnames⟩ := List.forall_mem_cons.mp h
  refine List.forall_mem_append.mpr ⟨hname, fun c hc => ?_⟩
  obtain ⟨part, hpart, hc⟩ := List.mem_flatMap.mp hc
  exact List.forall_mem_cons.mpr ⟨hslash, hnames part hpart⟩ c hc

/-- The parts of a path are its segments. -/
theorem splitOnP_path {name : String} {names : List String}
    (h : ∀ part ∈ name :: names, ∀ c ∈ part.toList, isSlash true c = false) :
    (segmentsText name names).splitOnP (isSlash true) = (name :: names).map String.toList := by
  induction names generalizing name with
  | nil =>
      rw [segmentsText, List.flatMap_nil, List.append_nil, List.splitOnP_eq_singleton (h name List.mem_cons_self)]
      rfl
  | cons next names ih =>
      obtain ⟨hname, hrest⟩ := List.forall_mem_cons.mp h
      have htext : segmentsText name (next :: names)
          = name.toList ++ '/' :: segmentsText next names := rfl
      rw [htext, List.splitOnP_append_cons _ _ (by decide), List.splitOnP_eq_singleton hname,
        ih hrest]
      rfl

/-- A settled segment is read as it is. -/
theorem Trail.read_settled {scheme name : String} (hs : (scheme == "file") = false)
    (h : SettledName name) (isLast : Bool) (t : Trail) :
    t.read scheme Reserved.path isLast name.toList = { t with behind := name :: t.behind } := by
  have hunbroken : withoutBreaks name.toList = name.toList := by
    refine List.filter_eq_self.mpr fun c hc => ?_
    refine Bool.not_eq_true' _ ▸ Bool.eq_false_iff.mpr fun hbreak => ?_
    have hclear := (h.clear c hc).2
    simp only [isBreak, Bool.or_eq_true, beq_iff_eq] at hbreak
    rcases hbreak with (rfl | rfl) | rfl <;> exact absurd hclear (by decide)
  have hclear : Clear Reserved.path name.toList := fun c hc =>
    ⟨(h.clear c hc).1, (Bool.or_eq_false_iff.mp (h.clear c hc).2).1⟩
  rw [Trail.read_eq hs]
  dsimp only
  rw [hunbroken, hclear.escape_eq, h.notAbove, h.notHere, if_neg Bool.false_ne_true,
    if_neg Bool.false_ne_true, Trail.enter, String.ofList_toList]

/-- Settled segments are read one after the other. -/
theorem Trail.readAll_settled {scheme : String} (hs : (scheme == "file") = false)
    {names : List String} (h : ∀ name ∈ names, SettledName name) (t : Trail) :
    readAll scheme (names.map String.toList) t = { t with behind := names.reverse ++ t.behind } := by
  induction names generalizing t with
  | nil => rfl
  | cons name names ih =>
      obtain ⟨hname, hrest⟩ := List.forall_mem_cons.mp h
      have hstep : readAll scheme ((name :: names).map String.toList) t
          = readAll scheme (names.map String.toList) { t with behind := name :: t.behind } := by
        cases names with
        | nil =>
            show t.read scheme Reserved.path true name.toList = _
            rw [Trail.read_settled hs hname]
            rfl
        | cons next names =>
            rw [List.map_cons, readAll_cons _ _ (by simp), Trail.read_settled hs hname]
      rw [hstep, ih hrest, List.reverse_cons, List.append_assoc]
      rfl

/-- **A settled path is read back** below other segments, and what is behind it is left. -/
theorem scan_write {scheme : String} (hspecial : isSpecial scheme = true)
    (hs : (scheme == "file") = false) (done : List String) {name : String} {names : List String}
    (h : ∀ part ∈ name :: names, SettledName part) {behind : List Char}
    (hbehind : ∀ c, behind.head? = some c → c = '?' ∨ c = '#') :
    Path.scan scheme done (segmentsText name names ++ behind)
      = ({ behind := (done ++ name :: names).reverse }, behind) := by
  have hslash : ∀ part ∈ name :: names, ∀ c ∈ part.toList, isSlash true c = false :=
    fun part hpart c hc => (Bool.or_eq_false_iff.mp ((h part hpart).clear c hc).2).2
  have hmark : ∀ part ∈ name :: names, ∀ c ∈ part.toList, (!(c == '?' || c == '#')) = true := by
    intro part hpart c hc
    have hclear := (Bool.or_eq_false_iff.mp ((h part hpart).clear c hc).2).1
    refine Bool.not_eq_true' _ ▸ Bool.eq_false_iff.mpr fun hend => ?_
    simp only [Bool.or_eq_true, beq_iff_eq] at hend
    rcases hend with rfl | rfl <;> exact absurd hclear (by decide)
  have htext : (segmentsText name names ++ behind).takeWhile (fun c => !(c == '?' || c == '#'))
      = segmentsText name names := by
    refine takeWhile_append_of (forall_mem_segmentsText (by decide) hmark) fun c hc => ?_
    rcases hbehind c hc with rfl | rfl <;> rfl
  rw [Path.scan, htext, hspecial, splitOnP_path hslash, Trail.readAll_settled hs h, List.drop_left,
    List.reverse_append]

/-- A settled path with nothing behind it is read back. -/
theorem scan_segmentsText {scheme : String} (hspecial : isSpecial scheme = true)
    (hs : (scheme == "file") = false) (done : List String) {name : String} {names : List String}
    (h : ∀ part ∈ name :: names, SettledName part) :
    Path.scan scheme done (segmentsText name names)
      = ({ behind := (done ++ name :: names).reverse }, []) := by
  have hnothing : ∀ c, ([] : List Char).head? = some c → c = '?' ∨ c = '#' := nofun
  have hscan := scan_write hspecial hs done h hnothing
  rwa [List.append_nil] at hscan

/-! ## Query and fragment -/

/-- The text of query and fragment. -/
def endText (u : Url) : String :=
  (u.query.map ("?" ++ ·)).getD "" ++ (u.fragment.map ("#" ++ ·)).getD ""

theorem endText_head (u : Url) : ∀ c, u.endText.toList.head? = some c → c = '?' ∨ c = '#' := by
  intro c hc
  rw [endText, String.toList_append] at hc
  cases hquery : u.query with
  | some q =>
      rw [hquery] at hc
      have hfirst : ((some q).map ("?" ++ ·)).getD "" = "?" ++ q := rfl
      rw [hfirst, String.toList_append] at hc
      exact Or.inl (Option.some.inj hc).symm
  | none =>
      rw [hquery] at hc
      cases hfragment : u.fragment with
      | some f =>
          rw [hfragment] at hc
          have hfirst : ((some f).map ("#" ++ ·)).getD "" = "#" ++ f := rfl
          rw [hfirst, String.toList_append] at hc
          exact Or.inr (Option.some.inj hc).symm
      | none =>
          rw [hfragment] at hc
          exact nomatch hc

/-- What stands behind a number sign is the fragment. -/
theorem readFragment_write {u : Url} (h : u.Settled) :
    readEnd true ((u.fragment.map ("#" ++ ·)).getD "").toList = (none, u.fragment) := by
  cases hf : u.fragment with
  | none => rfl
  | some f =>
      have htext : (((some f).map ("#" ++ ·)).getD "").toList = '#' :: f.toList :=
        String.toList_append
      rw [htext]
      show (none, some (String.ofList (escape Reserved.fragment f.toList))) = _
      rw [(h.fragment f hf).escape_eq, String.ofList_toList]

/-- A query goes up to a number sign. -/
theorem readEnd_query {q behind : List Char} (hclear : Clear Reserved.specialQuery q)
    (hbehind : ∀ c, behind.head? = some c → c = '#') :
    readEnd true ('?' :: (q ++ behind)) = (some (String.ofList q), (readEnd true behind).2) := by
  have htake : (q ++ behind).takeWhile (· != '#') = q := by
    refine takeWhile_append_of (fun c hc => bne_iff_ne.mpr ?_) fun c hc => ?_
    · rintro rfl
      exact absurd (hclear '#' hc).2 (by decide)
    · rw [hbehind c hc]
      rfl
  rw [readEnd]
  dsimp only
  rw [htake, if_pos rfl, hclear.escape_eq, List.drop_left]
  cases behind with
  | nil => rfl
  | cons c rest =>
      obtain rfl := hbehind c rfl
      rfl

/-- **Query and fragment are read back.** -/
theorem readEnd_write {u : Url} (h : u.Settled) :
    readEnd true u.endText.toList = (u.query, u.fragment) := by
  rw [endText, String.toList_append]
  cases hquery : u.query with
  | none => exact readFragment_write h
  | some q =>
      have hsharp : ∀ c, ((u.fragment.map ("#" ++ ·)).getD "").toList.head? = some c →
          c = '#' := by
        intro c hc
        cases hf : u.fragment with
        | none =>
            rw [hf] at hc
            exact nomatch hc
        | some f =>
            have htext : (((some f).map ("#" ++ ·)).getD "").toList = '#' :: f.toList :=
              String.toList_append
            rw [hf, htext] at hc
            exact (Option.some.inj hc).symm
      have hfirst : (((some q).map ("?" ++ ·)).getD "").toList = '?' :: q.toList :=
        String.toList_append
      rw [hfirst, List.cons_append, readEnd_query (h.query q hquery) hsharp, readFragment_write h,
        String.ofList_toList]

/-! ## Whole addresses -/

/-- The text of an address with an authority. -/
theorem write_eq {u : Url} {a : Authority} (ha : u.authority = some a) {names : List String}
    (hpath : u.path = .segments names) :
    u.write.toList = u.scheme.toList ++ ':' :: '/' :: '/' :: (a.write.toList ++
      ((names.flatMap fun name => '/' :: name.toList) ++ u.endText.toList)) := by
  rw [write, ha, hpath]
  simp only [String.toList_append, endText, Path.write_segments, List.append_assoc]
  rfl

/-- The scheme of an address of the web is read back. -/
theorem scheme_write {u : Url} (hhttp : u.isHttp = true) (behind : List Char) :
    scheme? (u.scheme.toList ++ ':' :: behind) = some (u.scheme, behind) := by
  rcases Bool.or_eq_true_iff.mp hhttp with h | h
  · rw [beq_iff_eq.mp h]
    simp [scheme?, withoutBreaks, isBreak]
  · rw [beq_iff_eq.mp h]
    simp [scheme?, withoutBreaks, isBreak]

/-- What is read behind the scheme of an address of the web, by itself. -/
theorem readWith_web {u : Url} (hhttp : u.isHttp = true) {cs rest : List Char}
    (hscheme : scheme? cs = some (u.scheme, '/' :: '/' :: rest))
    (hrest : ∀ c ∈ rest, isGraphic c = true)
    (hhead : ∀ c, rest.head? = some c → isSlash true c = false) :
    readWith none cs = readHierarchy u.scheme rest := by
  obtain ⟨hspecial, hfile⟩ := special_of_isHttp hhttp
  have hunbroken : withoutBreaks ('/' :: '/' :: rest) = '/' :: '/' :: rest := by
    refine withoutBreaks_graphic ?_
    exact List.forall_mem_cons.mpr ⟨by decide, List.forall_mem_cons.mpr ⟨by decide, hrest⟩⟩
  have hbehind : ('/' :: '/' :: rest).dropWhile (isSlash true) = rest := by
    rw [List.dropWhile_cons_of_pos (by decide), List.dropWhile_cons_of_pos (by decide)]
    cases rest with
    | nil => rfl
    | cons c rest =>
        exact List.dropWhile_cons_of_neg (by rw [hhead c rfl]; exact Bool.false_ne_true)
  unfold readWith
  rw [hscheme]
  split
  · rename_i heq
    rw [(Prod.mk.inj (Option.some.inj heq)).1] at hfile
    exact absurd hfile (by decide)
  · rename_i heq
    obtain ⟨rfl, rfl⟩ := Prod.mk.inj (Option.some.inj heq)
    rw [hunbroken, readBehindScheme, if_pos hspecial, hbehind]
  · rename_i heq _
    exact nomatch heq
  · rename_i heq
    exact nomatch heq

/-- **A settled address is read back from its text**, with the host that its host is read as. -/
theorem Settled.read_write {u : Url} (h : u.Settled) (hprint : u.Printable)
    (hhttp : u.isHttp = true) {a : Authority} (ha : u.authority = some a) {name : String}
    {names : List String} (hpath : u.path = .segments (name :: names)) :
    read u.write = (specialHost a.host.toList).bind fun host =>
      .ok { u with authority := some { a with host := host } } := by
  obtain ⟨hspecial, hfile⟩ := special_of_isHttp hhttp
  have hsettled := h.authority a ha
  have hgraphic := hprint.write ⟨_, hpath⟩
  have htext := write_eq ha hpath
  have hscheme := scheme_write hhttp ('/' :: '/' :: (a.write.toList ++
    (((name :: names).flatMap fun name => '/' :: name.toList) ++ u.endText.toList)))
  rw [← htext] at hscheme
  have hrest : ∀ c ∈ a.write.toList ++ (((name :: names).flatMap fun name => '/' :: name.toList)
      ++ u.endText.toList), isGraphic c = true := by
    intro c hc
    refine hgraphic c ?_
    rw [htext]
    exact List.mem_append_right _ (.tail _ (.tail _ (.tail _ hc)))
  -- no third slash: the authority is not empty, and has none
  have hhead : ∀ c, (a.write.toList ++ (((name :: names).flatMap fun name => '/' :: name.toList)
      ++ u.endText.toList)).head? = some c → isSlash true c = false := by
    intro c hc
    obtain ⟨first, rest, hfirst⟩ := List.exists_cons_of_ne_nil hsettled.write_nonempty
    rw [hfirst] at hc
    rw [← Option.some.inj hc]
    have hends := hsettled.write_mem first (hfirst ▸ List.mem_cons_self)
    simp only [endsAuthority, Bool.or_eq_false_iff] at hends
    exact hends.1.1
  rw [read, clean_graphic hgraphic, readWith_web hhttp hscheme hrest hhead, readHierarchy,
    readAuthority_write hspecial hsettled rfl]
  -- the host alone may be refused, or read as another one
  cases hhost : specialHost a.host.toList with
  | error p => rfl
  | ok host =>
      show Except.ok (withPath { Url.bare u.scheme with authority := some { a with host := host } } []
        (segmentsText name names ++ u.endText.toList)) = _
      have hend : ∀ c ∈ u.endText.toList, isGraphic c = true := fun c hc =>
        hrest c (List.mem_append_right _ (List.mem_append_right _ hc))
      rw [withPath]
      dsimp only [Url.bare]
      rw [scan_write hspecial hfile [] (h.names _ hpath) (endText_head u),
        withoutBreaks_graphic hend]
      rw [Url.withEnd]
      dsimp only
      rw [hspecial, readEnd_write h, Trail.names, hfile, List.reverse_reverse, hpath]
      rfl

/-- **A settled address is read as itself** exactly when no label of its host is too long to be
    read in Punycode. -/
theorem Settled.read_write_iff {u : Url} (h : u.Settled) (hprint : u.Printable)
    (hhttp : u.isHttp = true) {a : Authority} (ha : u.authority = some a) {name : String}
    {names : List String} (hpath : u.path = .segments (name :: names)) :
    read u.write = .ok u ↔ Domain.HasShortLabels a.host := by
  obtain ⟨_, hread⟩ := (h.authority a ha).host
  rw [h.read_write hprint hhttp ha hpath, ← specialHost_again hread]
  cases hhost : specialHost a.host.toList with
  | error p => exact ⟨fun heq => (nomatch heq), fun heq => (nomatch heq)⟩
  | ok host =>
      constructor
      · intro heq
        have hauthority := congrArg Url.authority (Except.ok.inj heq)
        rw [ha] at hauthority
        rw [← congrArg Authority.host (Option.some.inj hauthority)]
      · intro heq
        obtain rfl := Except.ok.inj heq
        show Except.ok { u with authority := some a } = Except.ok u
        rw [← ha]

end Url

end Postbox
