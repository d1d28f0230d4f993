import Postbox.Proofs.Address
import Postbox.Proofs.Text.Cutting

/-! # Printable addresses — nothing in an address divides a line

    An address is written in graphic characters of ASCII, without spaces and controls,
    whatever the text that it was read from.  Each part has its own way to that.  Segments,
    query, fragment and user are escaped, and the set of each covers all that is not graphic
    (`Reserved.Covers`).  Hosts are numbers, or names whose characters are permitted one by
    one.  A scheme has no others to begin with.

    A flat path may have spaces.  So what all readers keep leaves flat paths out
    (`Url.Printable`), and an address with such parts and a path of segments is written in
    graphic characters (`Url.Printable.write`). -/

namespace Postbox

/-! ## Graphic characters -/

namespace Text

/-- Whether a character is a graphic one of ASCII, neither a control nor a space. -/
def isGraphic (c : Char) : Bool := 0x20 < c.toNat && c.toNat < 0x7F

/-- All characters of a text are graphic ones. -/
def Graphic (s : String) : Prop := ∀ c ∈ s.toList, isGraphic c = true

instance : DecidablePred Graphic := fun s =>
  List.decidableBAll (fun c => isGraphic c = true) s.toList

theorem graphic_ofList {cs : List Char} (h : ∀ c ∈ cs, isGraphic c = true) :
    Graphic (String.ofList cs) := by
  rw [Graphic, String.toList_ofList]
  exact h

theorem Graphic.append {s t : String} (hs : Graphic s) (ht : Graphic t) : Graphic (s ++ t) := by
  rw [Graphic, String.toList_append]
  exact List.forall_mem_append.mpr ⟨hs, ht⟩

theorem Graphic.join {ss : List String} (h : ∀ s ∈ ss, Graphic s) : Graphic (String.join ss) := by
  intro c hc
  rw [String.toList_join, List.mem_flatMap] at hc
  obtain ⟨s, hs, hc⟩ := hc
  exact h s hs c hc

theorem Graphic.intercalate {separator : String} (hseparator : Graphic separator)
    {ss : List String} (h : ∀ s ∈ ss, Graphic s) : Graphic (separator.intercalate ss) := by
  rw [Graphic, String.toList_intercalate]
  exact forall_mem_intercalate hseparator (List.forall_mem_map.mpr h)

/-- Letters and digits are graphic. -/
theorem isGraphic_of_isAlphanum {c : Char} (h : c.isAlphanum = true) : isGraphic c = true := by
  delta Char.isAlphanum Char.isAlpha Char.isUpper Char.isLower Char.isDigit at h
  simp only [Bool.or_eq_true, Bool.and_eq_true, decide_eq_true_eq, ge_iff_le,
    UInt32.le_iff_toNat_le, Char.toNat_val, Char.reduceToNat] at h
  rw [isGraphic, Bool.and_eq_true, decide_eq_true_iff, decide_eq_true_iff]
  omega

/-- What holds of each character of ASCII can be looked up. -/
theorem forall_ascii {P : Char → Prop} (h : ∀ n < 0x80, P (Char.ofNat n)) {c : Char}
    (hc : c.toNat < 0x80) : P c := by
  rw [← Char.ofNat_toNat c]
  exact h _ hc

/-- What holds of each character of a short text can be looked up. -/
theorem forall_mem_of_all {P : Char → Prop} [DecidablePred P] {cs : List Char}
    (h : cs.all (fun c => decide (P c)) = true) : ∀ c ∈ cs, P c :=
  fun c hc => of_decide_eq_true (List.all_eq_true.mp h c hc)

/-- A graphic character is one of ASCII. -/
theorem ascii_of_isGraphic {c : Char} (h : isGraphic c = true) : c.toNat < 0x80 := by
  rw [isGraphic, Bool.and_eq_true, decide_eq_true_iff, decide_eq_true_iff] at h
  omega

/-- A letter in lower case is as graphic. -/
theorem isGraphic_toLower {c : Char} (h : isGraphic c = true) : isGraphic c.toLower = true :=
  forall_ascii (P := fun c => isGraphic c = true → isGraphic c.toLower = true) (by decide)
    (ascii_of_isGraphic h) h

/-- What holds of sixteen digits holds of those of a number, in all bases up to sixteen. -/
theorem forall_digits {P : Char → Prop} (hP : ∀ m < 16, P m.digitChar) {base : Nat}
    (hbase : 1 < base) (hmax : base ≤ 16) (n : Nat) : ∀ c ∈ Nat.toDigits base n, P c := by
  induction n using Nat.strongRecOn with
  | ind n ih =>
      by_cases hlt : n < base
      · rw [Nat.toDigits_of_lt_base hlt]
        exact List.forall_mem_singleton.mpr (hP n (by omega))
      · rw [Nat.toDigits_of_base_le hbase (by omega)]
        have hless : n / base < n := Nat.div_lt_self (by omega) hbase
        have hmod : n % base < base := Nat.mod_lt n (by omega)
        exact List.forall_mem_append.mpr
          ⟨ih _ hless, List.forall_mem_singleton.mpr (hP _ (by omega))⟩

/-- The digits of a number are graphic. -/
theorem isGraphic_digits {base : Nat} (hbase : 1 < base) (hmax : base ≤ 16) (n : Nat) :
    ∀ c ∈ Nat.toDigits base n, isGraphic c = true :=
  forall_digits (P := fun c => isGraphic c = true) (by decide) hbase hmax n

/-- A number is written in graphic characters. -/
theorem graphic_number (n : Nat) : Graphic (toString n) := by
  rw [Graphic, show toString n = Nat.repr n from rfl, Nat.toList_repr]
  exact isGraphic_digits (by omega) (by omega) n

end Text

namespace Url

open Text

/-! ## Escapes -/

namespace Reserved

/-- A set has all characters of ASCII that are not graphic. -/
structure Covers (reserved : Char → Bool) : Prop where
  controls (c : Char) (h : Reserved.controls c = true) : reserved c = true
  space : reserved ' ' = true

/-- A larger set covers what a smaller one does. -/
theorem Covers.or {reserved : Char → Bool} (h : Covers reserved) (other : Char → Bool) :
    Covers fun c => reserved c || other c where
  controls c hc := by rw [h.controls c hc, Bool.true_or]
  space := by rw [h.space, Bool.true_or]

theorem covers_query : Covers query where
  controls c hc := by rw [query, hc, Bool.true_or]
  space := by decide

theorem covers_fragment : Covers fragment where
  controls c hc := by rw [fragment, hc, Bool.true_or]
  space := by decide

theorem covers_specialQuery : Covers specialQuery := covers_query.or _

theorem covers_path : Covers path := covers_fragment.or _

theorem covers_userInfo : Covers userInfo := covers_path.or _

theorem covers_segment : Covers segment := (covers_path.or _).or _

theorem covers_specialSegment : Covers specialSegment := covers_segment.or _

end Reserved

/-- A character is graphic, or a control, or the space, or none of ASCII. -/
theorem graphic_cases (c : Char) : isGraphic c = true ∨ 0x80 ≤ c.toNat ∨
    Reserved.controls c = true ∨ c = ' ' := by
  rcases Nat.lt_trichotomy c.toNat 0x20 with hlow | hspace | hhigh
  · refine Or.inr (Or.inr (Or.inl ?_))
    rw [Reserved.controls, decide_eq_true hlow, Bool.true_or]
  · exact Or.inr (Or.inr (Or.inr (Char.toNat_inj.mp hspace)))
  · by_cases hdelete : c = '\x7f'
    · exact Or.inr (Or.inr (Or.inl (by rw [hdelete]; decide)))
    · have hne : c.toNat ≠ 0x7F := fun heq => hdelete (Char.toNat_inj.mp heq)
      by_cases hlarge : 0x80 ≤ c.toNat
      · exact Or.inr (Or.inl hlarge)
      · refine Or.inl ?_
        rw [isGraphic, Bool.and_eq_true, decide_eq_true_iff, decide_eq_true_iff]
        omega

/-- A character that is not graphic is written in graphic ones where it is reserved. -/
theorem isGraphic_escapeChar {reserved : Char → Bool} {c : Char}
    (h : isGraphic c = true ∨ 0x80 ≤ c.toNat ∨ reserved c = true) :
    ∀ d ∈ escapeChar reserved c, isGraphic d = true := by
  have hdigit : ∀ n < 16, isGraphic (Hex.upper n) = true := by decide
  rw [escapeChar]
  split
  · intro d hd
    obtain ⟨b, -, hd⟩ := List.mem_flatMap.mp hd
    have hb : b.toNat < 256 := b.toNat_lt
    rw [escapeByte, List.mem_cons, List.mem_cons, List.mem_singleton] at hd
    rcases hd with rfl | rfl | rfl
    · decide
    · exact hdigit _ (by omega)
    · exact hdigit _ (by omega)
  · rename_i hplain
    rw [Bool.or_eq_true, decide_eq_true_iff, not_or] at hplain
    refine List.forall_mem_singleton.mpr ?_
    rcases h with hgraphic | hlarge | hreserved
    · exact hgraphic
    · exact absurd hlarge hplain.1
    · exact absurd hreserved hplain.2

/-- **Escapes are graphic** where the set covers what is not. -/
theorem isGraphic_escape {reserved : Char → Bool} (h : Reserved.Covers reserved)
    (cs : List Char) : ∀ c ∈ escape reserved cs, isGraphic c = true := by
  intro d hd
  obtain ⟨c, -, hd⟩ := List.mem_flatMap.mp hd
  refine isGraphic_escapeChar ?_ d hd
  rcases graphic_cases c with hgraphic | hlarge | hcontrol | rfl
  · exact Or.inl hgraphic
  · exact Or.inr (Or.inl hlarge)
  · exact Or.inr (Or.inr (h.controls c hcontrol))
  · exact Or.inr (Or.inr h.space)

theorem graphic_escape {reserved : Char → Bool} (h : Reserved.Covers reserved)
    (cs : List Char) : Graphic (String.ofList (escape reserved cs)) :=
  graphic_ofList (isGraphic_escape h cs)

/-! ## Paths -/

/-- The segments of a trail are graphic. -/
def Trail.Graphic (t : Trail) : Prop := ∀ name ∈ t.behind, Text.Graphic name

namespace Trail.Graphic

variable {t : Trail}

theorem enter (h : t.Graphic) {segment : List Char}
    (hsegment : ∀ c ∈ segment, isGraphic c = true) : (t.enter segment).Graphic :=
  List.forall_mem_cons.mpr ⟨graphic_ofList hsegment, h⟩

theorem leave (h : t.Graphic) : t.leave.Graphic :=
  fun name hname => h name (t.leave_subset hname)

end Trail.Graphic

/-- A drive is a letter and a colon. -/
theorem isGraphic_drive {part drive rest : List Char} (h : cutDrive? part = some (drive, rest)) :
    ∀ c ∈ drive, isGraphic c = true := by
  unfold cutDrive? at h
  split at h
  · cases h
  · split at h
    · split at h
      · rename_i hletter
        rw [Bool.and_eq_true, Bool.and_eq_true] at hletter
        obtain ⟨rfl, -⟩ := Prod.mk.inj (Option.some.inj h)
        refine List.forall_mem_cons.mpr
          ⟨isGraphic_of_isAlphanum ?_, List.forall_mem_singleton.mpr (by decide)⟩
        exact Bool.or_eq_true_iff.mpr (Or.inl hletter.1.1)
      · cases h
    · cases h

/-- A part of a path that is read is escaped. -/
theorem Trail.Graphic.read {t : Trail} (h : t.Graphic) {reserved : Char → Bool}
    (hreserved : Reserved.Covers reserved) (scheme : String) (isLast : Bool) (part : List Char) :
    (t.read scheme reserved isLast part).Graphic := by
  have hsegment := isGraphic_escape hreserved (withoutBreaks part)
  rw [Trail.read]
  dsimp only
  split
  · rename_i drive rest hcut
    have hdrive : cutDrive? part = some (drive, rest) :=
      (Option.ite_none_right_eq_some.mp hcut).2
    exact (h.enter (isGraphic_drive hdrive)).enter (isGraphic_escape hreserved _)
  · split
    · exact iteInduction (fun _ => h.leave.enter (List.forall_mem_nil _)) (fun _ => h.leave)
    · split
      · exact iteInduction (fun _ => h.enter (List.forall_mem_nil _)) (fun _ => h)
      · split
        · have hfront : ∀ c ∈ (escape reserved (withoutBreaks part)).take 1 ++ [':'],
              isGraphic c = true :=
            List.forall_mem_append.mpr ⟨fun c hc => hsegment c (List.mem_of_mem_take hc),
              List.forall_mem_singleton.mpr (by decide)⟩
          exact h.enter hfront
        · exact h.enter hsegment

/-- All parts of a path are escaped. -/
theorem Trail.Graphic.readAll {t : Trail} (h : t.Graphic) (scheme : String)
    (parts : List (List Char)) : (Trail.readAll scheme parts t).Graphic := by
  fun_induction Trail.readAll scheme parts t with
  | case1 => exact h
  | case2 => exact h.read Reserved.covers_path _ _ _
  | case3 t part rest _ ih => exact ih (h.read Reserved.covers_path _ _ _)

/-- The segments of a trail, in their order. -/
theorem Trail.Graphic.names {t : Trail} (h : t.Graphic) (scheme : String) :
    ∀ name ∈ t.names scheme, Text.Graphic name := by
  have hall : ∀ name ∈ t.behind.reverse, Text.Graphic name :=
    fun name hname => h name (List.mem_reverse.mp hname)
  rw [Trail.names]
  split
  · split
    · decide
    · exact fun name hname => hall name (List.dropWhile_subset _ hname)
  · exact hall

/-- A path that is read below graphic segments. -/
theorem graphic_scan (scheme : String) {done : List String} (hdone : ∀ name ∈ done, Graphic name)
    (cs : List Char) : (Path.scan scheme done cs).1.Graphic := by
  have hbegun : Trail.Graphic { behind := done.reverse } :=
    fun name hname => hdone name (List.mem_reverse.mp hname)
  exact hbegun.readAll scheme _

/-- One segment more. -/
theorem graphic_push (scheme : String) {names : List String} (h : ∀ name ∈ names, Graphic name)
    (text : String) : ∀ name ∈ Path.push scheme names text, Graphic name := by
  obtain ⟨kept, hkept, hpush | hpush⟩ := Path.push_cases scheme names text
  · rw [hpush]
    exact fun name hname => h name (hkept hname)
  · rw [hpush]
    refine Trail.Graphic.names (Trail.Graphic.read ?_ ?_ scheme true _) scheme
    · exact fun name hname => h name (hkept (List.mem_reverse.mp hname))
    · exact iteInduction (fun _ => Reserved.covers_specialSegment)
        (fun _ => Reserved.covers_segment)

/-- A slash at the end. -/
theorem graphic_withSlash (scheme : String) {names : List String}
    (h : ∀ name ∈ names, Graphic name) :
    ∀ name ∈ Path.withSlash scheme names, Graphic name := by
  rw [Path.withSlash]
  split
  · exact h
  · split
    · exact (graphic_scan scheme (List.forall_mem_nil _) _).names scheme
    · exact List.forall_mem_append.mpr ⟨h, by decide⟩

/-! ## Hosts -/

/-- An address in numbers has digits, full stops, and colons. -/
theorem graphic_ipv4 (n : Nat) : Graphic (Ipv4.write n) := by
  refine Graphic.intercalate (by decide) (List.forall_mem_map.mpr fun bit _ => ?_)
  exact graphic_number _

theorem graphic_writeRun (pieces : List Nat) : Graphic (Ipv6.writeRun pieces) := by
  refine Graphic.intercalate (by decide) (List.forall_mem_map.mpr fun n _ => ?_)
  exact graphic_ofList (isGraphic_digits (by omega) (by omega) n)

theorem graphic_ipv6 (pieces : List Nat) : Graphic (Ipv6.write pieces) := by
  rw [Ipv6.write]
  exact iteInduction (fun _ => graphic_writeRun _)
    (fun _ => ((graphic_writeRun _).append (by decide)).append (graphic_writeRun _))

/-- A domain name has only characters that are permitted in one. -/
theorem graphic_domain {bytes : List UInt8} {name : String}
    (h : Domain.toAscii? bytes = some name) : Graphic name := by
  simp only [Domain.toAscii?, Option.bind_eq_bind, Option.bind_eq_some_iff] at h
  obtain ⟨_, -, _, -, labels, -, h⟩ := h
  obtain ⟨hfits, h⟩ := Option.ite_none_left_eq_some.mp h
  rw [Bool.or_eq_true, not_or, Bool.not_eq_true', Bool.not_eq_false] at hfits
  rw [← Option.some.inj h]
  refine graphic_ofList fun c hc => ?_
  have hpermitted := List.all_eq_true.mp hfits.2 c hc
  rw [Domain.isPermitted, Bool.and_eq_true] at hpermitted
  exact hpermitted.1

theorem graphic_bracketHost {cs : List Char} {host : String} (h : bracketHost cs = .ok host) :
    Graphic host := by
  rw [bracketHost] at h
  split at h
  · split at h
    · rw [← Except.ok.inj h]
      exact (Graphic.append (by decide) (graphic_ipv6 _)).append (by decide)
    · exact nomatch h
  · exact nomatch h

/-- **Hosts under the special schemes are graphic.** -/
theorem graphic_specialHost {cs : List Char} {host : String} (h : specialHost cs = .ok host) :
    Graphic host := by
  rw [specialHost] at h
  split at h
  · exact graphic_bracketHost h
  · split at h
    · exact nomatch h
    · rename_i name hname
      split at h
      · exact nomatch h
      · split at h
        · split at h
          · rw [← Except.ok.inj h]
            exact graphic_ipv4 _
          · exact nomatch h
        · rw [← Except.ok.inj h]
          exact graphic_domain hname

/-- **Hosts under other schemes are graphic.** -/
theorem graphic_plainHost {cs : List Char} {host : String} (h : plainHost cs = .ok host) :
    Graphic host := by
  rw [plainHost] at h
  split at h
  · exact graphic_bracketHost h
  · split at h
    · exact nomatch h
    · rename_i hplain
      rw [← Except.ok.inj h]
      refine graphic_ofList fun d hd => ?_
      obtain ⟨c, hc, hd⟩ := List.mem_flatMap.mp hd
      refine isGraphic_escapeChar ?_ d hd
      rcases graphic_cases c with hgraphic | hlarge | hcontrol | rfl
      · exact Or.inl hgraphic
      · exact Or.inr (Or.inl hlarge)
      · exact Or.inr (Or.inr hcontrol)
      · -- a space is refused, since it is not escaped
        exact absurd (List.any_eq_true.mpr ⟨' ', hc, by decide⟩) hplain

/-! ## Authorities -/

/-- User, password and host are graphic. -/
structure Authority.Printable (a : Authority) : Prop where
  user : Graphic a.user
  password : Graphic a.password
  host : Graphic a.host

/-- An authority with a host that is graphic, behind user and password that are read. -/
theorem printable_authority {user rest : List Char} {host : String} (hhost : Graphic host)
    {number : Except Problem (Option Nat × List Char)} {a : Authority}
    (h : (number >>= fun found =>
      pure ({ readUser user with host := host, portNumber := found.1 }, found.2)) = .ok (a, rest)) :
    a.Printable := by
  obtain ⟨found, -, h⟩ := bind_eq_ok.mp h
  rw [← (Prod.mk.inj (Except.ok.inj h)).1]
  exact ⟨graphic_escape Reserved.covers_userInfo _, graphic_escape Reserved.covers_userInfo _,
    hhost⟩

/-- **An authority that is read is printable.** -/
theorem printable_readAuthority {scheme : String} {cs rest : List Char} {a : Authority}
    (h : readAuthority scheme cs = .ok (a, rest)) : a.Printable := by
  rw [readAuthority] at h
  dsimp only at h
  have h := not_thrown (not_thrown h)
  split at h
  · obtain ⟨host, hread, h⟩ := bind_eq_ok.mp h
    have hhost := graphic_specialHost hread
    have h := not_thrown h
    split at h
    · exact printable_authority hhost h
    · exact printable_authority hhost h
  · obtain ⟨host, hread, h⟩ := bind_eq_ok.mp h
    have hhost := graphic_plainHost hread
    have h := not_thrown h
    split at h
    · exact printable_authority hhost h
    · exact printable_authority hhost h

theorem Authority.Printable.write {a : Authority} (h : a.Printable) : Graphic a.write := by
  have huser : Graphic a.userInfo := by
    rw [userInfo]
    refine iteInduction (fun _ => by decide) (fun _ => ?_)
    have hpassword : Graphic (if a.password.isEmpty then "" else ":" ++ a.password) :=
      iteInduction (fun _ => by decide) (fun _ => Graphic.append (by decide) h.password)
    exact (h.user.append hpassword).append (by decide)
  have hnumber : Graphic ((a.portNumber.map fun n => ":" ++ toString n).getD "") := by
    cases a.portNumber with
    | none => decide
    | some n => exact Graphic.append (by decide) (graphic_number n)
  exact (huser.append h.host).append hnumber

/-! ## Addresses -/

/-- The parts of an address are graphic, but for a flat path. -/
structure Printable (u : Url) : Prop where
  scheme : Graphic u.scheme
  authority : ∀ a, u.authority = some a → a.Printable
  names : ∀ names, u.path = .segments names → ∀ name ∈ names, Graphic name
  query : ∀ text, u.query = some text → Graphic text
  fragment : ∀ text, u.fragment = some text → Graphic text

namespace Printable

variable {u : Url}

/-- **An address is written in graphic characters** if its parts are graphic. -/
theorem write (h : u.Printable) (hpath : u.HasSegments) : Graphic u.write := by
  obtain ⟨names, hnames⟩ := hpath
  have hend : ∀ {mark : String} {part : Option String}, Graphic mark →
      (∀ text, part = some text → Graphic text) → Graphic ((part.map (mark ++ ·)).getD "") := by
    intro mark part hmark hpart
    cases part with
    | none => exact (by decide : Graphic "")
    | some text => exact hmark.append (hpart text rfl)
  have hwritten : Graphic u.path.write := by
    rw [hnames]
    refine Graphic.join (List.forall_mem_map.mpr fun name hname => ?_)
    exact Graphic.append (by decide) (h.names names hnames name hname)
  rw [Url.write]
  refine ((((h.scheme.append (by decide)).append ?_).append hwritten).append
    (hend (by decide) h.query)).append (hend (by decide) h.fragment)
  split
  · rename_i a ha
    exact Graphic.append (by decide) (h.authority a ha).write
  · exact iteInduction (fun _ => by decide) (fun _ => by decide)

/-- A scheme alone. -/
theorem bare {scheme : String} (h : Graphic scheme) : (bare scheme).Printable where
  scheme := h
  authority := nofun
  names := by
    intro names hnames
    rw [← Path.segments.inj hnames]
    exact List.forall_mem_nil _
  query := nofun
  fragment := nofun

/-- Another path, of graphic segments. -/
theorem withSegments (h : u.Printable) {names : List String}
    (hnames : ∀ name ∈ names, Graphic name) :
    ({ u with path := .segments names } : Url).Printable where
  scheme := h.scheme
  authority := h.authority
  names := by
    intro others hothers
    rw [← Path.segments.inj hothers]
    exact hnames
  query := h.query
  fragment := h.fragment

/-- Another path, that is flat. -/
theorem withFlat (h : u.Printable) (text : String) :
    ({ u with path := .flat text } : Url).Printable where
  scheme := h.scheme
  authority := h.authority
  names := nofun
  query := h.query
  fragment := h.fragment

/-- Another authority, if it is printable. -/
theorem withAuthority (h : u.Printable) {a : Authority} (ha : a.Printable) :
    ({ u with authority := some a } : Url).Printable where
  scheme := h.scheme
  authority := by
    intro b hb
    rw [← Option.some.inj hb]
    exact ha
  names := h.names
  query := h.query
  fragment := h.fragment

end Printable

/-- A fragment that is read is escaped, and so is a query. -/
theorem graphic_readEnd (special : Bool) (cs : List Char) :
    (∀ text, (readEnd special cs).1 = some text → Graphic text) ∧
      ∀ text, (readEnd special cs).2 = some text → Graphic text := by
  have hfragment := graphic_escape Reserved.covers_fragment
  rw [readEnd.eq_def]
  dsimp only
  split
  · refine ⟨fun text h => ?_, fun text h => ?_⟩
    · rw [← Option.some.inj h]
      split
      · exact graphic_escape Reserved.covers_specialQuery _
      · exact graphic_escape Reserved.covers_query _
    · dsimp only at h
      split at h
      · rw [← Option.some.inj h]
        exact hfragment _
      · cases h
  · refine ⟨fun text h => ?_, fun text h => ?_⟩
    · cases h
    · dsimp only at h
      split at h
      · rw [← Option.some.inj h]
        exact hfragment _
      · cases h

theorem Printable.withEnd {u : Url} (h : u.Printable) (cs : List Char) :
    (u.withEnd cs).Printable where
  scheme := h.scheme
  authority := h.authority
  names := h.names
  query := (graphic_readEnd _ cs).1
  fragment := (graphic_readEnd _ cs).2

/-- A scheme is of letters, digits and three signs. -/
theorem graphic_scheme {cs rest : List Char} {scheme : String}
    (h : scheme? cs = some (scheme, rest)) : Graphic scheme := by
  rw [scheme?] at h
  obtain ⟨hname, h⟩ := Option.ite_none_right_eq_some.mp h
  rw [← (Prod.mk.inj (Option.some.inj h)).1]
  rw [Bool.and_eq_true] at hname
  refine graphic_ofList (List.forall_mem_map.mpr fun c hc => isGraphic_toLower ?_)
  have hpart := List.all_eq_true.mp hname.2 c hc
  simp only [Bool.or_eq_true, beq_iff_eq] at hpart
  rcases hpart with ((halphanum | rfl) | rfl) | rfl
  · exact isGraphic_of_isAlphanum halphanum
  · decide
  · decide
  · decide

/-- A host alone. -/
theorem printable_host {host : String} (h : Graphic host) :
    ({ host := host } : Authority).Printable :=
  ⟨(by decide : Graphic ""), (by decide : Graphic ""), h⟩

/-- The address of a file without a host. -/
theorem printable_localFile : localFile.Printable :=
  ((Printable.bare (by decide)).withAuthority (printable_host (by decide))).withSegments
    (by decide)

/-- **Every reader gives printable addresses.** -/
theorem printable_closed : Closed Printable where
  scheme h := .bare (graphic_scheme h)
  ofBase h := .bare h.scheme
  authority h read := h.withAuthority (printable_readAuthority read)
  flat h _ _ := h.withFlat _
  localFile := printable_localFile
  host h read := h.withAuthority (printable_host (graphic_specialHost read))
  path {u done} h below cs := by
    have hdone : ∀ name ∈ done, Graphic name := by
      intro name hname
      obtain ⟨u, names, hu, -, hpath, hmem⟩ := below name hname
      exact hu.names names hpath name hmem
    exact (h.withSegments ((graphic_scan _ hdone cs).names _)).withEnd _
  ending h cs := h.withEnd cs
  fragment h special cs :=
    ⟨h.scheme, h.authority, h.names, h.query, (graphic_readEnd special cs).2⟩
  withoutFragment h := ⟨h.scheme, h.authority, h.names, h.query, nofun⟩
  withSlash {u} h := by
    rw [Url.withSlash]
    split
    · rename_i names hpath
      exact h.withSegments (graphic_withSlash _ (h.names names hpath))
    · exact iteInduction (fun _ => h) (fun _ => h.withFlat _)

end Url

end Postbox
