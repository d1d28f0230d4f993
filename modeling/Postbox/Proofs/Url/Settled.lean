import Postbox.Proofs.Collection
import Postbox.Proofs.Printable

/-! # Settled addresses — parts that need no more escapes

    What a reader gives is read again as itself only if nothing in it would be taken
    otherwise the second time: no character is to be escaped (`Url.Clear`), no segment has
    a slash in it or stands for dots, the TCP number is not that of the scheme, and the host
    is one that was read.  Addresses of the web are settled in this sense
    (`Url.Settled.collection`), and with one segment more they are still
    (`Url.Settled.pushed`).

    Files and other schemes are left out: a drive may be cut off in front of two dots, and a
    flat path is not escaped like the others. -/

namespace Postbox

namespace Url

/-! ## Clear texts -/

/-- Nothing is to be escaped: all characters are of ASCII, and none is in the set. -/
def Clear (reserved : Char → Bool) (cs : List Char) : Prop :=
  ∀ c ∈ cs, c.toNat < 0x80 ∧ reserved c = false

/-- A clear text is written as it is. -/
theorem Clear.escape_eq {reserved : Char → Bool} {cs : List Char} (h : Clear reserved cs) :
    escape reserved cs = cs := by
  induction cs with
  | nil => rfl
  | cons c cs ih =>
      obtain ⟨hc, hcs⟩ := List.forall_mem_cons.mp h
      rw [escape, List.flatMap_cons, show cs.flatMap _ = escape reserved cs from rfl, ih hcs,
        escapeChar, hc.2, Bool.or_false, if_neg (by simpa using hc.1)]
      rfl

/-- The characters of which escapes are made. -/
def escapeChars : List Char := "%0123456789ABCDEF".toList

/-- What is written is an escape's, or it was there and is not in the set. -/
theorem mem_escape {reserved : Char → Bool} {cs : List Char} {d : Char}
    (h : d ∈ escape reserved cs) :
    d ∈ escapeChars ∨ d ∈ cs ∧ d.toNat < 0x80 ∧ reserved d = false := by
  have hdigit : ∀ n < 16, Hex.upper n ∈ escapeChars := by decide
  obtain ⟨c, hc, hd⟩ := List.mem_flatMap.mp h
  rw [escapeChar] at hd
  split at hd
  · obtain ⟨b, -, hd⟩ := List.mem_flatMap.mp hd
    have hb : b.toNat < 256 := b.toNat_lt
    rw [escapeByte, List.mem_cons, List.mem_cons, List.mem_singleton] at hd
    rcases hd with rfl | rfl | rfl
    · exact Or.inl (by decide)
    · exact Or.inl (hdigit _ (by omega))
    · exact Or.inl (hdigit _ (by omega))
  · rename_i hplain
    rw [Bool.or_eq_true, decide_eq_true_iff, not_or, Bool.not_eq_true] at hplain
    obtain rfl := List.mem_singleton.mp hd
    exact Or.inr ⟨hc, Nat.lt_of_not_le hplain.1, hplain.2⟩

/-- **Escapes are clear** for each set that has none of their characters, if what is in this set
    and in the text is escaped. -/
theorem clear_escape {reserved settled : Char → Bool}
    (hspared : escapeChars.any settled = false) {cs : List Char}
    (h : ∀ c ∈ cs, settled c = true → reserved c = true) :
    Clear settled (escape reserved cs) := by
  have hascii : ∀ c ∈ escapeChars, c.toNat < 0x80 := Text.forall_mem_of_all (by decide)
  intro d hd
  rcases mem_escape hd with hescape | ⟨hmem, hlow, hplain⟩
  · exact ⟨hascii d hescape, Bool.eq_false_iff.mpr (List.any_eq_false.mp hspared d hescape)⟩
  · refine ⟨hlow, Bool.eq_false_iff.mpr fun hsettled => ?_⟩
    rw [h d hmem hsettled] at hplain
    exact nomatch hplain

/-- A text is escaped once. -/
theorem clear_escape_self {reserved : Char → Bool}
    (hspared : escapeChars.any reserved = false) (cs : List Char) :
    Clear reserved (String.ofList (escape reserved cs)).toList := by
  rw [String.toList_ofList]
  exact clear_escape hspared fun _ _ h => h

theorem clear_nil (reserved : Char → Bool) : Clear reserved [] := List.forall_mem_nil _

/-! ## Segments -/

/-- What is not in a segment under a special scheme: the set of the path, and slashes. -/
def Reserved.name (c : Char) : Bool := Reserved.path c || isSlash true c

/-- The set of an added segment has all that is not in a segment. -/
theorem Reserved.specialSegment_of_name {c : Char} (h : name c = true) :
    specialSegment c = true := by
  simp only [specialSegment, segment, name, isSlash, Bool.true_and, Bool.or_eq_true] at h ⊢
  rcases h with hpath | hslash | hback
  · exact Or.inl (Or.inl (Or.inl hpath))
  · exact Or.inl (Or.inl (Or.inr hslash))
  · exact Or.inr hback

/-- A segment that is read as it is: it is clear, and has none of the meanings of dots. -/
structure SettledName (name : String) : Prop where
  clear : Clear Reserved.name name.toList
  notAbove : isAbove name.toList = false
  notHere : isHere name.toList = false

/-- An empty segment is read as it is. -/
theorem settledName_empty : SettledName "" where
  clear := clear_nil _
  notAbove := rfl
  notHere := rfl

/-- The segments of a trail are read as they are. -/
def Trail.Settled (t : Trail) : Prop := ∀ name ∈ t.behind, SettledName name

namespace Trail.Settled

variable {t : Trail}

theorem enter (h : t.Settled) {segment : List Char}
    (hsegment : SettledName (String.ofList segment)) : (t.enter segment).Settled :=
  List.forall_mem_cons.mpr ⟨hsegment, h⟩

theorem leave (h : t.Settled) : t.leave.Settled :=
  fun name hname => h name (t.leave_subset hname)

end Trail.Settled

/-- A part of a path that is no file's. -/
theorem Trail.read_eq {scheme : String} (hs : (scheme == "file") = false)
    (reserved : Char → Bool) (isLast : Bool) (part : List Char) (t : Trail) :
    t.read scheme reserved isLast part
      = (let segment := escape reserved (withoutBreaks part)
        if isAbove segment then (if isLast then t.leave.enter [] else t.leave)
        else if isHere segment then (if isLast then t.enter [] else t)
        else t.enter segment) := by
  rw [Trail.read, hs]
  rfl

section

variable {scheme : String} (hs : (scheme == "file") = false)

include hs

/-- A part is read as settled, if what is not in a segment is escaped in it. -/
theorem Trail.Settled.read {t : Trail} (h : t.Settled) {reserved : Char → Bool} {part : List Char}
    (hpart : ∀ c ∈ part, Reserved.name c = true → reserved c = true) (isLast : Bool) :
    (t.read scheme reserved isLast part).Settled := by
  have hempty : SettledName (String.ofList []) := settledName_empty
  rw [Trail.read_eq hs]
  dsimp only
  split
  · exact iteInduction (fun _ => h.leave.enter hempty) (fun _ => h.leave)
  · rename_i habove
    split
    · exact iteInduction (fun _ => h.enter hempty) (fun _ => h)
    · rename_i hhere
      refine h.enter ⟨?_, ?_, ?_⟩
      · rw [String.toList_ofList]
        exact clear_escape (by decide) fun c hc => hpart c (List.mem_filter.mp hc).1
      · rw [String.toList_ofList]
        exact Bool.eq_false_iff.mpr habove
      · rw [String.toList_ofList]
        exact Bool.eq_false_iff.mpr hhere

/-- All parts of a path are read as settled, if there are no slashes in them. -/
theorem Trail.Settled.readAll {t : Trail} (h : t.Settled) {parts : List (List Char)}
    (hparts : ∀ part ∈ parts, ∀ c ∈ part, isSlash true c = false) :
    (Trail.readAll scheme parts t).Settled := by
  have hreserved : ∀ part ∈ parts, ∀ c ∈ part, Reserved.name c = true →
      Reserved.path c = true := by
    intro part hpart c hc hname
    rw [Reserved.name, hparts part hpart c hc, Bool.or_false] at hname
    exact hname
  clear hparts
  fun_induction Trail.readAll scheme parts t with
  | case1 => exact h
  | case2 last t => exact h.read hs (hreserved last List.mem_cons_self) true
  | case3 part rest t _ ih =>
      refine ih (h.read hs (hreserved part List.mem_cons_self) false) fun other hother => ?_
      exact hreserved other (List.mem_cons_of_mem _ hother)

theorem Trail.Settled.names {t : Trail} (h : t.Settled) :
    ∀ name ∈ t.names scheme, SettledName name := by
  rw [Trail.names, hs, if_neg Bool.false_ne_true]
  exact fun name hname => h name (List.mem_reverse.mp hname)

end

/-- A path is read as settled below settled segments. -/
theorem settled_scan {scheme : String} (hspecial : isSpecial scheme = true)
    (hs : (scheme == "file") = false) {done : List String}
    (hdone : ∀ name ∈ done, SettledName name) (cs : List Char) :
    (Path.scan scheme done cs).1.Settled := by
  have hbegun : Trail.Settled { behind := done.reverse } :=
    fun name hname => hdone name (List.mem_reverse.mp hname)
  rw [Path.scan]
  dsimp only
  rw [hspecial]
  exact hbegun.readAll hs fun part hpart c hc => (Text.forall_mem_splitOnP _ _ part hpart c hc).2

/-! ## Authorities -/

/-- User and password are clear, the host is one that was read, and the TCP number is another one
    than the scheme has. -/
structure Authority.Settled (scheme : String) (a : Authority) : Prop where
  user : Clear Reserved.userInfo a.user.toList
  password : Clear Reserved.userInfo a.password.toList
  host : ∃ cs, specialHost cs = .ok a.host
  portNumber : ∀ n, a.portNumber = some n → n ≤ 65535 ∧ defaultPortNumber? scheme ≠ some n

/-- A TCP number that is read is not too large, and is not that of the scheme. -/
theorem settled_portNumber {scheme : String} {cs rest : List Char} {number : Option Nat}
    (h : readPortNumber scheme cs = .ok (number, rest)) :
    ∀ n, number = some n → n ≤ 65535 ∧ defaultPortNumber? scheme ≠ some n := by
  obtain ⟨hfits, h⟩ := not_refused h
  rintro n rfl
  obtain ⟨hother, hn⟩ := Option.ite_none_left_eq_some.mp (Prod.mk.inj (Except.ok.inj h)).1
  obtain rfl := Option.some.inj hn
  rw [Bool.or_eq_true, not_or, decide_eq_true_iff] at hfits
  rw [Bool.or_eq_true, not_or] at hother
  exact ⟨Nat.le_of_not_lt hfits.1, fun heq => hother.2 (beq_iff_eq.mpr heq)⟩

/-- An authority with a host that was read, behind user and password that are read. -/
theorem settled_authority {scheme : String} {user cs rest : List Char} {host : String}
    (hhost : specialHost cs = .ok host) {number : Except Problem (Option Nat × List Char)}
    (hnumber : ∀ found, number = .ok found → ∀ n, found.1 = some n →
      n ≤ 65535 ∧ defaultPortNumber? scheme ≠ some n) {a : Authority}
    (h : (number >>= fun found =>
      pure ({ readUser user with host := host, portNumber := found.1 }, found.2)) = .ok (a, rest)) :
    a.Settled scheme := by
  obtain ⟨found, hfound, h⟩ := bind_eq_ok.mp h
  rw [← (Prod.mk.inj (Except.ok.inj h)).1]
  exact ⟨clear_escape_self (by decide) _, clear_escape_self (by decide) _, ⟨cs, hhost⟩,
    hnumber found hfound⟩

/-- **An authority that is read is settled.** -/
theorem settled_readAuthority {scheme : String} (hspecial : isSpecial scheme = true)
    {cs rest : List Char} {a : Authority} (h : readAuthority scheme cs = .ok (a, rest)) :
    a.Settled scheme := by
  rw [readAuthority] at h
  dsimp only at h
  have h := not_thrown (not_thrown h)
  rw [if_pos hspecial] at h
  obtain ⟨host, hhost, h⟩ := bind_eq_ok.mp h
  have h := not_thrown h
  split at h
  · exact settled_authority hhost (fun _ => settled_portNumber) h
  · refine settled_authority hhost (fun found hfound n hn => ?_) h
    rw [← Except.ok.inj hfound] at hn
    cases hn

/-! ## Addresses -/

/-- An address whose parts are read as they are. -/
structure Settled (u : Url) : Prop where
  authority : ∀ a, u.authority = some a → a.Settled u.scheme
  names : ∀ names, u.path = .segments names → ∀ name ∈ names, SettledName name
  query : ∀ text, u.query = some text → Clear Reserved.specialQuery text.toList
  fragment : ∀ text, u.fragment = some text → Clear Reserved.fragment text.toList

/-- A fragment that is read is clear. -/
theorem clear_fragment {rest : List Char} {text : String}
    (h : (match rest with
      | '#' :: text => some (String.ofList (escape Reserved.fragment text))
      | _ => none) = some text) : Clear Reserved.fragment text.toList := by
  split at h
  · rw [← Option.some.inj h]
    exact clear_escape_self (by decide) _
  · cases h

/-- Query and fragment that are read under a special scheme are clear. -/
theorem clear_readEnd (cs : List Char) :
    (∀ text, (readEnd true cs).1 = some text → Clear Reserved.specialQuery text.toList) ∧
      ∀ special text, (readEnd special cs).2 = some text → Clear Reserved.fragment text.toList := by
  constructor
  · intro text h
    rw [readEnd.eq_def] at h
    dsimp only at h
    split at h
    · rw [← Option.some.inj h]
      exact clear_escape_self (by decide) _
    · cases h
  · intro special text h
    rw [readEnd.eq_def] at h
    dsimp only at h
    split at h
    · exact clear_fragment h
    · exact clear_fragment h

namespace Settled

variable {u : Url}

theorem bare (scheme : String) : (bare scheme).Settled where
  authority := nofun
  names := by
    intro names hnames
    rw [← Path.segments.inj hnames]
    exact List.forall_mem_nil _
  query := nofun
  fragment := nofun

theorem withAuthority (h : u.Settled) {a : Authority} (ha : a.Settled u.scheme) :
    ({ u with authority := some a } : Url).Settled where
  authority := by
    intro b hb
    rw [← Option.some.inj hb]
    exact ha
  names := h.names
  query := h.query
  fragment := h.fragment

/-- Another path, of segments that are read as they are. -/
theorem withSegments (h : u.Settled) {names : List String}
    (hnames : ∀ name ∈ names, SettledName name) :
    ({ u with path := .segments names } : Url).Settled where
  authority := h.authority
  names := by
    intro others hothers
    rw [← Path.segments.inj hothers]
    exact hnames
  query := h.query
  fragment := h.fragment

/-- A flat path is not looked at. -/
theorem withFlat (h : u.Settled) (text : String) :
    ({ u with path := .flat text } : Url).Settled where
  authority := h.authority
  names := nofun
  query := h.query
  fragment := h.fragment

theorem withEnd (h : u.Settled) (hspecial : isSpecial u.scheme = true) (cs : List Char) :
    (u.withEnd cs).Settled where
  authority := h.authority
  names := h.names
  query := by
    intro text htext
    refine (clear_readEnd cs).1 text ?_
    rw [← hspecial]
    exact htext
  fragment := (clear_readEnd cs).2 _

/-- **The address with one segment more is settled**, whatever the text. -/
theorem pushed (h : u.Settled) (hhttp : u.isHttp = true) {names : List String}
    (hpath : u.path = .segments names) (text : String) :
    ({ u with path := .segments (Path.push u.scheme names text) } : Url).Settled := by
  obtain ⟨hspecial, hfile⟩ := special_of_isHttp hhttp
  refine h.withSegments ?_
  obtain ⟨kept, hkept, hpush | hpush⟩ := Path.push_cases u.scheme names text
  · rw [hpush]
    exact fun name hname => h.names names hpath name (hkept hname)
  · rw [hpush, hspecial]
    refine Trail.Settled.names hfile (Trail.Settled.read hfile ?_ ?_ true)
    · exact fun name hname => h.names names hpath name (hkept (List.mem_reverse.mp hname))
    · exact fun c _ hc => Reserved.specialSegment_of_name hc

end Settled

/-- A slash at the end changes neither the scheme nor the authority. -/
theorem withSlash_kept (u : Url) :
    u.withSlash.scheme = u.scheme ∧ u.withSlash.authority = u.authority := by
  rw [withSlash]
  split
  · exact ⟨rfl, rfl⟩
  · split
    · exact ⟨rfl, rfl⟩
    · exact ⟨rfl, rfl⟩

/-- **Every reader gives settled addresses of the web.** -/
theorem settled_closed : Closed fun u => u.isHttp = true → u.Settled where
  scheme _ _ := .bare _
  ofBase _ _ := .bare _
  authority {scheme} _ _ _ h read hhttp :=
    (h hhttp).withAuthority (settled_readAuthority (special_of_isHttp hhttp).1 read)
  flat {scheme} _ plain _ hhttp := by
    have hspecial : isSpecial scheme = true := (special_of_isHttp hhttp).1
    rw [plain] at hspecial
    cases hspecial
  localFile := nofun
  host {u cs name} h read hhttp := by
    refine (h hhttp).withAuthority ⟨clear_nil _, clear_nil _, ⟨cs, read⟩, nofun⟩
  -- the segments that stay are those of addresses that were read before
  path {u done} h below cs hhttp := by
    obtain ⟨hspecial, hfile⟩ := special_of_isHttp (u := u) hhttp
    have hdone : ∀ name ∈ done, SettledName name := by
      intro name hname
      obtain ⟨v, names, hv, hscheme, hpath, hmem⟩ := below name hname
      have hweb : v.isHttp = true := by
        rw [isHttp, hscheme]
        exact hhttp
      exact (hv hweb).names names hpath name hmem
    refine ((h hhttp).withSegments ((settled_scan hspecial hfile hdone cs).names hfile)).withEnd ?_ _
    exact hspecial
  ending {u} h cs hhttp := (h hhttp).withEnd (special_of_isHttp (u := u) hhttp).1 cs
  fragment {u} h special cs hhttp :=
    ⟨(h hhttp).authority, (h hhttp).names, (h hhttp).query, (clear_readEnd cs).2 special⟩
  withoutFragment {u} h hhttp := ⟨(h hhttp).authority, (h hhttp).names, (h hhttp).query, nofun⟩
  withSlash {u} h hhttp := by
    have hweb : u.isHttp = true := by
      rw [isHttp, u.withSlash_kept.1] at hhttp
      exact hhttp
    have hnames := (h hweb).names
    rw [withSlash]
    split
    · rename_i names hpath
      rw [Path.withSlash_eq (special_of_isHttp hweb).2]
      have hstem : ∀ name ∈ Path.stem names, SettledName name := by
        rw [Path.stem]
        split
        · exact fun name hname => hnames names hpath name (List.dropLast_subset _ hname)
        · exact hnames names hpath
      exact (h hweb).withSegments (List.forall_mem_append.mpr
        ⟨hstem, List.forall_mem_singleton.mpr settledName_empty⟩)
    · exact iteInduction (fun _ => h hweb) (fun _ => (h hweb).withFlat _)

/-! ## Addresses with an authority -/

/-- What is read behind two slashes has the scheme and an authority. -/
theorem authority_readHierarchy {scheme : String} {cs : List Char} {u : Url}
    (h : readHierarchy scheme cs = .ok u) :
    u.scheme = scheme ∧ ∃ a, u.authority = some a := by
  obtain ⟨⟨authority, rest⟩, -, h⟩ := bind_eq_ok.mp h
  cases rest with
  | nil =>
      rw [← Except.ok.inj h]
      split
      · exact ⟨rfl, authority, rfl⟩
      · exact ⟨rfl, authority, rfl⟩
  | cons c behind =>
      dsimp only at h
      split at h
      · rw [← Except.ok.inj h]
        exact ⟨rfl, authority, rfl⟩
      · split at h
        · rw [← Except.ok.inj h]
          exact ⟨rfl, authority, rfl⟩
        · rw [← Except.ok.inj h]
          exact ⟨rfl, authority, rfl⟩

/-- What is read relative to an address has its scheme, and an authority if that has one. -/
theorem authority_readRelative {base u : Url} {names : List String} {cs : List Char}
    (h : readRelative base names cs = .ok u) :
    u.scheme = base.scheme ∧
      ((∃ a, base.authority = some a) → ∃ a, u.authority = some a) := by
  unfold readRelative at h
  split at h
  · rw [← Except.ok.inj h]
    exact ⟨rfl, id⟩
  · rw [← Except.ok.inj h]
    exact ⟨rfl, id⟩
  · rw [← Except.ok.inj h]
    exact ⟨rfl, id⟩
  · split at h
    · split at h
      · exact (authority_readHierarchy h).imp id fun ha _ => ha
      · dsimp only at h
        split at h
        · exact (authority_readHierarchy h).imp id fun ha _ => ha
        · rw [← Except.ok.inj h]
          exact ⟨rfl, id⟩
    · rw [← Except.ok.inj h]
      exact ⟨rfl, id⟩

/-- What is read outside of the special schemes has the scheme. -/
theorem scheme_readPlain {scheme : String} {cs : List Char} {u : Url}
    (h : readPlain scheme cs = .ok u) : u.scheme = scheme := by
  unfold readPlain at h
  split at h
  · exact (authority_readHierarchy h).1
  · rw [← Except.ok.inj h]
    rfl
  · rw [← Except.ok.inj h]
    rfl

/-- What is read below a file is a file. -/
theorem scheme_readFileBelow {base : Url} (hb : base.scheme = "file") (names : List String)
    (cs : List Char) : (readFileBelow base names cs).scheme = "file" := by
  unfold readFileBelow
  split
  · exact hb
  · exact hb
  · exact hb
  · split
    · dsimp only
      split
      · rfl
      · split
        · exact hb
        · rfl
    · split
      · rfl
      · split
        · exact hb
        · exact hb

/-- What is read as a file is one. -/
theorem scheme_readFile {base : Option Url} (hb : ∀ b, base = some b → b.scheme = "file")
    {cs : List Char} {u : Url} (h : readFile base cs = .ok u) : u.scheme = "file" := by
  have hbase : (base.getD localFile).scheme = "file" := by
    cases base with
    | none => rfl
    | some b => exact hb b rfl
  unfold readFile at h
  dsimp only at h
  split at h
  · rw [← Except.ok.inj h]
    exact scheme_readFileBelow hbase _ _
  · split at h
    · rw [← Except.ok.inj h]
      exact scheme_readFileBelow hbase _ _
    · split at h
      · rw [readFileHost] at h
        dsimp only at h
        split at h
        · rw [← Except.ok.inj h]
          rfl
        · obtain ⟨name, -, h⟩ := bind_eq_ok.mp h
          rw [← Except.ok.inj h]
          exact iteInduction (motive := fun v : Url => v.scheme = "file") (fun _ => rfl)
            (fun _ => rfl)
      · rw [← Except.ok.inj h]
        exact scheme_readFileBelow hbase _ _

/-- **An address of the web has an authority**, if the one that it is relative to has. -/
theorem authority_readWith {base : Option Url} {cs : List Char} {u : Url}
    (hb : ∀ b, base = some b → b.isHttp = true → ∃ a, b.authority = some a)
    (h : readWith base cs = .ok u) (hhttp : u.isHttp = true) : ∃ a, u.authority = some a := by
  obtain ⟨hspecial, hfile⟩ := special_of_isHttp hhttp
  have hrelative : ∀ {b names rest}, base = some b → readRelative b names rest = .ok u →
      ∃ a, u.authority = some a := by
    intro b names rest hbase hread
    obtain ⟨hscheme, ha⟩ := authority_readRelative hread
    refine ha (hb b hbase ?_)
    rw [isHttp, ← hscheme]
    exact hhttp
  -- a file is none of the web, whatever it was read below
  have hnofile : ∀ {found : Option Url} {rest}, (∀ b, found = some b → b.scheme = "file") →
      readFile found rest ≠ .ok u := by
    intro found rest hfound hread
    rw [scheme_readFile hfound hread] at hfile
    exact nomatch hfile
  unfold readWith at h
  split at h
  · exact absurd h (hnofile fun b hbase => beq_iff_eq.mp (Option.filter_eq_some_iff.mp hbase).2)
  · unfold readBehindScheme at h
    split at h
    · dsimp only at h
      split at h
      · split at h
        · exact hrelative rfl h
        · exact (authority_readHierarchy h).2
      · exact (authority_readHierarchy h).2
    · rename_i hplain
      rw [← scheme_readPlain h] at hplain
      exact absurd hspecial hplain
  · exact nomatch h
  · rename_i b _
    unfold readBelow at h
    split at h
    · rw [← Except.ok.inj h] at hhttp ⊢
      exact hb b rfl hhttp
    · exact nomatch h
    · split at h
      · rename_i hscheme
        refine absurd h (hnofile fun found hfound => ?_)
        rw [← Option.some.inj hfound]
        exact beq_iff_eq.mp hscheme
      · exact hrelative rfl h

end Url

/-- **The collection of a service on the web** is settled and has an authority. -/
theorem Remote.settled_collection {s : Settings} {r : Remote} (accepted : ofSettings s = .ok r)
    (hhttp : r.collection.isHttp = true) :
    r.collection.Settled ∧ ∃ a, r.collection.authority = some a := by
  refine ⟨Url.settled_closed.collection accepted hhttp, ?_⟩
  have hurl := ofSettings_collection accepted
  cases hbase : Url.read s.baseUrl with
  | error p =>
      rw [Settings.collectionUrl, hbase] at hurl
      cases hurl
  | ok base =>
      rw [Settings.collectionUrl_of_base hbase] at hurl
      refine Url.authority_readWith (fun b hb hweb => ?_) (mapError_eq_ok.mp hurl) hhttp
      obtain rfl := Option.some.inj hb
      obtain ⟨hscheme, hauthority⟩ := base.withSlash_kept
      rw [Url.isHttp, hscheme] at hweb
      rw [hauthority]
      refine Url.authority_readWith ?_ hbase hweb
      intro b hb
      cases hb

end Postbox
