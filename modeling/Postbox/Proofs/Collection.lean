import Mathlib.Data.List.TakeWhile
import Postbox.Proofs.Exchange
import Postbox.Proofs.Segment

/-! # Collection — where the REST path leads to

    The REST path is resolved as an address relative to the base address, so it stays
    below it only as long as it is a path: no scheme and no slash in front, no query
    and no fragment, and no more dots that lead up than segments before them
    (`Url.LeadsBelow`).

    A path is read part by part.  The segments above the place where the reading began
    are a suffix of the trail, and the parts read since then stand in front of it
    (`Trail.Keeps`).  Two dots take one of these away, so the suffix is kept while there
    is one, which is what `staysBelow` counts. -/

namespace Postbox

namespace Url

/-! ## Trails -/

/-- Parts of a path, read `depth` segments below a place, never lead above that place. -/
def staysBelow : Nat → List (List Char) → Bool
  | _, [] => true
  | depth, part :: parts =>
    let segment := escape Reserved.path (withoutBreaks part)
    if isAbove segment then 0 < depth && staysBelow (depth - 1) parts
    else if isHere segment then staysBelow depth parts
    else staysBelow (depth + 1) parts

/-- The segments of a trail are those above a place and at least `depth` others. -/
def Trail.Keeps (above : List String) (depth : Nat) (t : Trail) : Prop :=
  ∃ done, t.behind = done ++ above ∧ depth ≤ done.length

namespace Trail

variable {above : List String} {depth : Nat} {t : Trail}

theorem Keeps.enter (h : t.Keeps above depth) (segment : List Char) :
    (t.enter segment).Keeps above (depth + 1) := by
  obtain ⟨done, hbehind, hdepth⟩ := h
  refine ⟨String.ofList segment :: done, ?_, Nat.succ_le_succ hdepth⟩
  rw [Trail.enter, hbehind, List.cons_append]

theorem Keeps.leave (h : t.Keeps above depth) (hpos : 0 < depth) :
    t.leave.Keeps above (depth - 1) := by
  obtain ⟨done, hbehind, hdepth⟩ := h
  cases done with
  | nil => exact absurd (Nat.lt_of_lt_of_le hpos hdepth) (Nat.lt_irrefl 0)
  | cons last done =>
      rw [List.length_cons] at hdepth
      rw [Trail.leave, hbehind]
      dsimp only [List.cons_append]
      -- a drive is held, and then there is one segment more than counted
      split
      · exact ⟨last :: done, hbehind, by rw [List.length_cons]; omega⟩
      · exact ⟨done, rfl, by omega⟩

/-- A part that is not the last of a path, and is no drive. -/
theorem read_part {scheme : String} (hs : (scheme == "file") = false) (part : List Char) :
    t.read scheme Reserved.path false part
      = (let segment := escape Reserved.path (withoutBreaks part)
        if isAbove segment then t.leave else if isHere segment then t else t.enter segment) := by
  rw [Trail.read, hs]
  rfl

theorem readAll_cons (scheme : String) (part : List Char) {parts : List (List Char)}
    (h : parts ≠ []) : readAll scheme (part :: parts) t
      = readAll scheme parts (t.read scheme Reserved.path false part) := by
  cases parts with
  | nil => exact absurd rfl h
  | cons _ _ => rfl

/-- **Parts that stay below a place keep what is above it.**  The last part of the path is
    empty: the path ends in a slash. -/
theorem readAll_keeps {scheme : String} (hs : (scheme == "file") = false)
    (parts : List (List Char)) {depth : Nat} {t : Trail} (ht : t.Keeps above depth)
    (hparts : staysBelow depth (parts ++ [[]]) = true) :
    ∃ done, (readAll scheme (parts ++ [[]]) t).behind = "" :: (done ++ above) := by
  induction parts generalizing depth t with
  | nil =>
      obtain ⟨done, hbehind, -⟩ := ht
      refine ⟨done, ?_⟩
      rw [List.nil_append, readAll, Trail.read, hs, ← hbehind]
      rfl
  | cons part parts ih =>
      rw [List.cons_append, readAll_cons _ _ (by simp), read_part hs]
      rw [List.cons_append, staysBelow] at hparts
      dsimp only at hparts ⊢
      -- a part leads up, stays, or leads down; the depth says how far up it may go
      by_cases habove : isAbove (escape Reserved.path (withoutBreaks part)) = true
      · rw [if_pos habove] at hparts ⊢
        obtain ⟨hpos, hrest⟩ := Bool.and_eq_true_iff.mp hparts
        exact ih (ht.leave (of_decide_eq_true hpos)) hrest
      · rw [if_neg habove] at hparts ⊢
        by_cases hhere : isHere (escape Reserved.path (withoutBreaks part)) = true
        · rw [if_pos hhere] at hparts ⊢
          exact ih ht hparts
        · rw [if_neg hhere] at hparts ⊢
          exact ih (ht.enter _) hparts

end Trail

/-! ## Paths -/

theorem Path.write_append (names more : List String) :
    (Path.segments (names ++ more)).write
      = (Path.segments names).write ++ (Path.segments more).write := by
  rw [Path.write, List.map_append, String.join_append]
  rfl

/-- What is written of a path that ends in a slash. -/
theorem Path.write_slash (names : List String) :
    (Path.segments (names ++ [""])).write = (Path.segments names).write ++ "/" := by
  rw [write_append]
  rfl

/-- Outside of files a slash is added to a path that ends in none. -/
theorem Path.withSlash_eq {scheme : String} (hs : (scheme == "file") = false)
    (names : List String) : withSlash scheme names = stem names ++ [""] := by
  rw [withSlash, stem]
  by_cases hlast : names.getLast? = some ""
  · obtain ⟨front, rfl⟩ := List.getLast?_eq_some_iff.mp hlast
    rw [if_pos (beq_iff_eq.mpr hlast), if_pos hlast, List.dropLast_concat]
  · rw [if_neg (fun h => hlast (beq_iff_eq.mp h)), hs, if_neg hlast, if_neg Bool.false_ne_true]

/-! ## Relative addresses -/

/-- A text that leads below any address that it is relative to: it has no scheme and no slash of
    either kind in front, no query and no fragment, and its dots do not lead out. -/
structure LeadsBelow (s : String) : Prop where
  scheme : scheme? (clean s) = none
  slash : (withoutBreaks (clean s)).head?.any (isSlash true) = false
  plain : (withoutBreaks (clean s)).any (fun c => c == '?' || c == '#') = false
  dots : staysBelow 0 ((withoutBreaks (clean s)).splitOnP (isSlash true)) = true

/-- A slash at the end is no blank, so it is kept. -/
theorem clean_slash (front : List Char) :
    ∃ front', withoutBreaks (clean (String.ofList (front ++ ['/']))) = front' ++ ['/'] := by
  have hdrop : ∃ behind, (front ++ ['/']).dropWhile (fun c => decide (c.toNat ≤ 0x20))
      = behind ++ ['/'] := by
    rw [List.dropWhile_append]
    split
    · exact ⟨[], rfl⟩
    · exact ⟨_, rfl⟩
  obtain ⟨behind, hbehind⟩ := hdrop
  refine ⟨withoutBreaks behind, ?_⟩
  rw [clean, Text.strip, String.toList_ofList, hbehind, List.reverse_append]
  show withoutBreaks ((('/' :: behind.reverse).dropWhile _).reverse) = _
  rw [List.dropWhile_cons_of_neg (by decide), List.reverse_cons, List.reverse_reverse,
    withoutBreaks, List.filter_append]
  rfl

/-- A text without a scheme is read below the address that it is relative to. -/
theorem join_schemeless {u : Url} {s : String} (h : scheme? (clean s) = none) :
    u.join s = readBelow u (clean s) := by
  unfold join readWith
  rw [h]

section

variable {u : Url} (hhttp : u.isHttp = true)

include hhttp

theorem special_of_isHttp : isSpecial u.scheme = true ∧ (u.scheme == "file") = false := by
  rcases Bool.or_eq_true_iff.mp hhttp with h | h
  · rw [beq_iff_eq.mp h]
    exact ⟨rfl, rfl⟩
  · rw [beq_iff_eq.mp h]
    exact ⟨rfl, rfl⟩

/-- A path that is read below some segments and stays there, with a slash at its end. -/
theorem withPath_below (names : List String) {front : List Char}
    (hplain : (front ++ ['/']).any (fun c => c == '?' || c == '#') = false)
    (hdots : staysBelow 0 ((front ++ ['/']).splitOnP (isSlash true)) = true) :
    ∃ below, u.withPath names (front ++ ['/'])
      = { u with path := .segments (names ++ below ++ [""]), query := none, fragment := none } := by
  obtain ⟨hspecial, hfile⟩ := special_of_isHttp hhttp
  have htext : (front ++ ['/']).takeWhile (fun c => !(c == '?' || c == '#')) = front ++ ['/'] := by
    rw [List.takeWhile_eq_self_iff]
    intro c hc
    rw [Bool.not_eq_true']
    exact Bool.eq_false_iff.mpr (List.any_eq_false.mp hplain c hc)
  have hsplit : (front ++ ['/']).splitOnP (isSlash true)
      = front.splitOnP (isSlash true) ++ [[]] := by
    rw [List.splitOnP_append_cons _ _ (by decide), List.splitOnP_nil]
  rw [hsplit] at hdots
  obtain ⟨done, hdone⟩ := Trail.readAll_keeps hfile _ (t := { behind := names.reverse })
    ⟨[], rfl, Nat.zero_le _⟩ hdots
  refine ⟨done.reverse, ?_⟩
  rw [withPath, Path.scan]
  dsimp only
  rw [htext, hspecial, hsplit, List.drop_length, Trail.names, hfile, hdone]
  simp [withEnd, readEnd, withoutBreaks]

/-- What begins with neither a slash nor a mark is a path below the segments but the last. -/
theorem readBelow_path {names : List String} (hpath : u.path = .segments names)
    {cs : List Char} {c : Char} {rest : List Char} (htext : withoutBreaks cs = c :: rest)
    (hslash : isSlash true c = false) (hplain : (c == '?' || c == '#') = false) :
    readBelow u cs = .ok (u.withPath names.dropLast (c :: rest)) := by
  obtain ⟨hquestion, hnumber⟩ := Bool.or_eq_false_iff.mp hplain
  have hstart : (c == '/' || c == '\\') = false := by
    simpa [isSlash] using hslash
  -- each mark that is looked for first is excluded by the first character
  unfold readBelow
  rw [htext]
  split
  · rename_i heq
    rw [(List.cons.inj heq).1] at hnumber
    exact nomatch hnumber
  · rename_i hflat _
    rw [hpath] at hflat
    exact nomatch hflat
  · rename_i found hfound _
    obtain rfl : names = found := Path.segments.inj (hpath.symm.trans hfound)
    rw [(special_of_isHttp hhttp).2, if_neg Bool.false_ne_true]
    unfold readRelative
    split
    · rename_i heq
      exact nomatch heq
    · rename_i heq
      rw [(List.cons.inj heq).1] at hquestion
      exact nomatch hquestion
    · rename_i heq
      rw [(List.cons.inj heq).1] at hnumber
      exact nomatch hnumber
    · rename_i heq
      obtain ⟨rfl, rfl⟩ := List.cons.inj heq
      rw [hstart, if_neg Bool.false_ne_true]

/-- **A text that leads below is resolved below** an address whose path ends in a slash. -/
theorem join_below {names : List String} (hpath : u.path = .segments (names ++ [""]))
    {front : List Char} (h : LeadsBelow (String.ofList (front ++ ['/']))) :
    ∃ below, u.join (String.ofList (front ++ ['/'])) = .ok
      { u with path := .segments (names ++ below ++ [""]), query := none, fragment := none } := by
  obtain ⟨text, htext⟩ := clean_slash front
  obtain ⟨hscheme, hslash, hplain, hdots⟩ := h
  rw [htext] at hslash hplain hdots
  obtain ⟨below, hbelow⟩ := withPath_below hhttp names hplain hdots
  refine ⟨below, ?_⟩
  obtain ⟨c, rest, hcons⟩ := List.exists_cons_of_ne_nil (List.concat_ne_nil '/' text)
  rw [hcons] at htext hslash hplain hbelow
  have hmark := Bool.eq_false_iff.mpr (List.any_eq_false.mp hplain c List.mem_cons_self)
  rw [join_schemeless hscheme, readBelow_path hhttp hpath htext hslash hmark,
    List.dropLast_concat, hbelow]

end

/-! ## Addresses below an address -/

/-- Two addresses have the same scheme, host and TCP number. -/
structure SameOrigin (u v : Url) : Prop where
  scheme : u.scheme = v.scheme
  authority : u.authority.map Authority.withoutUser = v.authority.map Authority.withoutUser

/-- The path of an address begins with that of another one, a slash at its end included. -/
def Extends (u base : Url) : Prop := ∃ below, u.path.write = base.withSlash.path.write ++ below

theorem SameOrigin.withoutUser {u v : Url} (h : u.SameOrigin v) : u.withoutUser.SameOrigin v where
  scheme := h.scheme
  authority := by
    rw [← h.authority, Url.withoutUser, Option.map_map]
    rfl

theorem withSlash_path {u : Url} (hhttp : u.isHttp = true) {names : List String}
    (hpath : u.path = .segments names) : u.withSlash
      = { u with path := .segments (Path.stem names ++ [""]) } := by
  rw [withSlash, hpath]
  dsimp only
  rw [Path.withSlash_eq (special_of_isHttp hhttp).2]

/-- Segments behind the stem of a path extend it. -/
theorem extends_of_path {u base : Url} (hhttp : base.isHttp = true) {names below : List String}
    (hbase : base.path = .segments names) {last : String}
    (hpath : u.path = .segments (Path.stem names ++ below ++ [last])) : u.Extends base := by
  obtain ⟨name, more, hmore⟩ := List.exists_cons_of_ne_nil (List.concat_ne_nil last below)
  refine ⟨name ++ (Path.segments more).write, ?_⟩
  rw [withSlash_path hhttp hbase, hpath, List.append_assoc, hmore, Path.write_append,
    Path.write_slash, String.append_assoc]
  simp only [Path.write, List.map_cons, String.join_cons, String.append_assoc]

end Url

/-! ## The collection -/

namespace Settings

variable {s : Settings} {base : Url}

theorem relativePath_slash (s : Settings) :
    ∃ front, s.relativePath = String.ofList (front ++ ['/']) := by
  rw [relativePath]
  split
  · rename_i hlast
    obtain ⟨front, hfront⟩ := List.getLast?_eq_some_iff.mp (beq_iff_eq.mp hlast)
    exact ⟨front, by rw [hfront]⟩
  · exact ⟨_, rfl⟩

/-- The base address of valid settings is one of the web. -/
theorem isHttp_of_validate (hvalid : s.validate = .ok ()) (hbase : Url.read s.baseUrl = .ok base) :
    base.isHttp = true := by
  rw [validate, hbase] at hvalid
  cases hhttp : base.isHttp with
  | true => rfl
  | false =>
      dsimp only [bind, Except.bind, Except.mapError] at hvalid
      rw [hhttp] at hvalid
      exact nomatch hvalid

/-- **The path of the collection** is that of the base address and more, if the REST path leads
    below. -/
theorem collectionUrl_below (hhttp : base.isHttp = true) (hbase : Url.read s.baseUrl = .ok base)
    {names : List String} (hnames : base.path = .segments names)
    (hrest : Url.LeadsBelow s.relativePath) :
    ∃ below, s.collectionUrl = .ok { base with
      path := .segments (Url.Path.stem names ++ below ++ [""])
      query := none
      fragment := none } := by
  obtain ⟨front, hfront⟩ := s.relativePath_slash
  have hslash := Url.withSlash_path hhttp hnames
  rw [hfront] at hrest
  obtain ⟨below, hbelow⟩ := Url.join_below (u := base.withSlash) (by rw [hslash]; exact hhttp)
    (by rw [hslash]) hrest
  refine ⟨below, ?_⟩
  rw [collectionUrl_of_base hbase, hfront, hbelow, hslash]
  rfl

end Settings

namespace Remote

variable {r : Remote} {base : Url}

/-- A call that does not ask for a message whose id names no segment. -/
def AsksBelow (r : Remote) : Call → Prop
  | .get id => ∃ names, r.collection.path = .segments names ∧ names ≠ ["", ""] ∧
      Url.NamesSegment r.collection.scheme (Url.Path.stem names) id.display
  | _ => True

theorem messageUrl_path {id : MessageId} {u : Url} (h : r.messageUrl id = .ok u) :
    ∃ path, u = { r.collection with path := path } := by
  rw [messageUrl, Url.push?] at h
  split at h
  · rename_i found hfound
    split at hfound
    · rw [← Except.ok.inj h, ← Option.some.inj hfound]
      exact ⟨_, rfl⟩
    · cases hfound
  · cases h

/-- The message of a call that asks below is one segment behind the stem of the collection. -/
theorem messageUrl_below (hfits : r.collection.Fits) {names : List String}
    (hpath : r.collection.path = .segments (names ++ [""])) {id : MessageId} {u : Url}
    (hasks : r.AsksBelow (.get id)) (h : r.messageUrl id = .ok u) :
    ∃ segment, u.path = .segments (names ++ [segment]) := by
  obtain ⟨found, hfound, htwo, hid⟩ := hasks
  obtain rfl := Url.Path.segments.inj (hpath.symm.trans hfound)
  have hstem : Url.Path.below (names ++ [""]) = names := by
    rw [Url.Path.below_stem htwo, Url.Path.stem, if_pos (by simp), List.dropLast_concat]
  rw [← Url.Path.below_stem htwo] at hid
  rw [messageUrl_eq hfits hpath hid, hstem] at h
  rw [← Except.ok.inj h]
  exact ⟨_, rfl⟩

/-- A request that carries a call is for the collection or for a message of it. -/
theorem Carries.url {call : Call} {q : Http.Request} (h : r.Carries call q) :
    ∃ u, (u = r.collection ∨ ∃ id, call = .get id ∧ r.messageUrl id = .ok u) ∧
      (q.url = u ∨ q.url = u.withoutUser) := by
  cases call with
  | list =>
      obtain rfl := h
      exact ⟨_, Or.inl rfl, Http.Request.to_url ..⟩
  | get id =>
      obtain ⟨u, hu, rfl⟩ := h
      exact ⟨u, Or.inr ⟨id, rfl, hu⟩, Http.Request.to_url ..⟩
  | create draft =>
      obtain ⟨body, rfl, -⟩ := h
      exact ⟨_, Or.inl rfl, Http.Request.to_url ..⟩

end Remote

/-- **The collection lies below the base address** if the REST path leads below: it has scheme,
    user, host and TCP number of the base address, a path that begins with that of the base
    address and ends in a slash, no query and no fragment.  Every request goes to the same scheme,
    host and TCP number, and below the path of the base address unless it is for a message whose
    id names no segment. -/
theorem collection_below_base {s : Settings} {base : Url} (valid : s.validate = .ok ())
    (hbase : Url.read s.baseUrl = .ok base) (hrest : Url.LeadsBelow s.relativePath) :
    (∃ u, s.collectionUrl = .ok u ∧ u.scheme = base.scheme ∧ u.authority = base.authority ∧
      u.Extends base ∧ (∃ front, u.path.write = front ++ "/") ∧ u.query = none ∧
      u.fragment = none) ∧
    ∀ r, Remote.ofSettings s = .ok r → ∀ (call : Call) (l : Http.Link),
      ∃ qs, (r.linkAfter call l).sent = l.sent ++ qs ∧ ∀ q ∈ qs,
        q.url.SameOrigin base ∧ (r.AsksBelow call → q.url.Extends base) := by
  have hhttp := s.isHttp_of_validate valid hbase
  obtain ⟨names, hnames⟩ := (Url.fits_read hbase).hasSegments (Url.special_of_isHttp hhttp).1
  obtain ⟨below, hcollection⟩ := s.collectionUrl_below hhttp hbase hnames hrest
  constructor
  · refine ⟨_, hcollection, rfl, rfl, Url.extends_of_path hhttp hnames rfl, ?_, rfl, rfl⟩
    exact ⟨_, Url.Path.write_slash _⟩
  · intro r hr call l
    obtain ⟨qs, hsent, hqs⟩ := r.sent_carries call l
    refine ⟨qs, hsent, fun q hq => ?_⟩
    have heq := Except.ok.inj ((Remote.ofSettings_collection hr).symm.trans hcollection)
    have hpath := congrArg Url.path heq
    have horigin : r.collection.SameOrigin base := ⟨by rw [heq], by rw [heq]⟩
    obtain ⟨u, hu, hurl⟩ := (hqs q hq).url
    -- a request is for the collection, or for a message of it
    have hbelow : u.SameOrigin base ∧ (r.AsksBelow call → u.Extends base) := by
      rcases hu with rfl | ⟨id, rfl, hid⟩
      · exact ⟨horigin, fun _ => Url.extends_of_path hhttp hnames hpath⟩
      · refine ⟨?_, fun hasks => ?_⟩
        · obtain ⟨path, rfl⟩ := Remote.messageUrl_path hid
          exact ⟨horigin.scheme, horigin.authority⟩
        · obtain ⟨segment, hsegment⟩ :=
            Remote.messageUrl_below (Remote.fits_collection hr) hpath hasks hid
          exact Url.extends_of_path hhttp hnames hsegment
    rcases hurl with hurl | hurl
    · rw [hurl]
      exact hbelow
    · rw [hurl]
      exact ⟨hbelow.1.withoutUser, hbelow.2⟩

/-! ## REST paths behind a context path -/

/-- Settings with a REST path behind a context path at the loop-back host. -/
def Settings.behindContext (restPath : String) : Settings :=
  { baseUrl := "http://[::1]/hellojs", restPath := restPath }

/-- A REST path with dots that stay below, and a message there. -/
theorem collection_below_base_context :
    (Settings.behindContext "/a/../rest").validate = .ok () ∧
    Url.LeadsBelow (Settings.behindContext "/a/../rest").relativePath ∧
    (∃ u, (Settings.behindContext "/a/../rest").collectionUrl = .ok u ∧
      u.authority = some { host := "[::1]" } ∧ u.Extends (.loopback (.segments ["hellojs"]))) ∧
    ∃ r, Remote.ofSettings (Settings.behindContext "/a/../rest") = .ok r ∧ ∀ l : Http.Link,
      ∃ qs, (r.linkAfter (.get (.number 7)) l).sent = l.sent ++ qs ∧
        ∀ q ∈ qs, q.url.Extends (.loopback (.segments ["hellojs"])) := by
  have hvalid : (Settings.behindContext "/a/../rest").validate = .ok () := rfl
  have hbase : Url.read (Settings.behindContext "/a/../rest").baseUrl
      = .ok (.loopback (.segments ["hellojs"])) := rfl
  have hpath : (Settings.behindContext "/a/../rest").relativePath = "a/../rest/" := rfl
  have hrest : Url.LeadsBelow "a/../rest/" := ⟨rfl, rfl, rfl, rfl⟩
  rw [← hpath] at hrest
  obtain ⟨⟨u, hu, -, hauthority, hextends, -⟩, hrequests⟩ :=
    collection_below_base hvalid hbase hrest
  let r : Remote :=
    { Remote.loopback with collection := .loopback (.segments ["hellojs", "rest", ""]) }
  have hr : Remote.ofSettings (Settings.behindContext "/a/../rest") = .ok r := rfl
  have hasks : r.AsksBelow (.get (.number 7)) :=
    ⟨["hellojs", "rest", ""], rfl, by decide, by decide⟩
  refine ⟨hvalid, hrest, ⟨u, hu, hauthority, hextends⟩, r, hr, fun l => ?_⟩
  obtain ⟨qs, hsent, hqs⟩ := hrequests r hr (.get (.number 7)) l
  exact ⟨qs, hsent, fun q hq => (hqs q hq).2 hasks⟩

/-- **REST paths that lead elsewhere**, all of them of valid settings.  One that begins with a
    scheme makes a collection at another TCP number, or none at all; behind a blank a slash leads
    to the root, as a backslash does, and two backslashes lead to another host; dots lead out of
    the context path; and a question mark or a number sign makes a query or a fragment, in front
    of which the path does not end in a slash.  Below a base address that is the collection
    itself, an id of dots around a tab leads out. -/
theorem collection_elsewhere :
    (∀ restPath ∈ ["http://[::1]:81/rest", "https:", " /rest", "\\rest", "\\\\[::2]\\rest",
        "../rest", "rest?", "rest#", "."], (Settings.behindContext restPath).validate = .ok ()) ∧
    (Settings.behindContext "http://[::1]:81/rest").collectionUrl
      = .ok { Url.loopback (.segments ["rest", ""]) with
          authority := some { host := "[::1]", portNumber := some 81 } } ∧
    (Settings.behindContext "https:").collectionUrl = .error (.url .emptyHost) ∧
    (Settings.behindContext " /rest").collectionUrl
      = .ok (.loopback (.segments ["rest", ""])) ∧
    (Settings.behindContext "\\rest").collectionUrl
      = .ok (.loopback (.segments ["rest", ""])) ∧
    (Settings.behindContext "\\\\[::2]\\rest").collectionUrl
      = .ok { Url.loopback (.segments ["rest", ""]) with authority := some { host := "[::2]" } } ∧
    (Settings.behindContext "../rest").collectionUrl
      = .ok (.loopback (.segments ["rest", ""])) ∧
    (Settings.behindContext "rest?").collectionUrl
      = .ok { Url.loopback (.segments ["hellojs", "rest"]) with query := some "/" } ∧
    (Settings.behindContext "rest#").collectionUrl
      = .ok { Url.loopback (.segments ["hellojs", "rest"]) with fragment := some "/" } ∧
    ∃ r, Remote.ofSettings (Settings.behindContext ".") = .ok r ∧
      r.collection = .loopback (.segments ["hellojs", ""]) ∧
      r.messageUrl (.text ".\t.") = .ok (.loopback (.segments [""])) := by
  refine ⟨?_, rfl, rfl, rfl, rfl, rfl, rfl, rfl, rfl, _, rfl, rfl, rfl⟩
  intro restPath h
  simp only [List.mem_cons, List.not_mem_nil, or_false] at h
  rcases h with rfl | rfl | rfl | rfl | rfl | rfl | rfl | rfl | rfl <;> rfl

end Postbox
