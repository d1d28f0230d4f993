import Postbox.Proofs.Heading
import Postbox.Proofs.Saving

/-! # Validity — what accepted settings are good for

    Settings are valid if four of their values pass, each by a check of its own
    (`Settings.validate_eq`); the fifth, the user agent, is not looked at.  A service
    needs two things besides: a user agent that can be the value of a header, and a
    REST path that can be resolved (`Remote.ofSettings_of_valid`).  The latter can
    fail only where the path names a host of its own, by a scheme or by two slashes in
    front (`Url.join_ok`). -/

namespace Postbox

namespace Settings

/-! ## Checks -/

/-- The check of a base address: it is an address of the web. -/
def checkBaseUrl (text : String) : Except SettingsProblem Unit :=
  ((Url.read text).mapError .url).bind fun u =>
    if u.isHttp then .ok () else .error (.scheme u.scheme)

/-- The check of a REST path: there is more to it than slashes. -/
def checkRestPath (text : String) : Except SettingsProblem Unit :=
  if (Text.strip (· == '/') text.toList).isEmpty then .error .emptyRestPath else .ok ()

/-- The check of a CSRF header: it can be sent, if there is one. -/
def checkCsrf : Option CsrfToken → Except SettingsProblem Unit
  | none => .ok ()
  | some c => c.toHeader.map fun _ => ()

/-- The check of a timeout: it is not over at once. -/
def checkTimeout (timeoutSecs : Option Nat) : Except SettingsProblem Unit :=
  if timeoutSecs = some 0 then .error .zeroTimeout else .ok ()

/-- Each of four values passes its check. -/
structure Valid (s : Settings) : Prop where
  baseUrl : checkBaseUrl s.baseUrl = .ok ()
  restPath : checkRestPath s.restPath = .ok ()
  csrf : checkCsrf s.csrf = .ok ()
  timeout : checkTimeout s.timeoutSecs = .ok ()

/-- **Settings are checked value by value**, and the first check that fails decides. -/
theorem validate_eq (s : Settings) : s.validate
    = (checkBaseUrl s.baseUrl).bind fun _ => (checkRestPath s.restPath).bind fun _ =>
        (checkCsrf s.csrf).bind fun _ => checkTimeout s.timeoutSecs := by
  rw [validate, checkBaseUrl, checkRestPath, checkTimeout]
  cases Url.read s.baseUrl with
  | error p => rfl
  | ok u =>
      dsimp only [bind, Except.bind, Except.mapError]
      cases u.isHttp with
      | false => rfl
      | true =>
          cases (Text.strip (· == '/') s.restPath.toList).isEmpty with
          | true => rfl
          | false =>
              cases s.csrf with
              | none => rfl
              | some c =>
                  rw [checkCsrf]
                  dsimp only
                  cases c.toHeader with
                  | error p => rfl
                  | ok header => rfl

/-- Settings are valid if each of four values passes its check. -/
theorem validate_eq_ok {s : Settings} : s.validate = .ok () ↔ s.Valid := by
  rw [validate_eq]
  constructor
  · intro h
    obtain ⟨_, hbase, h⟩ := bind_eq_ok.mp h
    obtain ⟨_, hrest, h⟩ := bind_eq_ok.mp h
    obtain ⟨_, hcsrf, htimeout⟩ := bind_eq_ok.mp h
    exact ⟨hbase, hrest, hcsrf, htimeout⟩
  · rintro ⟨hbase, hrest, hcsrf, htimeout⟩
    rw [hbase, hrest, hcsrf, htimeout]
    rfl

variable {s : Settings}

/-- The base address of valid settings can be read, and is one of the web. -/
theorem Valid.base (h : s.Valid) : ∃ u, Url.read s.baseUrl = .ok u ∧ u.isHttp = true := by
  obtain ⟨u, hread, hhttp⟩ := bind_eq_ok.mp h.baseUrl
  refine ⟨u, mapError_eq_ok.mp hread, ?_⟩
  split at hhttp
  · assumption
  · exact nomatch hhttp

/-- The CSRF header of valid settings finds its place among the headers. -/
theorem Valid.withToken_ok (h : s.Valid) : ∃ hs, s.withToken = .ok hs := by
  have hcsrf := h.csrf
  rw [withToken]
  cases hc : s.csrf with
  | none => exact ⟨_, rfl⟩
  | some c =>
      rw [hc] at hcsrf
      obtain ⟨header, hheader, -⟩ := map_eq_ok hcsrf
      dsimp only
      rw [hheader]
      exact ⟨_, rfl⟩

end Settings

/-! ## REST paths with a host -/

namespace Url

/-- A text that names no host of its own: it has no scheme, and no two slashes in front. -/
structure NamesNoHost (s : String) : Prop where
  scheme : scheme? (clean s) = none
  slashes : ((withoutBreaks (clean s)).takeWhile (isSlash true)).length < 2

/-- A text that names no host is always resolved below a path. -/
theorem readRelative_ok (base : Url) (names : List String) {cs : List Char}
    (h : (cs.takeWhile (isSlash true)).length < 2) : ∃ u, readRelative base names cs = .ok u := by
  unfold readRelative
  split
  · exact ⟨_, rfl⟩
  · exact ⟨_, rfl⟩
  · exact ⟨_, rfl⟩
  · rename_i c rest _ _
    split
    · split
      · -- two slashes of the first kind
        rename_i heq
        rw [heq] at h
        exact absurd h (by simp [isSlash])
      · -- one slash, of either kind
        have hsplit : (c :: rest).dropWhile (isSlash true)
            = (c :: rest).dropWhile fun c => c == '/' || c == '\\' := rfl
        have hparts := congrArg List.length
          (List.takeWhile_append_dropWhile (p := isSlash true) (l := c :: rest))
        rw [List.length_append, List.length_cons, hsplit] at hparts
        dsimp only
        rw [if_neg (by omega)]
        exact ⟨_, rfl⟩
    · exact ⟨_, rfl⟩

/-- **A text that names no host can be resolved** relative to an address of the web. -/
theorem join_ok {base : Url} (hhttp : base.isHttp = true) (hsegments : base.HasSegments)
    {s : String} (h : NamesNoHost s) : ∃ u, base.join s = .ok u := by
  obtain ⟨names, hnames⟩ := hsegments
  rw [join_schemeless h.scheme]
  unfold readBelow
  split
  · exact ⟨_, rfl⟩
  · rename_i hflat _
    rw [hnames] at hflat
    exact nomatch hflat
  · rename_i found _ _
    rw [(special_of_isHttp hhttp).2, if_neg Bool.false_ne_true]
    exact readRelative_ok base found h.slashes

end Url

/-! ## Services -/

namespace Settings

variable {s : Settings}

/-- What becomes of the collection of valid settings is what becomes of the REST path. -/
theorem Valid.collectionUrl_ok (h : s.Valid) (hrest : Url.NamesNoHost s.relativePath) :
    ∃ u, s.collectionUrl = .ok u := by
  obtain ⟨base, hbase, hhttp⟩ := h.base
  obtain ⟨names, hnames⟩ := (Url.fits_read hbase).hasSegments (Url.special_of_isHttp hhttp).1
  have hslash := Url.withSlash_path hhttp hnames
  have hhttp' : base.withSlash.isHttp = true := by
    rw [hslash]
    exact hhttp
  have hsegments : base.withSlash.HasSegments := by
    rw [hslash]
    exact ⟨_, rfl⟩
  obtain ⟨u, hu⟩ := Url.join_ok hhttp' hsegments hrest
  refine ⟨u, ?_⟩
  rw [collectionUrl_of_base hbase, hu]
  rfl

/-- The collection of valid settings can only fail as an address. -/
theorem Valid.collectionUrl_error (h : s.Valid) {e : SettingsProblem}
    (he : s.collectionUrl = .error e) : ∃ p, e = .url p := by
  obtain ⟨base, hbase, -⟩ := h.base
  rw [collectionUrl_of_base hbase] at he
  cases hjoin : base.withSlash.join s.relativePath with
  | error p =>
      rw [hjoin] at he
      exact ⟨p, (Except.error.inj he).symm⟩
  | ok u =>
      rw [hjoin] at he
      exact nomatch he

/-- Settings that were accepted: when they were checked, when they were read from a file, or
    when they were written to one. -/
inductive Accepted (s : Settings) : Prop
  | checked (h : s.validate = .ok ())
  | loaded {path : String} {t : FileTree} (found : t.exists? (.ofText path) = true)
      (h : load path t = .ok s)
  | saved {path : String} {t t' : FileTree} (h : s.save path t = (.ok (), t'))

/-- Settings that were accepted are valid. -/
theorem Accepted.valid (h : s.Accepted) : s.Valid := by
  cases h with
  | checked h => exact validate_eq_ok.mp h
  | loaded found h => exact validate_eq_ok.mp (inFile_of_load found h).2
  | saved h => exact validate_eq_ok.mp (save_eq_ok.mp h).1

end Settings

/-- **What is needed for a service besides valid settings**: a user agent that can be sent, and
    then a collection. -/
theorem Remote.ofSettings_of_valid {s : Settings} (h : s.Valid) :
    ∃ hs, ofSettings s = if Http.isHeaderValue s.userAgent
      then s.collectionUrl.map fun u => { collection := u, headers := hs, timeout := s.timeout }
      else .error .userAgent := by
  obtain ⟨before, hbefore⟩ := h.withToken_ok
  refine ⟨before.set "user-agent" s.userAgent, ?_⟩
  rw [ofSettings, Settings.validate_eq_ok.mpr h, Settings.headersOf_eq, hbefore]
  dsimp only [bind, Except.bind]
  cases Http.isHeaderValue s.userAgent with
  | false => rfl
  | true =>
      cases s.collectionUrl with
      | error p => rfl
      | ok u => rfl

/-- **Accepted settings make a service** if and only if the user agent can be the value of a
    header and the REST path can be resolved, which it can be unless it names a host of its own;
    and where they make none, it is for one of these two reasons. -/
theorem accepted_settings_usable {s : Settings} (accepted : s.Accepted) :
    ((∃ r, Remote.ofSettings s = .ok r) ↔
      Http.isHeaderValue s.userAgent = true ∧ ∃ u, s.collectionUrl = .ok u) ∧
    (Url.NamesNoHost s.relativePath → ∃ u, s.collectionUrl = .ok u) ∧
    ∀ e, Remote.ofSettings s = .error e →
      e = .userAgent ∧ Http.isHeaderValue s.userAgent = false ∨
      ∃ p, e = .url p ∧ s.collectionUrl = .error e := by
  have hvalid := accepted.valid
  obtain ⟨hs, heq⟩ := Remote.ofSettings_of_valid hvalid
  rw [heq]
  refine ⟨?_, hvalid.collectionUrl_ok, ?_⟩
  -- the user agent is looked at first, and the address only then
  · cases hagent : Http.isHeaderValue s.userAgent with
    | false =>
        refine ⟨?_, fun h => (nomatch h.1)⟩
        rintro ⟨r, hr⟩
        exact nomatch hr
    | true =>
        cases hurl : s.collectionUrl with
        | error p =>
            constructor
            · rintro ⟨r, hr⟩
              exact nomatch hr
            · rintro ⟨-, u, hu⟩
              exact nomatch hu
        | ok u => exact ⟨fun _ => ⟨rfl, u, rfl⟩, fun _ => ⟨_, rfl⟩⟩
  · intro e he
    cases hagent : Http.isHeaderValue s.userAgent with
    | false =>
        rw [hagent] at he
        exact Or.inl ⟨(Except.error.inj he).symm, rfl⟩
    | true =>
        rw [hagent] at he
        cases hurl : s.collectionUrl with
        | ok u =>
            rw [hurl] at he
            exact nomatch he
        | error p =>
            rw [hurl] at he
            obtain rfl := Except.error.inj he
            obtain ⟨q, rfl⟩ := hvalid.collectionUrl_error hurl
            exact Or.inr ⟨q, rfl, rfl⟩

/-- Settings with a header that were saved make a service. -/
theorem accepted_settings_usable_header : Settings.withHeader.Accepted ∧
    Url.NamesNoHost Settings.withHeader.relativePath ∧
    ∃ r, Remote.ofSettings Settings.withHeader = .ok r := by
  have haccepted : Settings.withHeader.Accepted :=
    .saved (Settings.save_first (s := Settings.withHeader) rfl rfl)
  have hrest : Url.NamesNoHost Settings.withHeader.relativePath := ⟨rfl, by decide⟩
  obtain ⟨hiff, hcollection, -⟩ := accepted_settings_usable haccepted
  exact ⟨haccepted, hrest, hiff.mpr ⟨by decide, hcollection hrest⟩⟩

/-- Settings with a user agent for the loop-back host. -/
def Settings.calling (userAgent : String) : Settings :=
  { baseUrl := "http://[::1]/", userAgent := userAgent }

/-- **Accepted settings that make no service**: saved and loaded again as they are, they have a
    user agent with a line break, or a REST path that is a scheme without a host, or nothing but
    a backslash. -/
theorem accepted_settings_unusable :
    (∀ s ∈ [Settings.calling "a\nb", .behindContext "https:", .behindContext "\\"],
      ∃ t, s.save "c.toml" {} = (.ok (), t) ∧ Settings.load "c.toml" t = .ok s) ∧
    Remote.ofSettings (.calling "a\nb") = .error .userAgent ∧
    Remote.ofSettings (.behindContext "https:") = .error (.url .emptyHost) ∧
    Remote.ofSettings (.behindContext "\\") = .error (.url .emptyHost) := by
  refine ⟨?_, rfl, rfl, rfl⟩
  have hloaded : ∀ {s : Settings} {text : String}, s.validate = .ok () → s.toToml = .ok text →
      s.timeoutSecs ≠ none →
      ∃ t, s.save "c.toml" {} = (.ok (), t) ∧ Settings.load "c.toml" t = .ok s := by
    intro s text hvalid htext htimeout
    have hsave := Settings.save_first hvalid htext
    exact ⟨_, hsave, by rw [Settings.load_of_save hsave, Settings.or_timeout htimeout]⟩
  intro s hs
  simp only [List.mem_cons, List.not_mem_nil, or_false] at hs
  rcases hs with rfl | rfl | rfl
  · exact hloaded rfl rfl nofun
  · exact hloaded rfl rfl nofun
  · exact hloaded rfl rfl nofun

end Postbox
