import Postbox.Proofs.Collection
import Postbox.Proofs.Mirror

/-! # Headings — the headers of every request

    The headers of a service are set one after the other: those of JSON, the CSRF header
    and the user agent; and a request to an address with a user has one more in front.
    A header takes the place of all that have its name up to case, so of the headers of
    one name the last that was set remains (`Headers.values_set`), and the one in front
    (`Headers.values_withDefaults`).  Read off name by name, this gives the headers of a
    service (`Settings.heads_headersOf`) and those of a request (`Settings.Heads.request`).

    No name is kept for a header.  The CSRF header can have one that is taken, and then
    one of the two headers is not sent (`Settings.Heads`). -/

namespace Postbox

namespace Http

/-- A name in lower case. -/
def lower (name : String) : String := String.ofList (name.toList.map Char.toLower)

/-- The values that stand under a name, compared without regard to case. -/
def Headers.values (name : String) (hs : Headers) : List String :=
  (hs.filter fun h => lower h.1 == lower name).map Prod.snd

/-- All names are in lower case. -/
def Headers.Lowered (hs : Headers) : Prop := ∀ h ∈ hs, lower h.1 = h.1

/-! ## Headers name by name -/

/-- A character in lower case stays as it is. -/
theorem toLower_toLower (c : Char) : c.toLower.toLower = c.toLower := by
  have hsmall : ¬ (c.toLower.val ≥ 'A'.val ∧ c.toLower.val ≤ 'Z'.val) := by
    delta Char.toLower
    split <;> grind [UInt32.toNat_add, Char.toNat_val]
  exact dif_neg hsmall

theorem lower_lower (name : String) : lower (lower name) = lower name := by
  rw [lower, lower, String.toList_ofList, List.map_map]
  exact congrArg String.ofList (List.map_congr_left fun c _ => toLower_toLower c)

/-- A text that is a name is kept in lower case. -/
theorem headerName?_lower {s name : String} (h : headerName? s = some name) :
    name = lower s := by
  rw [headerName?] at h
  split at h
  · exact nomatch h
  · exact (Option.some.inj h).symm

namespace Headers

variable {hs : Headers} {name : String}

/-- One header has its value under its name. -/
theorem values_cons (h : lower name = name) (value other : String) (hs : Headers) :
    values other ((name, value) :: hs)
      = if name = lower other then value :: hs.values other else hs.values other := by
  rw [values, values, List.filter_cons, h]
  by_cases hname : name = lower other
  · rw [if_pos (beq_iff_eq.mpr hname), if_pos hname]
    rfl
  · rw [if_neg fun heq => hname (beq_iff_eq.mp heq), if_neg hname]

theorem values_append (other : String) (hs hs' : Headers) :
    values other (hs ++ hs') = hs.values other ++ hs'.values other := by
  rw [values, List.filter_append, List.map_append]
  rfl

/-- Without the headers of a name there is nothing under it, and all else stays. -/
theorem values_without (hl : hs.Lowered) (name other : String) :
    values other (hs.filter fun h => h.1 != name)
      = if name = lower other then [] else hs.values other := by
  rw [values, List.filter_filter]
  split
  · rename_i hname
    rw [List.filter_eq_nil_iff.mpr]
    · rfl
    · intro h hmem
      rw [hl h hmem, ← hname, Bool.and_eq_true, beq_iff_eq, bne_iff_ne]
      exact fun hboth => hboth.2 hboth.1
  · rename_i hname
    rw [values]
    refine congrArg _ (List.filter_congr fun h hmem => ?_)
    rw [hl h hmem]
    by_cases heq : h.1 = lower other
    · rw [heq, bne_iff_ne.mpr (Ne.symm hname), Bool.and_true]
    · rw [beq_eq_false_iff_ne.mpr heq, Bool.false_and]

/-- **The header that is set last remains** of all that have its name. -/
theorem values_set (hl : hs.Lowered) (hname : lower name = name) (value other : String) :
    values other (hs.set name value)
      = if name = lower other then [value] else hs.values other := by
  rw [set, values_append, values_without hl, values_cons hname]
  split
  · rfl
  · exact List.append_nil _

/-- The names stay in lower case. -/
theorem Lowered.set (hl : hs.Lowered) (hname : lower name = name) (value : String) :
    (hs.set name value).Lowered := by
  intro h hmem
  rw [Headers.set, List.mem_append, List.mem_singleton] at hmem
  rcases hmem with hkept | rfl
  · exact hl h (List.mem_of_mem_filter hkept)
  · exact hname

/-- A header in front of its defaults takes the place of that of its name. -/
theorem values_withDefaults (hl : hs.Lowered) (hname : lower name = name)
    (value other : String) : values other (hs.withDefaults [(name, value)])
      = if name = lower other then [value] else hs.values other := by
  have hmissing : (hs.filter fun h => (get? h.1 [(name, value)]).isNone)
      = hs.filter fun h => h.1 != name := by
    refine List.filter_congr fun h _ => ?_
    rw [get?, List.find?_singleton]
    by_cases heq : name = h.1
    · rw [if_pos (beq_iff_eq.mpr heq), ← heq, bne_self_eq_false]
      rfl
    · rw [if_neg fun hbeq => heq (beq_iff_eq.mp hbeq), bne_iff_ne.mpr (Ne.symm heq)]
      rfl
  rw [withDefaults, hmissing, List.singleton_append, values_cons hname, values_without hl]
  split
  · rfl
  · rfl

end Headers

/-- The user of an address is named by one header. -/
theorem authorization?_name {u : Url} {name value : String}
    (h : authorization? u = some (name, value)) : name = "authorization" := by
  simp only [authorization?, Option.bind_eq_bind, Option.bind_eq_some_iff] at h
  obtain ⟨authority, -, user, -, h⟩ := h
  exact (Prod.mk.inj (Option.some.inj (Option.ite_none_left_eq_some.mp h).2)).1.symm

/-- The headers of a request are those it is made with, but for the user of its address. -/
theorem Request.to_values {hs : Headers} (hl : hs.Lowered) (method : Method) (u : Url)
    (body other : String) : (Request.to method u hs body).headers.values other
      = match authorization? u with
        | none => hs.values other
        | some (_, value) =>
          if "authorization" = lower other then [value] else hs.values other := by
  rw [Request.to]
  cases hauth : authorization? u with
  | none => rfl
  | some header =>
      obtain ⟨name, value⟩ := header
      obtain rfl := authorization?_name hauth
      exact Headers.values_withDefaults hl (by decide) value other

end Http

/-! ## The headers of settings -/

/-- The headers that say that messages are written as JSON. -/
def Http.Headers.json : Http.Headers :=
  [("content-type", "application/json"), ("accept", "application/json")]

namespace Settings

/-- The CSRF header of the settings has a name, up to case. -/
def Names (s : Settings) (name : String) : Prop :=
  ∃ c, s.csrf = some c ∧ Http.lower c.header = Http.lower name

/-- Headers are those of the settings: each has one value, that of the user agent in any
    case, that of JSON unless the CSRF header has its name, and the token unless the CSRF
    header has the name of the user agent, or that of a user who is named. -/
structure Heads (s : Settings) (userNamed : Bool) (hs : Http.Headers) : Prop where
  userAgent : hs.values "user-agent" = [s.userAgent]
  json : ∀ name ∈ ["content-type", "accept"], ¬ s.Names name →
    hs.values name = ["application/json"]
  token : ∀ c, s.csrf = some c → Http.lower c.header ≠ "user-agent" →
    (Http.lower c.header = "authorization" → userNamed = false) →
    hs.values c.header = [c.token]

/-- The headers of settings before the user agent is set. -/
def withToken (s : Settings) : Except SettingsProblem Http.Headers :=
  match s.csrf with
  | none => .ok .json
  | some c => c.toHeader.map fun header => Http.Headers.json.set header.1 header.2

end Settings

/-- A CSRF header has its name in lower case, and its token as it is. -/
theorem CsrfToken.toHeader_ok {c : CsrfToken} {name value : String}
    (h : c.toHeader = .ok (name, value)) : name = Http.lower c.header ∧ value = c.token := by
  rw [CsrfToken.toHeader] at h
  cases hname : Http.headerName? c.header with
  | none =>
      rw [hname] at h
      exact nomatch h
  | some found =>
      rw [hname] at h
      dsimp only at h
      split at h
      · obtain ⟨rfl, rfl⟩ := Prod.mk.inj (Except.ok.inj h)
        exact ⟨Http.headerName?_lower hname, rfl⟩
      · exact nomatch h

namespace Settings

open Http Http.Headers

variable {s : Settings} {hs : Headers}

theorem json_lowered : Headers.json.Lowered := by
  rw [Lowered, Headers.json]
  decide

/-- The CSRF header takes the place of one of its name, and of no other. -/
theorem withToken_values (h : s.withToken = .ok hs) : hs.Lowered ∧
    (∀ c, s.csrf = some c → hs.values c.header = [c.token]) ∧
    ∀ name, ¬ s.Names name → hs.values name = Headers.json.values name := by
  rw [withToken] at h
  cases hcsrf : s.csrf with
  | none =>
      rw [hcsrf] at h
      obtain rfl := Except.ok.inj h
      exact ⟨json_lowered, fun _ hc => (nomatch hc), fun _ _ => rfl⟩
  | some c =>
      rw [hcsrf] at h
      cases hheader : c.toHeader with
      | error p =>
          dsimp only at h
          rw [hheader] at h
          exact nomatch h
      | ok header =>
          obtain ⟨name, value⟩ := header
          obtain ⟨rfl, rfl⟩ := CsrfToken.toHeader_ok hheader
          dsimp only at h
          rw [hheader] at h
          obtain rfl := Except.ok.inj h
          have hvalues := values_set json_lowered (lower_lower c.header) c.token
          refine ⟨json_lowered.set (lower_lower c.header) c.token, ?_, ?_⟩
          · intro _ hc
            obtain rfl := Option.some.inj hc
            exact (hvalues c.header).trans (if_pos rfl)
          · intro name hname
            exact (hvalues name).trans (if_neg fun heq => hname ⟨c, hcsrf, heq⟩)

/-- The user agent is set last. -/
theorem headersOf_eq (s : Settings) : Remote.headersOf s
    = s.withToken.bind fun before =>
        if !isHeaderValue s.userAgent then .error .userAgent
        else .ok (before.set "user-agent" s.userAgent) := by
  rw [Remote.headersOf, withToken]
  cases s.csrf with
  | none => rfl
  | some c =>
      dsimp only
      cases c.toHeader with
      | error p => rfl
      | ok header => rfl

/-- **The headers of a service** are those of its settings. -/
theorem heads_headersOf (h : Remote.headersOf s = .ok hs) : hs.Lowered ∧ s.Heads false hs := by
  rw [headersOf_eq] at h
  cases hbefore : s.withToken with
  | error p =>
      rw [hbefore] at h
      exact nomatch h
  | ok before =>
      obtain ⟨hlowered, htoken, hjson⟩ := withToken_values hbefore
      rw [hbefore] at h
      dsimp only [Except.bind] at h
      split at h
      · exact nomatch h
      · obtain rfl := Except.ok.inj h
        have hagent : lower "user-agent" = "user-agent" := by decide
        have hvalues := values_set hlowered hagent s.userAgent
        refine ⟨hlowered.set hagent s.userAgent, ?_, ?_, ?_⟩
        · exact (hvalues "user-agent").trans (if_pos hagent.symm)
        · intro name hmem hname
          have hfixed : ∀ name ∈ ["content-type", "accept"], "user-agent" ≠ lower name ∧
              Headers.json.values name = ["application/json"] := by decide
          rw [hvalues, if_neg (hfixed name hmem).1, hjson name hname]
          exact (hfixed name hmem).2
        · intro c hc hname _
          rw [hvalues, if_neg (Ne.symm hname)]
          exact htoken c hc

/-- A request has the headers it is made with, and one for the user of its address. -/
theorem Heads.request (hl : hs.Lowered) (h : s.Heads false hs) (method : Method) (u : Url)
    (body : String) :
    s.Heads (authorization? u).isSome (Request.to method u hs body).headers := by
  have hother : ∀ other, lower other ≠ "authorization" →
      (Request.to method u hs body).headers.values other = hs.values other := by
    intro other hname
    rw [Request.to_values hl]
    cases authorization? u with
    | none => rfl
    | some header => exact if_neg (Ne.symm hname)
  refine ⟨?_, ?_, ?_⟩
  · rw [hother "user-agent" (by decide)]
    exact h.userAgent
  · intro name hmem hname
    have hfixed : ∀ name ∈ ["content-type", "accept"], lower name ≠ "authorization" := by decide
    rw [hother name (hfixed name hmem)]
    exact h.json name hmem hname
  · intro c hc hname huser
    -- a token in the header of the authorization stands only where no user is given
    by_cases heq : lower c.header = "authorization"
    · have hnone : authorization? u = none :=
        Option.isNone_iff_eq_none.mp (Option.isSome_eq_false_iff.mp (huser heq))
      rw [Request.to_values hl, hnone]
      exact h.token c hc hname fun _ => rfl
    · rw [hother c.header heq]
      exact h.token c hc hname fun _ => rfl

end Settings

namespace Remote

/-- The request of a call goes to the authority of the collection, with the headers of
    the service. -/
theorem Carries.made {r : Remote} {call : Call} {q : Http.Request} (h : r.Carries call q) :
    ∃ method u body, q = .to method u r.headers body ∧ u.authority = r.collection.authority := by
  cases call with
  | list => exact ⟨.get, r.collection, "", h, rfl⟩
  | get id =>
      obtain ⟨u, hu, rfl⟩ := h
      obtain ⟨path, rfl⟩ := messageUrl_path hu
      exact ⟨.get, _, "", rfl, rfl⟩
  | create draft =>
      obtain ⟨body, rfl, -⟩ := h
      exact ⟨.post, r.collection, body, rfl, rfl⟩

end Remote

/-- **Every request has its headers.**  Whatever a call sends carries it, and has the
    headers of the settings. -/
theorem requests_headed {settings : Settings} {r : Remote}
    (accepted : Remote.ofSettings settings = .ok r) (call : Call) (l : Http.Link) :
    ∃ qs, (r.linkAfter call l).sent = l.sent ++ qs ∧ ∀ q ∈ qs, r.Carries call q ∧
      settings.Heads (Http.authorization? r.collection).isSome q.headers := by
  obtain ⟨hlowered, hheads⟩ := Settings.heads_headersOf (Remote.ofSettings_parts accepted).1
  obtain ⟨qs, hsent, hcarries⟩ := Remote.sent_carries r call l
  refine ⟨qs, hsent, fun q hq => ⟨hcarries q hq, ?_⟩⟩
  obtain ⟨method, u, body, rfl, hauthority⟩ := (hcarries q hq).made
  have huser : Http.authorization? r.collection = Http.authorization? u := by
    rw [Http.authorization?, Http.authorization?, hauthority]
  rw [huser]
  exact hheads.request hlowered method u body

/-! ## At the loop-back host -/

/-- Settings for the loop-back host with a CSRF header. -/
def Settings.loopback (header : String) : Settings :=
  { baseUrl := "http://[::1]/", csrf := some ⟨header, "abc"⟩ }

namespace Remote

/-- The collection at the loop-back host with other headers. -/
def loopbackWith (hs : Http.Headers) : Remote := { loopback with headers := hs }

/-- Listing a collection sends its request if this goes to the loop-back host. -/
theorem list_sent {r : Remote} (hscheme : r.collection.scheme = "http") {hs : Http.Headers}
    (hto : Http.Request.to .get r.collection r.headers ""
      = ⟨.get, loopback.collection, hs, ""⟩) :
    (r.linkAfter .list {}).sent = [⟨.get, loopback.collection, hs, ""⟩] := by
  have hq : (Http.Request.to .get r.collection r.headers "").isSendable = true := by
    rw [hto, ← Http.Request.to_anonymous rfl]
    exact (loopback_isSendable .get (.segments ["rest", ""]) hs "").trans (by decide)
  rw [linkAfter, list, call_answered hq hscheme rfl, hto]
  rfl

theorem loopbackWith_sent (hs : Http.Headers) : ((loopbackWith hs).linkAfter .list {}).sent
    = [⟨.get, loopback.collection, hs, ""⟩] :=
  list_sent rfl (Http.Request.to_anonymous rfl ..)

/-- The same collection for a user, with a CSRF header that is to name another one. -/
def loopbackUser : Remote where
  collection := { loopback.collection with authority := some { host := "[::1]", user := "u" } }
  headers := [("content-type", "application/json"), ("accept", "application/json"),
    ("authorization", "abc"), ("user-agent", "message-inbox/0.1.0")]
  timeout := loopback.timeout

/-- Its requests name the user. -/
theorem loopbackUser_authorization : ∃ credentials,
    Http.authorization? loopbackUser.collection
      = some ("authorization", "Basic " ++ credentials) := by
  have htext : Text.ofUtf8? (Url.unescape "u".toList) = some "u" := by
    show Text.ofUtf8? (Text.utf8 "u".toList) = some "u"
    rw [Text.ofUtf8?, Text.ofUtf8_utf8]
    rfl
  refine ⟨String.ofList (Text.base64 (Text.utf8 ("u" ++ ":" ++ "").toList)), ?_⟩
  show (Text.ofUtf8? (Url.unescape "u".toList)).bind _ = _
  rw [htext]
  rfl

end Remote

/-- A token is sent besides the other headers. -/
theorem requests_headed_token : ∃ r q, Remote.ofSettings (.loopback "X-CSRF-TOKEN") = .ok r ∧
    (r.linkAfter .list {}).sent = [q] ∧ q.headers.values "X-CSRF-TOKEN" = ["abc"] ∧
    q.headers.values "content-type" = ["application/json"] := by
  have accepted : Remote.ofSettings (.loopback "X-CSRF-TOKEN")
      = .ok (.loopbackWith [("content-type", "application/json"),
        ("accept", "application/json"), ("x-csrf-token", "abc"),
        ("user-agent", "message-inbox/0.1.0")]) := rfl
  obtain ⟨qs, hsent, hheads⟩ := requests_headed accepted .list {}
  refine ⟨_, _, accepted, Remote.loopbackWith_sent _, ?_⟩
  rw [Remote.loopbackWith_sent] at hsent
  subst hsent
  obtain ⟨-, h⟩ := hheads _ (List.mem_singleton_self _)
  refine ⟨?_, h.json _ List.mem_cons_self ?_⟩
  · exact h.token ⟨"X-CSRF-TOKEN", "abc"⟩ rfl (by decide) fun heq => absurd heq (by decide)
  · rintro ⟨c, hc, hname⟩
    obtain rfl := Option.some.inj hc
    exact absurd hname (by decide)

/-- **One of two headers is lost** when the CSRF header has the name of another: settings
    with such a name are accepted, and then requests go out without the JSON content
    type, or without the token. -/
theorem headers_replaced :
    (∃ r q, Remote.ofSettings (.loopback "Content-Type") = .ok r ∧
      (r.linkAfter .list {}).sent = [q] ∧ q.headers.values "content-type" = ["abc"]) ∧
    (∃ r q, Remote.ofSettings (.loopback "User-Agent") = .ok r ∧
      (r.linkAfter .list {}).sent = [q] ∧
      q.headers.values "User-Agent" = ["message-inbox/0.1.0"]) ∧
    ∃ r q credentials, Remote.ofSettings
        { Settings.loopback "Authorization" with baseUrl := "http://u@[::1]/" } = .ok r ∧
      (r.linkAfter .list {}).sent = [q] ∧
      q.headers.values "Authorization" = ["Basic " ++ credentials] := by
  refine ⟨?_, ?_, ?_⟩
  · exact ⟨.loopbackWith [("accept", "application/json"), ("content-type", "abc"),
      ("user-agent", "message-inbox/0.1.0")], _, rfl, Remote.loopbackWith_sent _, by decide⟩
  · exact ⟨.loopbackWith Remote.loopback.headers, _, rfl, Remote.loopbackWith_sent _, by decide⟩
  · obtain ⟨credentials, hauth⟩ := Remote.loopbackUser_authorization
    have hto : Http.Request.to .get Remote.loopbackUser.collection Remote.loopbackUser.headers ""
        = ⟨.get, Remote.loopback.collection, Remote.loopbackUser.headers.withDefaults
            [("authorization", "Basic " ++ credentials)], ""⟩ := by
      rw [Http.Request.to, hauth]
      rfl
    refine ⟨.loopbackUser, _, credentials, rfl, Remote.list_sent rfl hto, ?_⟩
    have hlowered : Remote.loopbackUser.headers.Lowered := by
      rw [Http.Headers.Lowered]
      decide
    exact (Http.Headers.values_withDefaults hlowered (by decide) _ _).trans (if_pos (by decide))

end Postbox
