import Postbox.Proofs.Mirror

/-! # Replies — what becomes of a call

    A call over HTTP has one answer for each delivery (`Delivery.Yields`): without a
    reply a network fault or the timeout, else the status before the body, and the
    body as far as it has come.  A complete body decides by what can be read from it
    (`Event.Reads`); only for a draft that was posted it does not matter.

    The three calls differ in their reader alone, so the table is gone through once
    (`Remote.answer_yields`). -/

namespace Postbox

/-- The event of a call whose reply has a complete body: the records that are read from
    it, or else an invalid response.  A draft is saved, whatever is read. -/
inductive Event.Reads (bytes : List UInt8) : Event → Prop
  | listed {ms : List Message} (read : Message.readList? (Text.ofUtf8 bytes) = some ms) :
      Reads bytes (.listed (.ok ms))
  | notListed (p : ReplyProblem) (unread : Message.readList? (Text.ofUtf8 bytes) = none) :
      Reads bytes (.listed (.error (.invalidResponse p)))
  | fetched {id : MessageId} {m : Message} (read : Message.read? (Text.ofUtf8 bytes) = some m) :
      Reads bytes (.fetched id (.ok m))
  | notFetched {id : MessageId} (p : ReplyProblem)
      (unread : Message.read? (Text.ofUtf8 bytes) = none) :
      Reads bytes (.fetched id (.error (.invalidResponse p)))
  | posted (draft : Message) (ms : List Message) : Reads bytes (.posted draft (.ok ms))

/-- The event of a call whose request came to a delivery, with a limit of time.  A reply
    of status 204 has no body: it counts as one that is complete and empty. -/
inductive Http.Delivery.Yields (limit : Duration) (q : Http.Request) :
    Http.Delivery → Event → Prop
  | dropped {e : Event} (fault : e.fault? = some (.network (.unreachable q.url.write))) :
      Yields limit q .noConnection e
  | silent {e : Event} (fault : e.fault? = some (.timeout limit)) : Yields limit q .silence e
  | refused {code : Nat} (body : Http.Body) {e : Event} (bad : ¬ (200 ≤ code ∧ code ≤ 299))
      (fault : e.fault? = some (.status code q.url.write)) : Yields limit q (.reply code body) e
  | stalled {code : Nat} {e : Event} (good : 200 ≤ code ∧ code ≤ 299) (embodied : code ≠ 204)
      (fault : e.fault? = some (.timeout limit)) : Yields limit q (.reply code .stalled) e
  | brokenOff {code : Nat} {e : Event} {p : ReplyProblem} (good : 200 ≤ code ∧ code ≤ 299)
      (embodied : code ≠ 204) (fault : e.fault? = some (.invalidResponse p)) :
      Yields limit q (.reply code .brokenOff) e
  | whole {code : Nat} {bytes : List UInt8} {e : Event} (good : 200 ≤ code ∧ code ≤ 299)
      (embodied : code ≠ 204) (read : e.Reads bytes) :
      Yields limit q (.reply code (.whole bytes)) e
  | bodiless (body : Http.Body) {e : Event} (read : e.Reads []) :
      Yields limit q (.reply 204 body) e

/-- A reply of status 204 counts as empty, whatever follows the status. -/
theorem Http.Delivery.Yields.reads_nil {limit : Duration} {q : Http.Request} {body : Http.Body}
    {e : Event} (h : (Http.Delivery.reply 204 body).Yields limit q e) : e.Reads [] := by
  cases h with
  | refused _ bad _ => exact absurd ⟨by decide, by decide⟩ bad
  | stalled _ embodied _ => exact absurd rfl embodied
  | brokenOff _ embodied _ => exact absurd rfl embodied
  | whole _ embodied _ => exact absurd rfl embodied
  | bodiless _ read => exact read

/-- The good statuses are those from 200 to 299. -/
theorem Http.isSuccess_iff (code : Nat) :
    Http.isSuccess code = true ↔ 200 ≤ code ∧ code ≤ 299 := by
  rw [Http.isSuccess, Bool.and_eq_true, decide_eq_true_eq, decide_eq_true_eq]
  omega

/-- Of the good statuses only 204 has no body. -/
theorem Http.hasBody_of_good {code : Nat} (good : 200 ≤ code ∧ code ≤ 299)
    (embodied : code ≠ 204) : Http.hasBody code = true := by
  rw [Http.hasBody, Bool.and_eq_true, decide_eq_true_eq, decide_eq_true_eq]
  omega

/-- The body of a request does not matter for its address, nor for whether it can be
    sent. -/
theorem Http.Request.to_address (method : Http.Method) (u : Url) (hs : Http.Headers)
    (body body' : String) :
    (Http.Request.to method u hs body).isSendable = (Http.Request.to method u hs body').isSendable ∧
      (Http.Request.to method u hs body).url = (Http.Request.to method u hs body').url := by
  rw [Http.Request.to, Http.Request.to]
  split
  · exact ⟨rfl, rfl⟩
  · exact ⟨rfl, rfl⟩

namespace Remote

/-- The event of a call: the call with its answer. -/
def event (r : Remote) (l : Http.Link) : Call → Event
  | .list => .listed (r.list l).1
  | .get id => .fetched id (r.get id l).1
  | .create draft => .posted draft (r.create draft l).1

/-! ## One request -/

section

variable {α : Type} {r : Remote} {method : Http.Method} {u : Url} {body : String}
  {broken : ReplyProblem} {read : List UInt8 → Option α} {l : Http.Link} {t : Duration}
  (tell : Except Fault α → Event)

/-- **A delivery decides what comes of a request**, whichever event tells of it. -/
theorem answer_yields (limit : r.timeout = some t)
    (hfault : ∀ fault, (tell (.error fault)).fault? = some fault)
    (hread : ∀ bytes, (tell (readWhole broken read bytes)).Reads bytes)
    (q : Http.Request) (d : Http.Delivery) :
    d.Yields t q (tell ((r.answer q.url broken d).bind (readWhole broken read))) := by
  cases d with
  | noConnection => exact .dropped (hfault _)
  | silence =>
      refine .silent ?_
      rw [answer, limit]
      exact hfault _
  | reply code b =>
      by_cases good : 200 ≤ code ∧ code ≤ 299
      · rw [answer, (Http.isSuccess_iff code).mpr good]
        by_cases hcode : code = 204
        · -- no body, whatever stands behind the status
          subst hcode
          exact .bodiless b (hread [])
        · rw [Http.hasBody_of_good good hcode]
          cases b with
          | whole bytes => exact .whole good hcode (hread bytes)
          | stalled =>
              refine .stalled good hcode ?_
              rw [limit]
              exact hfault _
          | brokenOff => exact .brokenOff good hcode (hfault _)
      · have hbad : Http.isSuccess code = false :=
          Bool.eq_false_iff.mpr fun h => good ((Http.isSuccess_iff code).mp h)
        rw [answer, hbad]
        exact .refused b good (hfault _)

/-- What a request that can be sent yields. -/
theorem call_yields (limit : r.timeout = some t)
    (hfault : ∀ fault, (tell (.error fault)).fault? = some fault)
    (hread : ∀ bytes, (tell (readWhole broken read bytes)).Reads bytes)
    (hq : (Http.Request.to method u r.headers body).isSendable = true)
    (hu : u.scheme = "http") (hup : l.isUp = true) :
    (l.deliveries.headD .exhausted).Yields t (.to method u r.headers body)
      (tell (r.call method u body broken read l).1) := by
  rw [call_answered hq hu hup]
  exact answer_yields tell limit hfault hread _ _

end

/-! ## The three calls -/

/-- A list is read from a body or not. -/
theorem reads_listed (bytes : List UInt8) (broken : ReplyProblem) :
    (Event.listed (readWhole broken (fun bytes => Message.readList? (Text.ofUtf8 bytes))
      bytes)).Reads bytes := by
  rw [readWhole]
  cases h : Message.readList? (Text.ofUtf8 bytes) with
  | none => exact .notListed broken h
  | some ms => exact .listed h

/-- A message is read from a body or not. -/
theorem reads_fetched (id : MessageId) (bytes : List UInt8) (broken : ReplyProblem) :
    (Event.fetched id (readWhole broken (fun bytes => Message.read? (Text.ofUtf8 bytes))
      bytes)).Reads bytes := by
  rw [readWhole]
  cases h : Message.read? (Text.ofUtf8 bytes) with
  | none => exact .notFetched broken h
  | some m => exact .fetched h

variable {r : Remote} {l : Http.Link}

/-- Each message of a collection behind HTTP is got by one request. -/
theorem get_eq (hr : r.SpeaksHttp) (id : MessageId) : ∃ u, r.messageUrl id = .ok u ∧
    u.scheme = "http" ∧ r.get id = r.call .get u "" (.notMessage id.display)
      (fun bytes => Message.read? (Text.ofUtf8 bytes)) := by
  obtain ⟨u, hu, hscheme⟩ := hr.messageUrl id
  refine ⟨u, hu, hscheme, ?_⟩
  funext l
  rw [Remote.get, hu]

/-- **A call whose request can be sent** sends this one, and has the answer that the next
    delivery yields. -/
theorem sent_yields (hr : r.SpeaksHttp) {t : Duration} (limit : r.timeout = some t)
    (hup : l.isUp = true) {call : Call} (hsend : r.CanSend call) :
    ∃ q, r.Carries call q ∧ r.linkAfter call l = l.passed q l.deliveries.tail ∧
      (l.deliveries.headD .exhausted).Yields t q (r.event l call) := by
  cases call with
  | list =>
      have hq := hsend _ rfl
      refine ⟨_, rfl, ?_, ?_⟩
      · rw [linkAfter, list, call_answered hq hr.scheme hup]
      · exact call_yields .listed limit (fun _ => rfl) (reads_listed · _) hq
          hr.scheme hup
  | get id =>
      obtain ⟨u, hu, hscheme, hget⟩ := get_eq hr id
      have hcarries : r.Carries (.get id) (.to .get u r.headers "") := ⟨u, hu, rfl⟩
      have hq := hsend _ hcarries
      refine ⟨_, hcarries, ?_, ?_⟩
      · rw [linkAfter, hget, call_answered hq hscheme hup]
      · rw [event, hget]
        exact call_yields (.fetched id) limit (fun _ => rfl) (reads_fetched id · _) hq
          hscheme hup
  | create draft =>
      have hcarries : r.Carries (.create draft) (.to .post r.collection r.headers draft.write) :=
        ⟨draft.write, rfl, Message.read_write draft⟩
      have hq := hsend _ hcarries
      refine ⟨_, hcarries, ?_, ?_⟩
      · rw [linkAfter, create, call_answered hq hr.scheme hup]
      · exact call_yields (.posted draft) limit (fun _ => rfl) (fun _ => .posted draft _)
          hq hr.scheme hup

/-- A call whose request cannot be sent leaves the link, and is answered so. -/
theorem unsent_fault (hr : r.SpeaksHttp) {call : Call} {q : Http.Request}
    (hcarries : r.Carries call q) (hq : q.isSendable = false) (l : Http.Link) :
    r.linkAfter call l = l ∧
      (r.event l call).fault? = some (.network (.unsendable q.url.write)) := by
  cases call with
  | list =>
      obtain rfl := hcarries
      rw [linkAfter, event, list, call_unsendable hq]
      exact ⟨rfl, rfl⟩
  | get id =>
      obtain ⟨u, hu, rfl⟩ := hcarries
      obtain ⟨v, hv, -, hget⟩ := get_eq hr id
      obtain rfl : u = v := Except.ok.inj (hu.symm.trans hv)
      rw [linkAfter, event, hget, call_unsendable hq]
      exact ⟨rfl, rfl⟩
  | create draft =>
      obtain ⟨body, rfl, -⟩ := hcarries
      obtain ⟨hbody, hurl⟩ := Http.Request.to_address .post r.collection r.headers body draft.write
      rw [hbody] at hq
      rw [linkAfter, event, create, call_unsendable hq, hurl]
      exact ⟨rfl, rfl⟩

end Remote

/-- **Every reply is classified.**  Over a collection behind HTTP with a timeout, a call
    whose request can be sent sends exactly this one, takes the next delivery, and is
    answered by what this yields; a call whose request cannot be sent sends nothing, and
    is answered with a network fault. -/
theorem replies_classified {settings : Settings} {r : Remote}
    (accepted : Remote.ofSettings settings = .ok r) (http : r.collection.scheme = "http")
    {t : Duration} (limit : r.timeout = some t) {l : Http.Link} (up : l.isUp = true)
    (call : Call) :
    (r.CanSend call → ∃ q, r.Carries call q ∧
        r.linkAfter call l = l.passed q l.deliveries.tail ∧
        (l.deliveries.headD .exhausted).Yields t q (r.event l call)) ∧
      (¬ r.CanSend call → r.linkAfter call l = l ∧
        ∃ p, (r.event l call).fault? = some (.network p)) := by
  have hr := Remote.SpeaksHttp.of_settings accepted http
  refine ⟨Remote.sent_yields hr limit up, fun hsend => ?_⟩
  obtain ⟨q, hq⟩ := not_forall.mp hsend
  obtain ⟨hcarries, hunsendable⟩ := Classical.not_imp.mp hq
  obtain ⟨hlink, hfault⟩ :=
    Remote.unsent_fault hr hcarries (Bool.eq_false_iff.mpr hunsendable) l
  exact ⟨hlink, _, hfault⟩

namespace Remote

/-- The collection at the loop-back host takes drafts. -/
theorem loopback_create (draft : Message) : loopback.CanSend (.create draft) := by
  rintro q ⟨body, rfl, -⟩
  exact (loopback_isSendable .post (.segments ["rest", ""]) _ body).trans (by decide)

/-- No request goes out for the message of an endless id. -/
theorem loopback_endless (l : Http.Link) : loopback.linkAfter (.get .endless) l = l ∧
    ∃ url, (loopback.event l (.get .endless)).fault? = some (.network (.unsendable url)) := by
  obtain ⟨url, hget⟩ := loopback_get_endless l
  have hget' : loopback.get .endless l = (.error (.network (.unsendable url)), l) := hget
  rw [linkAfter, event, hget']
  exact ⟨rfl, url, rfl⟩

end Remote

/-- The collection at the loop-back host is listed over a link, and a message of an
    endless id is not asked for. -/
theorem replies_classified_loopback :
    let list := Http.Delivery.reply 200 (.whole (Text.utf8 (Message.writeList []).toList))
    let l : Http.Link := { deliveries := [list, .silence] }
    (∃ q, Remote.loopback.Carries .list q ∧
        Remote.loopback.linkAfter .list l = l.passed q [.silence] ∧
        list.Yields (.ofSecs 30) q (Remote.loopback.event l .list)) ∧
      Remote.loopback.linkAfter (.get .endless) l = l := by
  intro list l
  have hcalls := @replies_classified { baseUrl := "http://[::1]/" } .loopback rfl rfl
    (.ofSecs 30) rfl l rfl
  refine ⟨(hcalls .list).1 Remote.loopback_list, ((hcalls (.get .endless)).2 ?_).1⟩
  -- if it could be sent it would be behind the call
  intro hsend
  obtain ⟨q, -, hlink, -⟩ := (hcalls (.get .endless)).1 hsend
  rw [(Remote.loopback_endless l).1] at hlink
  exact nomatch congrArg Http.Link.sent hlink

/-- **Calls that are answered otherwise.**  A request for an endless id is not sent at
    all, though a message is there to be delivered; and a reply of status 204 counts as
    empty, so a draft is saved whose reply stalls, and a list is no list. -/
theorem replies_unlike :
    let link (d : Http.Delivery) : Http.Link := { deliveries := [d] }
    let bytes := Text.utf8 (Message.writeList []).toList
    let message := Text.utf8 Message.empty.write.toList
    Remote.ofSettings { baseUrl := "http://[::1]/" } = .ok .loopback ∧
      Remote.loopback.collection.scheme = "http" ∧
      Remote.loopback.timeout = some (.ofSecs 30) ∧
      (Remote.loopback.linkAfter (.get .endless) (link (.reply 200 (.whole message)))).sent = [] ∧
      (∃ ms, Remote.loopback.event (link (.reply 204 .stalled)) (.create .empty)
        = .posted .empty (.ok ms)) ∧
      Message.readList? (Text.ofUtf8 bytes) = some [] ∧
      ∃ p, Remote.loopback.event (link (.reply 204 (.whole bytes))) .list
        = .listed (.error (.invalidResponse p)) := by
  intro link bytes message
  have hr : Remote.loopback.SpeaksHttp :=
    .of_settings (s := { baseUrl := "http://[::1]/" }) rfl rfl
  refine ⟨rfl, rfl, rfl, congrArg Http.Link.sent (Remote.loopback_endless _).1, ?_, ?_, ?_⟩
  · obtain ⟨_, -, -, h⟩ := Remote.sent_yields hr (t := .ofSecs 30) rfl
      (l := link (.reply 204 .stalled)) rfl (Remote.loopback_create .empty)
    generalize he : Remote.loopback.event (link (.reply 204 .stalled)) (.create .empty) = e at h
    cases h.reads_nil with
    | posted draft ms =>
        obtain rfl : Message.empty = draft := (Event.posted.inj he).1
        exact ⟨ms, rfl⟩
    | _ => cases he
  · show Message.readList? (Text.ofUtf8 (Text.utf8 (Message.writeList []).toList)) = some []
    rw [Text.ofUtf8_utf8]
    exact Message.readList_writeList []
  · obtain ⟨_, -, -, h⟩ := Remote.sent_yields hr (t := .ofSecs 30) rfl
      (l := link (.reply 204 (.whole bytes))) rfl Remote.loopback_list
    generalize he : Remote.loopback.event (link (.reply 204 (.whole bytes))) .list = e at h
    cases h.reads_nil with
    | notListed p _ => exact ⟨p, rfl⟩
    | listed read =>
        -- no list is read from no bytes
        rw [Text.ofUtf8, Message.readList?, Json.read?, Json.lex] at read
        cases read
    | _ => cases he

end Postbox
