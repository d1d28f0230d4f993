import Postbox.Action
import Postbox.Proofs.Address
import Postbox.Proofs.Record
import Postbox.Proofs.Utf8

/-! # Exchange — a call is carried by one request and told by one delivery

    A service behind HTTP can stand for any other service: a call goes out as a
    request (`Remote.Carries`), and what the other service answers comes back as
    a delivery (`Delivery.Tells`), records as JSON with status 200 and a fault as
    status 500.  The link then moves on by exactly one delivery and one request,
    and the answer is the same, except that a fault has become that of a status
    (`SameAnswer`).  This holds as long as the request can be sent at all; and whatever
    becomes of it, nothing else is sent (`Remote.sent_carries`). -/

namespace Postbox

/-- A delivery tells the answer to a call: the records as JSON with status 200,
    or status 500 for a fault. -/
inductive Http.Delivery.Tells : Http.Delivery → Event → Prop
  | listed (ms : List Message) :
      Tells (.reply 200 (.whole (Text.utf8 (Message.writeList ms).toList))) (.listed (.ok ms))
  | fetched (id : MessageId) (m : Message) :
      Tells (.reply 200 (.whole (Text.utf8 m.write.toList))) (.fetched id (.ok m))
  | posted (draft : Message) (ms : List Message) :
      Tells (.reply 200 (.whole (Text.utf8 (Message.writeList ms).toList)))
        (.posted draft (.ok ms))
  | listFailed (fault : Fault) (body : Http.Body) :
      Tells (.reply 500 body) (.listed (.error fault))
  | fetchFailed (id : MessageId) (fault : Fault) (body : Http.Body) :
      Tells (.reply 500 body) (.fetched id (.error fault))
  | postFailed (draft : Message) (fault : Fault) (body : Http.Body) :
      Tells (.reply 500 body) (.posted draft (.error fault))

/-- Two answers are the same, but for the fault that a status stands for. -/
inductive SameAnswer {α : Type} : Except Fault α → Except Fault α → Prop
  | ok (a : α) : SameAnswer (.ok a) (.ok a)
  | error (fault : Fault) (code : Nat) (url : String) :
      SameAnswer (.error fault) (.error (.status code url))

/-- The scheme of a request is that of its address. -/
theorem Http.Request.to_scheme (method : Http.Method) (u : Url) (hs : Http.Headers)
    (body : String) : (Http.Request.to method u hs body).url.scheme = u.scheme := by
  rw [Http.Request.to]
  split
  · rfl
  · rfl

/-- A request keeps its method and its body, whatever becomes of the user of the address. -/
theorem Http.Request.to_kept (method : Http.Method) (u : Url) (hs : Http.Headers)
    (body : String) : (Http.Request.to method u hs body).method = method ∧
      (Http.Request.to method u hs body).body = body := by
  rw [Http.Request.to]
  split
  · exact ⟨rfl, rfl⟩
  · exact ⟨rfl, rfl⟩

/-- A request goes to its address, or to that without the user. -/
theorem Http.Request.to_url (method : Http.Method) (u : Url) (hs : Http.Headers)
    (body : String) : (Http.Request.to method u hs body).url = u ∨
      (Http.Request.to method u hs body).url = u.withoutUser := by
  rw [Http.Request.to]
  split
  · exact Or.inr rfl
  · exact Or.inl rfl

/-- A request to an address without a user is one for that address. -/
theorem Http.Request.to_anonymous {u : Url} {host : String} {portNumber : Option Nat}
    (hu : u.authority = some { host := host, portNumber := portNumber }) (method : Http.Method)
    (hs : Http.Headers) (body : String) :
    Http.Request.to method u hs body = ⟨method, u, hs, body⟩ := by
  -- no name and no password make no credentials
  have htext : Text.ofUtf8? (Url.unescape "".toList) = some "" := by
    show ((Text.ofUtf8 []).mapM id).map String.ofList = some ""
    rw [Text.ofUtf8]
    rfl
  have hnone : Http.authorization? u = none := by
    rw [Http.authorization?, hu]
    show (Text.ofUtf8? (Url.unescape "".toList)).bind _ = none
    rw [htext]
    rfl
  rw [Http.Request.to, hnone]

/-- The link behind one more request. -/
def Http.Link.passed (q : Http.Request) (rest : List Http.Delivery) (l : Http.Link) :
    Http.Link :=
  { l with deliveries := rest, sent := l.sent ++ [q] }

namespace Remote

/-- A request carries a call: listing asks for the collection, getting for the
    address of the message, and creating posts a body that is read as the draft. -/
def Carries (r : Remote) : Call → Http.Request → Prop
  | .list, q => q = .to .get r.collection r.headers ""
  | .get id, q => ∃ u, r.messageUrl id = .ok u ∧ q = .to .get u r.headers ""
  | .create draft, q => ∃ body, q = .to .post r.collection r.headers body ∧
      Message.read? (Json.Glyphs.ofString body) = some draft

/-- The link behind a call. -/
def linkAfter (r : Remote) : Call → Http.Link → Http.Link
  | .list, l => (r.list l).2
  | .get id, l => (r.get id l).2
  | .create draft, l => (r.create draft l).2

/-- The requests that carry a call can be sent. -/
def CanSend (r : Remote) (call : Call) : Prop :=
  ∀ q, r.Carries call q → q.isSendable = true

/-- A collection behind HTTP, where each message has an address. -/
structure SpeaksHttp (r : Remote) : Prop where
  scheme : r.collection.scheme = "http"
  segments : r.collection.HasSegments

/-- Settings whose collection has the scheme give such a service. -/
theorem SpeaksHttp.of_settings {s : Settings} {r : Remote} (h : ofSettings s = .ok r)
    (hs : r.collection.scheme = "http") : r.SpeaksHttp where
  scheme := hs
  segments := (fits_collection h).hasSegments (by rw [hs]; rfl)

/-- Each message has an address under the scheme of the collection. -/
theorem SpeaksHttp.messageUrl {r : Remote} (h : r.SpeaksHttp) (id : MessageId) :
    ∃ u, r.messageUrl id = .ok u ∧ u.scheme = "http" := by
  obtain ⟨names, hnames⟩ := h.segments
  refine ⟨{ r.collection with
    path := .segments (Url.Path.push r.collection.scheme names id.display) }, ?_, h.scheme⟩
  rw [Remote.messageUrl, Url.push?, hnames]

/-! ## One request -/

section

variable {α : Type} {r : Remote} {method : Http.Method} {u : Url} {body : String}
  {broken : ReplyProblem} {read : List UInt8 → Option α} {l : Http.Link} {d : Http.Delivery}
  {rest : List Http.Delivery}

/-- What is read from a complete body. -/
def readWhole (broken : ReplyProblem) (read : List UInt8 → Option α) (bytes : List UInt8) :
    Except Fault α :=
  match read bytes with
  | some a => .ok a
  | none => .error (.invalidResponse broken)

/-- A request that can be sent takes the next delivery from the link, and is answered by
    what this means. -/
theorem call_answered (hq : (Http.Request.to method u r.headers body).isSendable = true)
    (hu : u.scheme = "http") (hup : l.isUp = true) :
    r.call method u body broken read l
      = ((r.answer (Http.Request.to method u r.headers body).url broken
          (l.deliveries.headD .exhausted)).bind (readWhole broken read),
        l.passed (.to method u r.headers body) l.deliveries.tail) := by
  -- the link answers while it is up and the scheme is one it speaks
  have hopen : (l.isUp && (Http.Request.to method u r.headers body).url.scheme == "http")
      = true := by
    rw [hup, Http.Request.to_scheme, hu]
    rfl
  rw [call]
  dsimp only
  rw [hq, Http.Link.exchange, if_pos hopen]
  rfl

/-- What a request that can be sent takes from a link with deliveries, and what it is
    answered. -/
theorem call_delivered (hq : (Http.Request.to method u r.headers body).isSendable = true)
    (hu : u.scheme = "http") (hup : l.isUp = true) (hl : l.deliveries = d :: rest) :
    r.call method u body broken read l
      = ((r.answer (Http.Request.to method u r.headers body).url broken d).bind
          (readWhole broken read),
        l.passed (.to method u r.headers body) rest) := by
  rw [call_answered hq hu hup, hl]
  rfl

/-- A call sends its request if it can be sent and the link can carry it, and nothing else. -/
theorem call_sent (r : Remote) (method : Http.Method) (u : Url) (body : String)
    (broken : ReplyProblem) (read : List UInt8 → Option α) (l : Http.Link) :
    (r.call method u body broken read l).2.sent
      = if (Http.Request.to method u r.headers body).isSendable && l.isUp &&
            (Http.Request.to method u r.headers body).url.scheme == "http"
        then l.sent ++ [.to method u r.headers body] else l.sent := by
  rw [call]
  dsimp only
  cases hq : (Http.Request.to method u r.headers body).isSendable with
  | false => rfl
  | true =>
      rw [Bool.true_and, Bool.not_true, if_neg Bool.false_ne_true, Http.Link.exchange]
      split
      · rfl
      · rfl

/-- **A call sends nothing but requests that carry it.** -/
theorem sent_carries (r : Remote) (call : Call) (l : Http.Link) :
    ∃ qs, (r.linkAfter call l).sent = l.sent ++ qs ∧ ∀ q ∈ qs, r.Carries call q := by
  -- one request is sent, or none
  have hsent : ∀ {p : Prop} [Decidable p] (q : Http.Request), r.Carries call q →
      ∃ qs, (if p then l.sent ++ [q] else l.sent) = l.sent ++ qs ∧
        ∀ q ∈ qs, r.Carries call q := by
    intro p _ q hq
    split
    · exact ⟨[q], rfl, List.forall_mem_singleton.mpr hq⟩
    · exact ⟨[], (List.append_nil _).symm, by simp⟩
  cases call with
  | list =>
      rw [linkAfter, list, call_sent]
      exact hsent _ rfl
  | get id =>
      rw [linkAfter, get]
      cases hu : r.messageUrl id with
      | error e => exact ⟨[], (List.append_nil _).symm, by simp⟩
      | ok u =>
          dsimp only
          rw [call_sent]
          exact hsent _ ⟨u, hu, rfl⟩
  | create draft =>
      rw [linkAfter, create, call_sent]
      exact hsent _ ⟨draft.write, rfl, draft.read_write⟩

/-- A request that cannot be sent leaves the link. -/
theorem call_unsendable (hq : (Http.Request.to method u r.headers body).isSendable = false) :
    r.call method u body broken read l
      = (.error (.network (.unsendable (Http.Request.to method u r.headers body).url.write)),
        l) := by
  rw [call]
  dsimp only
  rw [hq]
  rfl

/-- A whole body that is read is the answer. -/
theorem call_ok (hq : (Http.Request.to method u r.headers body).isSendable = true)
    (hu : u.scheme = "http") (hup : l.isUp = true) {bytes : List UInt8}
    (hl : l.deliveries = .reply 200 (.whole bytes) :: rest) {a : α} (hread : read bytes = some a) :
    r.call method u body broken read l = (.ok a, l.passed (.to method u r.headers body) rest) := by
  rw [call_delivered hq hu hup hl]
  show (readWhole broken read bytes, _) = _
  rw [readWhole, hread]

/-- A status that means a failure is a fault, whatever the body. -/
theorem call_failed (hq : (Http.Request.to method u r.headers body).isSendable = true)
    (hu : u.scheme = "http") (hup : l.isUp = true) {b : Http.Body}
    (hl : l.deliveries = .reply 500 b :: rest) :
    r.call method u body broken read l
      = (.error (.status 500 (Http.Request.to method u r.headers body).url.write),
        l.passed (.to method u r.headers body) rest) := by
  rw [call_delivered hq hu hup hl]
  rfl

end

/-! ## The three calls -/

section

variable {r : Remote} (hr : r.SpeaksHttp) {l : Http.Link} (hup : l.isUp = true)
  {d : Http.Delivery} {rest : List Http.Delivery} (hl : l.deliveries = d :: rest)

include hr hup hl

/-- **Listing**: one request for the collection, and the answer that is told. -/
theorem list_told {answer : Except Fault (List Message)} (hsend : r.CanSend .list)
    (hd : d.Tells (.listed answer)) : ∃ q answer', r.Carries .list q ∧
      r.list l = (answer', l.passed q rest) ∧ SameAnswer answer answer' := by
  have hq := hsend _ rfl
  cases hd with
  | listed ms =>
      have hread : Message.readList? (Text.ofUtf8 (Text.utf8 (Message.writeList ms).toList))
          = some ms := by
        rw [Text.ofUtf8_utf8]
        exact Message.readList_writeList ms
      exact ⟨_, _, rfl, call_ok hq hr.scheme hup hl hread, .ok ms⟩
  | listFailed fault b => exact ⟨_, _, rfl, call_failed hq hr.scheme hup hl, .error fault _ _⟩

/-- **Getting**: one request for the address of the message. -/
theorem get_told {id : MessageId} {answer : Except Fault Message} (hsend : r.CanSend (.get id))
    (hd : d.Tells (.fetched id answer)) : ∃ q answer', r.Carries (.get id) q ∧
      r.get id l = (answer', l.passed q rest) ∧ SameAnswer answer answer' := by
  obtain ⟨u, hu, hscheme⟩ := hr.messageUrl id
  have hcarries : r.Carries (.get id) (.to .get u r.headers "") := ⟨u, hu, rfl⟩
  have hq := hsend _ hcarries
  have hget : r.get id l = r.call .get u "" (.notMessage id.display)
      (fun bytes => Message.read? (Text.ofUtf8 bytes)) l := by
    rw [Remote.get, hu]
  rw [hget]
  cases hd with
  | fetched _ m =>
      have hread : Message.read? (Text.ofUtf8 (Text.utf8 m.write.toList)) = some m := by
        rw [Text.ofUtf8_utf8]
        exact Message.read_write m
      exact ⟨_, _, hcarries, call_ok hq hscheme hup hl hread, .ok m⟩
  | fetchFailed _ fault b =>
      exact ⟨_, _, hcarries, call_failed hq hscheme hup hl, .error fault _ _⟩

/-- **Creating**: one request that posts the draft. -/
theorem create_told {draft : Message} {answer : Except Fault (List Message)}
    (hsend : r.CanSend (.create draft)) (hd : d.Tells (.posted draft answer)) :
    ∃ q answer', r.Carries (.create draft) q ∧
      r.create draft l = (answer', l.passed q rest) ∧ SameAnswer answer answer' := by
  have hcarries : r.Carries (.create draft) (.to .post r.collection r.headers draft.write) :=
    ⟨draft.write, rfl, Message.read_write draft⟩
  have hq := hsend _ hcarries
  cases hd with
  | posted _ ms =>
      have hread : (some (Message.ofReply ((Text.ofUtf8Lossy
          (Text.utf8 (Message.writeList ms).toList)).map some))) = some ms := by
        rw [Text.ofUtf8Lossy_utf8]
        exact congrArg some (Message.ofReply_writeList ms)
      exact ⟨_, _, hcarries, call_ok hq hr.scheme hup hl hread, .ok ms⟩
  | postFailed _ fault b =>
      exact ⟨_, _, hcarries, call_failed hq hr.scheme hup hl, .error fault _ _⟩

end

end Remote

end Postbox
