import Mathlib.Data.List.Forall2
import Postbox.Proofs.Exchange
import Postbox.Proofs.Memory.Uses

/-! # Mirrors — a collection behind HTTP stands for one in memory

    Two screens go through the same actions, one over any service and one over a
    service behind HTTP that is told, call by call, what the first one answers.
    After every action they show the same (`Alike`) and have come to the same
    result (`Agree`), and each call has been carried by one request.

    The step is a case analysis over the ways an action can go (`Course.mirror`):
    each call on the one side takes the next delivery on the other.  The run
    follows by induction on the actions (`Run.Mirrored.acts`).  A collection in
    memory notes its calls and fails only as it was made to (`Memory.Noted`), so
    there the calls are its own notes. -/

namespace Postbox

variable {σ : Type}

/-! ## What is compared -/

/-- The event, if it is a call with its answer. -/
def Event.exchange? : Event → Option Event
  | .published _ => none
  | e => some e

/-- The calls with their answers are the events that tell of a call. -/
theorem filterMap_exchange (es : List Event) :
    es.filterMap Event.exchange? = es.filter Event.isCall := by
  have hcall : Event.exchange? = Option.guard Event.isCall := by
    funext e
    cases e with
    | listed _ => rfl
    | fetched _ _ => rfl
    | posted _ _ => rfl
    | published _ => rfl
  rw [hcall, List.filterMap_eq_filter]

/-- The result that an entry tells of. -/
def Entry.result? : Entry → Option (Except Fault Unit)
  | .ended result => some result
  | _ => none

/-- Two snapshots show the same, but for the text of the last fault. -/
structure Alike (s t : Snapshot) : Prop where
  messages : s.messages = t.messages
  pane : s.pane = t.pane
  revision : s.revision = t.revision
  lastError : s.lastError.isSome = t.lastError.isSome

/-- Two results agree: both are good or none is, and a refusal on one side is the
    same refusal on the other, unless calls are made to fail with it. -/
structure Agree (injected : Fault → Prop) (x y : Except Fault Unit) : Prop where
  ok : x = .ok () ↔ y = .ok ()
  refusal : ∀ fault : Fault, fault.IsRefusal → ¬ injected fault →
    (x = .error fault ↔ y = .error fault)

namespace Agree

variable {injected : Fault → Prop}

/-- Equal results agree. -/
theorem same (x : Except Fault Unit) : Agree injected x x :=
  ⟨Iff.rfl, fun _ _ _ => Iff.rfl⟩

/-- A fault of the one side stands for a status on the other. -/
theorem failed {fault : Fault} (h : fault.IsRefusal → injected fault) (code : Nat)
    (url : String) : Agree injected (.error fault) (.error (.status code url)) where
  ok := by
    constructor
    · intro heq
      exact nomatch heq
    · intro heq
      exact nomatch heq
  refusal := by
    intro other hother hfree
    constructor
    · intro heq
      rw [← Except.error.inj heq] at hother hfree
      exact absurd (h hother) hfree
    · intro heq
      rw [← Except.error.inj heq] at hother
      rcases hother with hother | hother
      · exact nomatch hother
      · exact nomatch hother

end Agree

namespace Alike

variable {s t : Snapshot} (h : Alike s t)

include h

/-- The same inbox. -/
theorem inbox (ms : List Message) : Alike (s.withInbox ms).bump (t.withInbox ms).bump :=
  ⟨rfl, rfl, congrArg (· + 1) h.revision, rfl⟩

/-- The same pane that waits. -/
theorem waiting (id : MessageId) : Alike (s.waitingFor id).bump (t.waitingFor id).bump :=
  ⟨h.messages, rfl, congrArg (· + 1) h.revision, h.lastError⟩

/-- The same message. -/
theorem detail (id : MessageId) (m : Message) :
    Alike (s.withDetail id m).bump (t.withDetail id m).bump :=
  ⟨h.messages, rfl, congrArg (· + 1) h.revision, rfl⟩

/-- The same draft. -/
theorem draft (d : Message) :
    Alike { s with pane := .compose d }.bump { t with pane := .compose d }.bump :=
  ⟨h.messages, rfl, congrArg (· + 1) h.revision, h.lastError⟩

/-- The same empty draft. -/
theorem newDraft : Alike s.withNewDraft.bump t.withNewDraft.bump :=
  ⟨h.messages, rfl, congrArg (· + 1) h.revision, rfl⟩

/-- Any two faults. -/
theorem fault (f g : Fault) : Alike (s.withFault f).bump (t.withFault g).bump :=
  ⟨h.messages, h.pane, congrArg (· + 1) h.revision, rfl⟩

end Alike

/-! ## One action -/

/-- Where nothing is told, the link stays. -/
theorem told_none {used rest : List Http.Delivery} {l : Http.Link}
    (h : List.Forall₂ Http.Delivery.Tells used []) (hl : l.deliveries = used ++ rest) :
    l = { l with deliveries := rest, sent := l.sent ++ [] } := by
  cases h
  rw [List.append_nil, ← show l.deliveries = rest from hl]

/-- One answer is told by the next delivery. -/
theorem told_one {e : Event} {used rest : List Http.Delivery} {l : Http.Link}
    (h : List.Forall₂ Http.Delivery.Tells used [e]) (hl : l.deliveries = used ++ rest) :
    ∃ d : Http.Delivery, d.Tells e ∧ l.deliveries = d :: rest := by
  cases h with
  | cons hd hnil =>
      cases hnil
      exact ⟨_, hd, hl⟩

/-- Two answers are told by the next two deliveries. -/
theorem told_two {e e' : Event} {used rest : List Http.Delivery} {l : Http.Link}
    (h : List.Forall₂ Http.Delivery.Tells used [e, e']) (hl : l.deliveries = used ++ rest) :
    ∃ d d' : Http.Delivery, d.Tells e ∧ d'.Tells e' ∧ l.deliveries = d :: d' :: rest := by
  cases h with
  | cons hd hrest =>
      cases hrest with
      | cons hd' hnil =>
          cases hnil
          exact ⟨_, _, hd, hd', hl⟩

/-- **One action**: what the one side is answered is told to the other, so it
    goes the same way, with one request for each call. -/
theorem Course.mirror {service : Service σ} {store : σ} {s : Snapshot} {a : Action}
    {o : Outcome σ} (c : Course service store s a o) {r : Remote} (hr : r.SpeaksHttp)
    {injected : Fault → Prop} {t : Snapshot} (hst : Alike s t) {l : Http.Link}
    (hup : l.isUp = true) {used rest : List Http.Delivery} (hl : l.deliveries = used ++ rest)
    (htold : List.Forall₂ Http.Delivery.Tells used (o.events.filterMap Event.exchange?))
    (hsend : ∀ call ∈ o.events.filterMap Event.call?, r.CanSend call)
    (hfault : ∀ e ∈ o.events, ∀ fault, e.fault? = some fault → fault.IsRefusal →
      injected fault) :
    ∃ (o' : Outcome Http.Link) (qs : List Http.Request), Course r.service l t a o' ∧
      Agree injected o.result o'.result ∧ Alike o.snapshot o'.snapshot ∧
      o'.store = { l with deliveries := rest, sent := l.sent ++ qs } ∧
      List.Forall₂ r.Carries (o.events.filterMap Event.call?) qs := by
  cases c with
  | @inboxShown ms _ listing =>
      obtain ⟨d, hd, hd'⟩ := told_one htold hl
      obtain ⟨q, _, hq, hlist, hsame⟩ := r.list_told hr hup hd' (hsend _ (.head _)) hd
      cases hsame
      exact ⟨_, [q], .inboxShown hlist, .same _, hst.inbox ms, rfl, .cons hq .nil⟩
  | @inboxFailed fault _ listing =>
      obtain ⟨d, hd, hd'⟩ := told_one htold hl
      obtain ⟨q, _, hq, hlist, hsame⟩ := r.list_told hr hup hd' (hsend _ (.head _)) hd
      cases hsame
      exact ⟨_, [q], .inboxFailed hlist, .failed (hfault _ (.head _) fault rfl) _ _,
        hst.fault _ _, rfl, .cons hq .nil⟩
  | @detailShown _ id m _ target fetching =>
      obtain ⟨d, hd, hd'⟩ := told_one htold hl
      obtain ⟨q, _, hq, hget, hsame⟩ := r.get_told hr hup hd' (hsend _ (.head _)) hd
      cases hsame
      exact ⟨_, [q], .detailShown target hget, .same _, (hst.waiting id).detail id m, rfl,
        .cons hq .nil⟩
  | @detailFailed _ id fault _ target fetching =>
      obtain ⟨d, hd, hd'⟩ := told_one htold hl
      obtain ⟨q, _, hq, hget, hsame⟩ := r.get_told hr hup hd' (hsend _ (.head _)) hd
      cases hsame
      exact ⟨_, [q], .detailFailed target hget,
        .failed (hfault _ (.tail _ (.head _)) fault rfl) _ _, (hst.waiting id).fault _ _, rfl,
        .cons hq .nil⟩
  | idMissing missing =>
      exact ⟨_, [], .idMissing missing, .same _, hst, told_none htold hl, .nil⟩
  | draftStarted =>
      exact ⟨_, [], .draftStarted, .same _, hst.newDraft, told_none htold hl, .nil⟩
  | @draftEdited f d shown =>
      exact ⟨_, [], .draftEdited (hst.pane ▸ shown), .same _, hst.draft (f d),
        told_none htold hl, .nil⟩
  | editRefused hidden =>
      exact ⟨_, [], .editRefused (hst.pane ▸ hidden), .same _, hst, told_none htold hl, .nil⟩
  | saveRefused hidden =>
      exact ⟨_, [], .saveRefused (hst.pane ▸ hidden), .same _, hst, told_none htold hl, .nil⟩
  | @saveFailed d fault _ shown posting =>
      obtain ⟨d, hd, hd'⟩ := told_one htold hl
      obtain ⟨q, _, hq, hpost, hsame⟩ := r.create_told hr hup hd' (hsend _ (.head _)) hd
      cases hsame
      exact ⟨_, [q], .saveFailed (hst.pane ▸ shown) hpost,
        .failed (hfault _ (.head _) fault rfl) _ _, hst.fault _ _, rfl, .cons hq .nil⟩
  -- the list is asked for over the link that the post has left
  | @savedAndShown _ saved ms _ _ shown posting listing =>
      obtain ⟨d, d', hd, hd', hdd'⟩ := told_two htold hl
      obtain ⟨q, _, hq, hpost, hsame⟩ := r.create_told hr hup hdd' (hsend _ (.head _)) hd
      cases hsame
      obtain ⟨q', _, hq', hlist, hsame⟩ :=
        r.list_told hr (l := l.passed q (d' :: rest)) hup rfl (hsend _ (.tail _ (.head _))) hd'
      cases hsame
      exact ⟨_, [q, q'], .savedAndShown (hst.pane ▸ shown) hpost hlist, .same _, hst.inbox ms,
        by rw [Http.Link.passed, Http.Link.passed, List.append_assoc]; rfl,
        .cons hq (.cons hq' .nil)⟩
  | @savedNotShown _ saved fault _ _ shown posting listing =>
      obtain ⟨d, d', hd, hd', hdd'⟩ := told_two htold hl
      obtain ⟨q, _, hq, hpost, hsame⟩ := r.create_told hr hup hdd' (hsend _ (.head _)) hd
      cases hsame
      obtain ⟨q', _, hq', hlist, hsame⟩ :=
        r.list_told hr (l := l.passed q (d' :: rest)) hup rfl (hsend _ (.tail _ (.head _))) hd'
      cases hsame
      exact ⟨_, [q, q'], .savedNotShown (hst.pane ▸ shown) hpost hlist,
        .failed (hfault _ (.tail _ (.head _)) fault rfl) _ _, hst.fault _ _,
        by rw [Http.Link.passed, Http.Link.passed, List.append_assoc]; rfl,
        .cons hq (.cons hq' .nil)⟩

/-! ## A run -/

namespace Outcome

variable (a : Action) (o : Outcome σ)

/-- An action has one result. -/
theorem entries_result : (o.entries a).filterMap Entry.result? = [o.result] := by
  rw [entries, List.filterMap_cons_none rfl, List.filterMap_append, List.filterMap_map,
    show Entry.result? ∘ Entry.happened = fun _ => none from rfl, List.filterMap_eq_nil_iff.mpr]
  · rfl
  · intro _ _
    rfl

end Outcome

namespace Run

/-- The results of a run, one for each action. -/
def results (a : Run σ) : List (Except Fault Unit) := a.history.filterMap Entry.result?

/-- An action adds its result. -/
theorem results_after (x : Action) (o : Outcome σ) (a : Run σ) :
    (a.after x o).results = a.results ++ [o.result] := by
  rw [results, after, List.filterMap_append, Outcome.entries_result]
  rfl

/-- More actions add to what has happened. -/
theorem events_acts (service : Service σ) (actions : List Action) (a : Run σ) :
    ∃ more, (a.acts service actions).events = a.events ++ more := by
  induction actions generalizing a with
  | nil => exact ⟨[], (List.append_nil _).symm⟩
  | cons x actions ih =>
      obtain ⟨more, hmore⟩ := ih (a.act service x)
      have hact := act_eq (Action.course_run service x a.session.store a.session.snapshot)
      rw [hact, events_after, List.append_assoc] at hmore
      rw [← hact] at hmore
      exact ⟨_, hmore⟩

/-- Two runs have gone alike: with agreeing results, to snapshots that show the
    same, and one request for each call. -/
structure Mirrored (r : Remote) (injected : Fault → Prop) (a : Run σ) (b : Run Http.Link) :
    Prop where
  results : List.Forall₂ (Agree injected) a.results b.results
  alike : Alike a.session.snapshot b.session.snapshot
  requests : List.Forall₂ r.Carries (a.events.filterMap Event.call?) b.session.store.sent
  up : b.session.store.isUp = true

/-- An action keeps two runs alike. -/
theorem Mirrored.after {r : Remote} {injected : Fault → Prop} {a : Run σ} {b : Run Http.Link}
    (h : Mirrored r injected a b) (x : Action) {o : Outcome σ} {o' : Outcome Http.Link}
    (hresult : Agree injected o.result o'.result) (halike : Alike o.snapshot o'.snapshot)
    {rest : List Http.Delivery} {qs : List Http.Request}
    (hstore : o'.store = { b.session.store with
      deliveries := rest, sent := b.session.store.sent ++ qs })
    (hqs : List.Forall₂ r.Carries (o.events.filterMap Event.call?) qs) :
    Mirrored r injected (a.after x o) (b.after x o') where
  results := by
    rw [results_after, results_after]
    exact List.rel_append h.results (.cons hresult .nil)
  alike := halike
  requests := by
    show List.Forall₂ r.Carries _ o'.store.sent
    rw [events_after, List.filterMap_append, hstore]
    exact List.rel_append h.requests hqs
  up := by
    show o'.store.isUp = true
    rw [hstore]
    exact h.up

/-- **A run**: what the calls of some more actions are answered on the one side is
    told to the other, so both go on alike. -/
theorem Mirrored.acts {service : Service σ} {r : Remote} (hr : r.SpeaksHttp)
    {injected : Fault → Prop} (actions : List Action) {a : Run σ} {b : Run Http.Link}
    (h : Mirrored r injected a b) {more : List Event}
    (hmore : (a.acts service actions).events = a.events ++ more)
    {used rest : List Http.Delivery} (hl : b.session.store.deliveries = used ++ rest)
    (htold : List.Forall₂ Http.Delivery.Tells used (more.filterMap Event.exchange?))
    (hsend : ∀ call ∈ more.filterMap Event.call?, r.CanSend call)
    (hfault : ∀ e ∈ more, ∀ fault, e.fault? = some fault → fault.IsRefusal →
      injected fault) :
    Mirrored r injected (a.acts service actions) (b.acts r.service actions) := by
  induction actions generalizing a b more used with
  | nil => exact h
  | cons x actions ih =>
      obtain ⟨o, c⟩ : ∃ o, Course service a.session.store a.session.snapshot x o :=
        ⟨_, Action.course_run service x _ _⟩
      obtain ⟨later, hlater⟩ := events_acts service actions (a.act service x)
      -- what happens is what happens in this action and in the later ones
      have hsplit : more = o.events ++ later := by
        have heq := hmore.symm.trans hlater
        rw [act_eq c, events_after, List.append_assoc] at heq
        exact List.append_cancel_left heq
      subst hsplit
      rw [List.filterMap_append] at htold hsend
      -- so the deliveries are those that tell of this action and those behind them
      have hnow := List.forall₂_take_append _ _ _ htold
      have hthen := List.forall₂_drop_append _ _ _ htold
      generalize (o.events.filterMap Event.exchange?).length = n at hnow hthen
      rw [← List.take_append_drop n used, List.append_assoc] at hl
      obtain ⟨o', qs, c', hresult, halike, hstore, hqs⟩ := c.mirror hr h.alike h.up hl hnow
        (fun call hcall => hsend call (List.mem_append_left _ hcall))
        (fun e he => hfault e (List.mem_append_left _ he))
      have hrest : (b.act r.service x).session.store.deliveries = used.drop n ++ rest := by
        rw [act_eq c']
        show o'.store.deliveries = _
        rw [hstore]
      have hstep : Mirrored r injected (a.act service x) (b.act r.service x) := by
        rw [act_eq c, act_eq c']
        exact h.after x hresult halike hstore hqs
      exact ih hstep hlater hrest hthen
        (fun call hcall => hsend call (List.mem_append_right _ hcall))
        (fun e he => hfault e (List.mem_append_right _ he))

end Run

/-! ## A collection in memory -/

namespace Memory

/-- What a collection in memory keeps while things happen: it fails as it was made
    to, notes its calls, and refuses only where it was made to fail so. -/
structure Noted (m : Memory) (events : List Event) (m' : Memory) : Prop where
  failures : m'.failures = m.failures
  calls : m'.calls = m.calls ++ events.filterMap Event.call?
  refusal : ∀ e ∈ events, ∀ fault, e.fault? = some fault → fault.IsRefusal →
    ∃ o, m.failures o = some fault

/-- One call that is noted. -/
theorem Noted.single {m m' : Memory} {e : Event} {call : Call} (told : e.call? = some call)
    (failures : m'.failures = m.failures) (calls : m'.calls = m.calls ++ [call])
    (refusal : ∀ fault, e.fault? = some fault → fault.IsRefusal →
      ∃ o, m.failures o = some fault) : Noted m [e] m' where
  failures := failures
  calls := by rw [calls, List.filterMap_cons_some told, List.filterMap_nil]
  refusal := by
    intro e' he' fault hfault
    rw [List.mem_singleton.mp he'] at hfault
    exact refusal fault hfault

/-- A call is noted, and refused only where it was made to fail so. -/
theorem Answered.noted {m m' : Memory} {e : Event} (h : m.Answered e m') : Noted m [e] m' := by
  cases h with
  | failed told bad made =>
      refine .single told rfl rfl ?_
      intro fault hfault _
      exact ⟨_, made.trans (bad.symm.trans hfault)⟩
  | listed _ => exact .single rfl rfl rfl nofun
  | found _ _ => exact .single rfl rfl rfl nofun
  | missing _ _ =>
      -- a message that is not there is no refusal
      refine .single rfl rfl rfl ?_
      intro fault hfault hrefusal
      rw [← Option.some.inj hfault] at hrefusal
      rcases hrefusal with hrefusal | hrefusal
      · exact nomatch hrefusal
      · exact nomatch hrefusal
  | taken _ => exact .single rfl rfl rfl nofun

/-- One thing after the other. -/
theorem Noted.append {m m' m'' : Memory} {events later : List Event} (h : Noted m events m')
    (h' : Noted m' later m'') : Noted m (events ++ later) m'' where
  failures := h'.failures.trans h.failures
  calls := by rw [h'.calls, h.calls, List.filterMap_append, List.append_assoc]
  refusal := by
    intro e he fault hfault hrefusal
    rcases List.mem_append.mp he with he | he
    · exact h.refusal e he fault hfault hrefusal
    · obtain ⟨o, ho⟩ := h'.refusal e he fault hfault hrefusal
      rw [h.failures] at ho
      exact ⟨o, ho⟩

/-- **What is answered is noted**, one call after the other. -/
theorem Noted.answered {m m' : Memory} {es : List Event} (h : service.AnswersAll m es m') :
    Noted m es m' := by
  induction h with
  | none => exact ⟨rfl, (List.append_nil _).symm, fun _ he => nomatch he⟩
  | call first _ ih => exact (Memory.answered first).noted.append ih

end Memory

/-! ## The one for the other -/

/-- A run over a collection behind HTTP mirrors one over a collection in memory:
    the results agree, the snapshots show the same, and the requests carry the
    calls that have been noted since the run began.  What the deliveries tell is what
    the collection in memory answered. -/
structure Mirrors (r : Remote) (m : Memory) (a : Run Memory) (b : Run Http.Link) : Prop where
  answered : Memory.service.AnswersAll m (a.events.filterMap Event.exchange?) a.session.store
  results : List.Forall₂ (Agree fun fault => ∃ o, m.failures o = some fault) a.results b.results
  alike : Alike a.session.snapshot b.session.snapshot
  requests : ∃ calls, a.session.store.calls = m.calls ++ calls ∧
    List.Forall₂ r.Carries calls b.session.store.sent

/-- **A collection behind HTTP stands for one in memory**: when its deliveries tell,
    call by call, what the collection in memory answers, and the requests for these
    calls can be sent, then after every action the one run mirrors the other. -/
theorem remote_mirrors_memory {settings : Settings} {r : Remote}
    (accepted : Remote.ofSettings settings = .ok r) (http : r.collection.scheme = "http")
    (m : Memory) (actions : List Action) (deliveries : List Http.Delivery)
    (told : List.Forall₂ Http.Delivery.Tells deliveries
      (((Run.new m).acts Memory.service actions).events.filterMap Event.exchange?))
    (sendable : ∀ call ∈ ((Run.new m).acts Memory.service actions).events.filterMap Event.call?,
      r.CanSend call)
    (done rest : List Action) (hdone : actions = done ++ rest) :
    Mirrors r m ((Run.new m).acts Memory.service done)
      ((Run.new { deliveries := deliveries }).acts r.service done) := by
  subst hdone
  have hr := Remote.SpeaksHttp.of_settings accepted http
  obtain ⟨later, hlater⟩ :=
    Run.events_acts Memory.service rest ((Run.new m).acts Memory.service done)
  -- the deliveries tell of all actions; those done take as many as they have calls
  rw [Run.acts_append, hlater, List.filterMap_append] at told sendable
  have hnow := List.forall₂_take_append _ _ _ told
  generalize (((Run.new m).acts Memory.service done).events.filterMap
    Event.exchange?).length = n at hnow
  have hanswered := Run.asked_answered Memory.service m done
  have hnoted := Memory.Noted.answered hanswered
  have hcalls := hnoted.calls
  rw [Run.asked, Event.filterMap_calls (fun _ => rfl)] at hcalls
  have hnew : Run.Mirrored r (fun fault => ∃ o, m.failures o = some fault) (Run.new m)
      (Run.new { deliveries := deliveries }) :=
    ⟨.nil, ⟨rfl, rfl, rfl, rfl⟩, .nil, rfl⟩
  have h := hnew.acts hr done (List.nil_append _).symm
    (List.take_append_drop n deliveries).symm hnow
    (fun call hcall => sendable call (List.mem_append_left _ hcall))
    (fun e he fault hfault => hnoted.refusal e
      (List.mem_filter.mpr ⟨he, Event.isCall_of_fault hfault⟩) fault hfault)
  refine ⟨?_, h.results, h.alike, _, hcalls, h.requests⟩
  rw [filterMap_exchange]
  exact hanswered

/-- A collection in which no message can be got. -/
def Memory.closed : Memory where
  failures := fun o => if o = .get then some (.timeout (.ofSecs 30)) else none
  clock := 0

/-- A draft is written, saved and opened. -/
def Action.tour : List Action :=
  [.showInbox, .startDraft, .editDraft fun d => d.withText "a", .saveDraft, .showId (.number 1)]

/-- What the tour is told of the collection. -/
def Action.tourDeliveries : List Http.Delivery :=
  let saved : Message := { id := some (.number 1), text := some "a", created := some (.millis 0) }
  let records := Http.Delivery.reply 200 (.whole (Text.utf8 (Message.writeList [saved]).toList))
  [.reply 200 (.whole (Text.utf8 (Message.writeList []).toList)), records, records,
    .reply 500 (.whole [])]

namespace Remote

/-- A request to the loop-back host can be sent if its address is not too long. -/
theorem loopback_isSendable (method : Http.Method) (path : Url.Path) (hs : Http.Headers)
    (body : String) : (Http.Request.to method (.loopback path) hs body).isSendable
      = decide ((Url.loopback path).write.utf8ByteSize ≤ 65534) := by
  have hhost : (!"[::1]".toList.any fun c => "\"`\x7b\x7d".toList.contains c) = true := by decide
  rw [Http.Request.to_anonymous rfl, Http.Request.isSendable]
  show (true && decide _ && !"[::1]".toList.any fun c => "\"`\x7b\x7d".toList.contains c) = _
  rw [hhost, Bool.true_and, Bool.and_true]
  rfl

/-- The collection at the loop-back host can be listed. -/
theorem loopback_list : loopback.CanSend .list := by
  rintro q rfl
  exact (loopback_isSendable .get (.segments ["rest", ""]) _ "").trans (by decide)

end Remote

/-- The tour is mirrored at the loop-back address. -/
theorem remote_mirrors_memory_tour :
    Mirrors .loopback .closed ((Run.new .closed).acts Memory.service Action.tour)
      ((Run.new { deliveries := Action.tourDeliveries }).acts Remote.loopback.service
        Action.tour) := by
  refine @remote_mirrors_memory { baseUrl := "http://[::1]/" } .loopback rfl rfl .closed
    Action.tour Action.tourDeliveries ?_ ?_ Action.tour [] rfl
  · show List.Forall₂ Http.Delivery.Tells Action.tourDeliveries
      [.listed (.ok []), .posted _ (.ok [_]), .listed (.ok [_]), .fetched _ (.error _)]
    exact .cons (.listed _) (.cons (.posted _ _) (.cons (.listed _)
      (.cons (.fetchFailed _ _ _) .nil)))
  · show ∀ call ∈ [Call.list, .create _, .list, .get _], Remote.loopback.CanSend call
    simp only [List.forall_mem_cons]
    refine ⟨Remote.loopback_list, ?_, Remote.loopback_list, ?_, fun _ h => nomatch h⟩
    · rintro q ⟨body, rfl, -⟩
      exact (Remote.loopback_isSendable .post (.segments ["rest", ""]) _ body).trans (by decide)
    · rintro q ⟨u, hu, rfl⟩
      cases hu
      exact (Remote.loopback_isSendable .get _ _ "").trans (by decide)

/-! ## Where it does not -/

/-- ASCII characters outside of the set are written as they are. -/
theorem Url.escape_plain {reserved : Char → Bool} {cs : List Char}
    (h : ∀ c ∈ cs, c.toNat < 0x80 ∧ reserved c = false) : Url.escape reserved cs = cs := by
  induction cs with
  | nil => rfl
  | cons c cs ih =>
      obtain ⟨hascii, hfree⟩ := h c List.mem_cons_self
      have hrest := ih fun d hd => h d (List.mem_cons_of_mem c hd)
      rw [Url.escape] at hrest
      rw [Url.escape, List.flatMap_cons, hrest, Url.escapeChar, if_neg]
      · rfl
      · rw [hfree, Bool.or_false, decide_eq_true_eq]
        omega

/-- A name that begins with a letter is not that of the segment above. -/
theorem Url.isAbove_letter (cs : List Char) : Url.isAbove ('a' :: cs) = false := by
  rw [Url.isAbove, Url.unescapeDots]
  · rfl
  · intro _ _ h
    exact absurd h (by decide)

/-- A name that begins with a letter is not that of the segment itself. -/
theorem Url.isHere_letter (cs : List Char) : Url.isHere ('a' :: cs) = false := by
  rw [Url.isHere, Url.unescapeDots]
  · rfl
  · intro _ _ h
    exact absurd h (by decide)

/-- A run of a letter is a name that is kept as it is. -/
theorem Url.Trail.read_run (n : Nat) :
    (({ behind := ["rest"] } : Url.Trail).read "http" Url.Reserved.specialSegment true
      ('a' :: List.replicate n 'a')).behind
        = [String.ofList ('a' :: List.replicate n 'a'), "rest"] := by
  have hmem : ∀ c ∈ 'a' :: List.replicate n 'a', c = 'a' := by
    intro c hc
    rw [← List.replicate_succ] at hc
    exact List.eq_of_mem_replicate hc
  have hbreaks : Url.withoutBreaks ('a' :: List.replicate n 'a')
      = 'a' :: List.replicate n 'a' := by
    refine List.filter_eq_self.mpr fun c hc => ?_
    rw [hmem c hc]
    rfl
  -- letters are neither broken off nor escaped, and stand for no dots
  have hescape : Url.escape Url.Reserved.specialSegment ('a' :: List.replicate n 'a')
      = 'a' :: List.replicate n 'a' := by
    refine Url.escape_plain fun c hc => ?_
    rw [hmem c hc]
    exact ⟨by decide, by decide⟩
  rw [Url.Trail.read]
  show Url.Trail.behind
    (if Url.isAbove (Url.escape _ (Url.withoutBreaks _)) then _ else _) = _
  rw [hbreaks, hescape, if_neg (Bool.eq_false_iff.mp (Url.isAbove_letter _)),
    if_neg (Bool.eq_false_iff.mp (Url.isHere_letter _))]
  rfl

/-- A long run of one letter is a segment of its own. -/
theorem Url.Path.push_run (n : Nat) :
    Url.Path.push "http" ["rest", ""] (String.ofList (List.replicate (n + 1) 'a'))
      = ["rest", String.ofList (List.replicate (n + 1) 'a')] := by
  have hlist : (String.ofList (List.replicate (n + 1) 'a')).toList
      = 'a' :: List.replicate n 'a' :=
    String.toList_ofList
  have hdots : ∀ s : String, s.toList.head? ≠ some 'a' →
      (String.ofList (List.replicate (n + 1) 'a') == s) = false := by
    intro s hs
    rw [beq_eq_false_iff_ne]
    rintro rfl
    rw [hlist] at hs
    exact hs rfl
  rw [Url.Path.push]
  dsimp only
  rw [hdots "." (by decide), hdots ".." (by decide), hlist]
  show (Url.Trail.read "http" Url.Reserved.specialSegment true
    ('a' :: List.replicate n 'a') { behind := ["rest"] }).behind.reverse = _
  rw [Url.Trail.read_run]
  rfl

/-- A run of a letter has as many bytes as letters. -/
theorem size_run (n : Nat) : (String.ofList (List.replicate n 'a')).utf8ByteSize = n := by
  induction n with
  | zero => rfl
  | succ n ih =>
      rw [List.replicate_succ, ← List.singleton_append, String.ofList_append,
        String.utf8ByteSize_append, ih]
      show 1 + n = n + 1
      omega

/-- The text of an address is at least as long as that of its path. -/
theorem Url.size_path_le (u : Url) : u.path.write.utf8ByteSize ≤ u.write.utf8ByteSize := by
  rw [Url.write]
  simp only [String.utf8ByteSize_append]
  omega

/-- An id that makes an address longer than any that can be sent to. -/
def MessageId.endless : MessageId := .text (String.ofList (List.replicate 65535 'a'))

/-- A message of this id cannot be asked for at the loop-back address. -/
theorem Remote.loopback_get_endless (l : Http.Link) :
    ∃ url, loopback.service.get .endless l = (.error (.network (.unsendable url)), l) := by
  let path : Url.Path := .segments ["rest", String.ofList (List.replicate (65534 + 1) 'a')]
  have hurl : loopback.messageUrl .endless = .ok (.loopback path) := by
    show Except.ok (Url.loopback (.segments (Url.Path.push "http" ["rest", ""]
      (String.ofList (List.replicate (65534 + 1) 'a'))))) = _
    rw [Url.Path.push_run]
  -- the id alone is longer than an address may be
  have hsize : 65534 < (Url.loopback path).write.utf8ByteSize := by
    have hle := (Url.loopback path).size_path_le
    have hpath : (Url.loopback path).path.write = "" ++ ("/" ++ "rest")
        ++ ("/" ++ String.ofList (List.replicate (65534 + 1) 'a')) := rfl
    rw [hpath] at hle
    simp only [String.utf8ByteSize_append, size_run] at hle
    omega
  have hq : (Http.Request.to .get (.loopback path) loopback.headers "").isSendable = false := by
    rw [loopback_isSendable]
    exact decide_eq_false (by omega)
  refine ⟨(Http.Request.to .get (.loopback path) loopback.headers "").url.write, ?_⟩
  show loopback.get .endless l = _
  rw [Remote.get, hurl]
  exact call_unsendable hq

/-- A message of this id. -/
def Message.endless : Message := { id := some .endless }

/-- A collection that holds this message. -/
def Memory.endless : Memory := { messages := [.endless], clock := 0 }

/-- A collection whose listing is made to fail with a refusal. -/
def Memory.refusing : Memory where
  failures := fun o => if o = .list then some .notComposing else none
  clock := 0

/-- The only message of a collection is found under its id. -/
theorem Memory.get_only {message : Message} {id : MessageId} (h : message.id = some id)
    (clock : Int64) : service.get id { messages := [message], clock := clock }
      = (.ok message, { messages := [message], calls := [.get id], clock := clock }) := by
  have hfind : [message].find? (fun m => m.id == some id) = some message :=
    List.find?_cons_of_pos (by rw [h]; exact beq_self_eq_true _)
  show Memory.get id { messages := [message], clock := clock } = _
  rw [Memory.get, answer]
  dsimp only
  rw [hfind]
  rfl

/-- **Two runs that are told what they should be and do not go alike.**  In memory
    the message of an endless id is shown, while behind HTTP no request goes out for
    it; and where a listing is made to fail with a refusal, the other one fails with
    a status. -/
theorem remote_differs_from_memory :
    Remote.ofSettings { baseUrl := "http://[::1]/" } = .ok .loopback ∧
    Remote.loopback.collection.scheme = "http" ∧
    (let d := Http.Delivery.reply 200 (.whole (Text.utf8 Message.endless.write.toList))
      let a := (Run.new .endless).acts Memory.service [.showId .endless]
      let b := (Run.new { deliveries := [d] }).acts Remote.loopback.service [.showId .endless]
      List.Forall₂ Http.Delivery.Tells [d] (a.events.filterMap Event.exchange?) ∧
        a.results = [.ok ()] ∧ (∃ fault, b.results = [.error fault]) ∧
        b.session.store.sent = []) ∧
    (let d := Http.Delivery.reply 500 (.whole [])
      let a := (Run.new .refusing).acts Memory.service [.showInbox]
      let b := (Run.new { deliveries := [d] }).acts Remote.loopback.service [.showInbox]
      List.Forall₂ Http.Delivery.Tells [d] (a.events.filterMap Event.exchange?) ∧
        a.results = [.error .notComposing] ∧
        ∃ code url, b.results = [.error (.status code url)]) := by
  refine ⟨rfl, rfl, ?_, ?_⟩
  · -- a message whose address is too long: the delivery is never asked for
    intro d a b
    obtain ⟨url, hget⟩ := Remote.loopback_get_endless { deliveries := [d] }
    have ha : a = _ := Run.act_eq (r := Run.new Memory.endless)
      (Course.detailShown (Or.inl rfl) (Memory.get_only rfl 0))
    have hb : b = _ := Run.act_eq (r := Run.new ({ deliveries := [d] } : Http.Link))
      (Course.detailFailed (Or.inl rfl) hget)
    rw [ha, hb]
    exact ⟨.cons (.fetched _ _) .nil, rfl, ⟨_, rfl⟩, rfl⟩
  · -- a listing that is made to fail with a refusal: behind HTTP it is a status
    intro d a b
    have hlist : Remote.loopback.service.list { deliveries := [d] } = _ :=
      Remote.call_failed (Remote.loopback_list _ rfl) rfl rfl rfl
    have hb : b = _ := Run.act_eq (r := Run.new ({ deliveries := [d] } : Http.Link))
      (Course.inboxFailed hlist)
    rw [hb]
    exact ⟨.cons (.listFailed _ _) .nil, rfl, _, _, rfl⟩

end Postbox
