import Postbox.Proofs.Failure

/-! # Reporting — the text of the last fault

    The text of a fault is shown from the call that failed until an action is
    completed that is no edit.  In a history this is a matter of what came since: a
    call has failed, and no such action was completed behind it (`Unsettled`).

    Each entry decides anew (`unsettled_snoc`), and of the entries of an action only
    the calls that failed and the end do (`unsettled_entries`).  What an action leaves
    of the text depends on whether it was completed (`Course.completed`), refused or
    failed (`Course.failure`).  The faults in a history are those of the calls that failed
    (`Run.faults_asked`). -/

namespace Postbox

variable {σ : Type}

/-- The fault of a call that failed. -/
def Entry.fault? : Entry → Option Fault
  | .happened e => e.fault?
  | _ => none

/-- Whether an action changes a draft and does nothing else. -/
def Action.isEdit : Action → Bool
  | .editDraft _ => true
  | _ => false

/-- An entry behind a history completes an action that is no edit: the one that was
    begun last. -/
def Settles (h : List Entry) (e : Entry) : Prop :=
  e = .ended (.ok ()) ∧ ∃ a, latest? Entry.begun? h = some a ∧ a.isEdit = false

/-- A call has failed, and no action but an edit was completed since. -/
def Unsettled (h : List Entry) : Prop :=
  ∃ before e after, h = before ++ e :: after ∧ e.fault?.isSome = true
    ∧ ∀ mid x rest, after = mid ++ x :: rest → ¬ Settles (before ++ e :: mid) x

/-! ## Growing histories -/

/-- In a history that grows a fault is unsettled if it has just come, or if it was
    unsettled and is not settled now. -/
theorem unsettled_snoc (h : List Entry) (x : Entry) :
    Unsettled (h ++ [x]) ↔ x.fault?.isSome = true ∨ Unsettled h ∧ ¬ Settles h x := by
  constructor
  · rintro ⟨before, e, after, heq, he, hsince⟩
    rcases snoc_eq_cases heq with ⟨-, rfl⟩ | ⟨after', rfl, rfl⟩
    · exact Or.inl he
    · refine Or.inr ⟨⟨before, e, after', rfl, he, ?_⟩, hsince after' x [] rfl⟩
      rintro mid y rest rfl
      exact hsince mid y (rest ++ [x]) (by simp)
  · rintro (hx | ⟨⟨before, e, after, rfl, he, hsince⟩, hx⟩)
    · refine ⟨h, x, [], rfl, hx, ?_⟩
      intro mid y rest heq
      exact nomatch (List.append_eq_nil_iff.mp heq.symm).2
    · refine ⟨before, e, after ++ [x], by simp, he, ?_⟩
      intro mid y rest heq
      rcases snoc_eq_cases heq with ⟨rfl, rfl⟩ | ⟨rest', -, hafter⟩
      · exact hx
      · exact hsince mid y rest' hafter

/-- Entries that complete nothing settle nothing. -/
theorem unsettled_append {es : List Entry} (hes : ∀ e ∈ es, e ≠ .ended (.ok ()))
    (h : List Entry) :
    Unsettled (h ++ es) ↔ es.filterMap Entry.fault? ≠ [] ∨ Unsettled h := by
  induction es generalizing h with
  | nil => simp
  | cons e es ih =>
      have hsettles : ¬ Settles h e := fun hs => hes e List.mem_cons_self hs.1
      rw [List.append_cons, ih (fun x hx => hes x (List.mem_cons_of_mem e hx)),
        unsettled_snoc]
      cases hfault : e.fault? with
      | none => simp [List.filterMap_cons_none hfault, hsettles]
      | some fault => simp [List.filterMap_cons_some hfault]

/-- The calls that failed are among the events of an action. -/
theorem entries_fault (a : Action) (o : Outcome σ) :
    (o.entries a).filterMap Entry.fault? = o.events.filterMap Event.fault? :=
  Outcome.entries_kind rfl rfl

/-- The last call that failed is one of an action, or it failed before. -/
theorem latest_fault (h : List Entry) (a : Action) (o : Outcome σ) :
    latest? Entry.fault? (h ++ o.entries a)
      = (o.events.filterMap Event.fault?).getLast?.or (latest? Entry.fault? h) := by
  rw [latest?, List.filterMap_append, entries_fault, List.getLast?_append]
  rfl

/-- While an action goes it is the one that was begun last. -/
theorem latest_begun (h : List Entry) (a : Action) (events : List Event) :
    latest? Entry.begun? (h ++ .began a :: events.map .happened) = some a := by
  rw [latest?, List.filterMap_append,
    List.filterMap_cons_some (show Entry.begun? (.began a) = some a from rfl),
    Entry.begun_events, List.getLast?_concat]

/-- **An action leaves a fault unsettled** if one of its calls failed or one was
    unsettled before, unless it is completed and no edit. -/
theorem unsettled_entries (h : List Entry) (a : Action) (o : Outcome σ) :
    Unsettled (h ++ o.entries a) ↔
      (o.events.filterMap Event.fault? ≠ [] ∨ Unsettled h)
        ∧ ¬ (o.result = .ok () ∧ a.isEdit = false) := by
  have hentries : h ++ o.entries a
      = (h ++ .began a :: o.events.map .happened) ++ [.ended o.result] := by
    simp [Outcome.entries]
  have hend : Settles (h ++ .began a :: o.events.map .happened) (.ended o.result) ↔
      o.result = .ok () ∧ a.isEdit = false := by
    simp [Settles, latest_begun]
  have hcalls : (Entry.began a :: o.events.map .happened).filterMap Entry.fault?
      = o.events.filterMap Event.fault? := by
    rw [List.filterMap_cons_none rfl, List.filterMap_map]
    rfl
  rw [hentries, unsettled_snoc, unsettled_append (by simp), hend, hcalls]
  simp [Entry.fault?]

/-! ## Actions -/

/-- An action that is completed had no call that failed.  It clears the text of the
    last fault, unless it is an edit, which leaves it. -/
theorem Course.completed {service : Service σ} {store : σ} {s : Snapshot} {a : Action}
    {o : Outcome σ} (c : Course service store s a o) (hok : o.result = .ok ()) :
    o.events.filterMap Event.fault? = []
      ∧ o.snapshot.lastError = if a.isEdit then s.lastError else none := by
  cases c with
  | inboxShown _ => exact ⟨rfl, rfl⟩
  | detailShown target _ =>
      rcases target with rfl | ⟨m₀, rfl, -⟩
      · exact ⟨rfl, rfl⟩
      · exact ⟨rfl, rfl⟩
  | draftStarted => exact ⟨rfl, rfl⟩
  | draftEdited _ => exact ⟨rfl, rfl⟩
  | savedAndShown _ _ _ => exact ⟨rfl, rfl⟩
  | inboxFailed _ => exact nomatch hok
  | detailFailed _ _ => exact nomatch hok
  | idMissing _ => exact nomatch hok
  | editRefused _ => exact nomatch hok
  | saveRefused _ => exact nomatch hok
  | saveFailed _ _ => exact nomatch hok
  | savedNotShown _ _ _ => exact nomatch hok

/-- An edit leaves the text of the last fault, also one that is refused. -/
theorem Course.edit_lastError {service : Service σ} {store : σ} {s : Snapshot}
    {f : Message → Message} {o : Outcome σ} (c : Course service store s (.editDraft f) o) :
    o.snapshot.lastError = s.lastError := by
  cases c with
  | draftEdited _ => rfl
  | editRefused _ => rfl
  | detailShown target _ => exact nomatch target_eq target
  | detailFailed target _ => exact nomatch target_eq target

/-- A snapshot shows the text of a fault if one is unsettled, and then that of the last
    call that failed. -/
def Reports (h : List Entry) (s : Snapshot) : Prop :=
  ∀ text, s.lastError = some text ↔
    Unsettled h ∧ ∃ fault, latest? Entry.fault? h = some fault ∧ fault.message = text

namespace Reports

/-- A new screen has no fault to show. -/
theorem new : Reports [] {} := by
  intro text
  constructor
  · intro h
    exact nomatch h
  · rintro ⟨⟨before, e, after, heq, -⟩, -⟩
    exact nomatch (List.append_eq_nil_iff.mp heq.symm).2

/-- **An action leaves the text that its history tells of**, whichever way it goes. -/
theorem course {h : List Entry} {s : Snapshot} (hs : Reports h s) {service : Service σ}
    {store : σ} {a : Action} {o : Outcome σ} (c : Course service store s a o) :
    Reports (h ++ o.entries a) o.snapshot := by
  intro text
  rw [unsettled_entries, latest_fault]
  cases hresult : o.result with
  | ok _ =>
      obtain ⟨hfaults, herror⟩ := c.completed hresult
      rw [hfaults, herror]
      cases a.isEdit with
      | true => simpa using hs text
      | false => simp
  | error fault =>
      rcases c.failure hresult with refused | failed
      · rw [refused.events, refused.snapshot]
        simpa using hs text
      · rw [failed.faults, failed.snapshot]
        simp

end Reports

/-- The faults in the history of a run are those of the calls that failed. -/
theorem Run.faults_asked (r : Run σ) :
    r.history.filterMap Entry.fault? = r.asked.filterMap Event.fault? := by
  have hentry : (fun e : Entry => e.event?.bind Event.fault?) = Entry.fault? := by
    funext e
    cases e with
    | began _ => rfl
    | happened _ => rfl
    | ended _ => rfl
  rw [asked, Event.filterMap_calls (fun _ => rfl), events, List.filterMap_filterMap, hentry]

/-- **The last error tells the truth about the history.**  After any actions over any
    service the text of a fault is shown exactly if a call has failed and no action but
    an edit was completed since, and then it is the text of the last call that failed.
    The calls are those that the service was asked, each with its own answer, and the
    faults in the history are those of the calls that failed.  An edit leaves the text,
    and so does every action that fails without a call, which is a refusal. -/
theorem lastError_truthful (service : Service σ) (store : σ) (actions : List Action) :
    let r := (Run.new store).acts service actions
    service.AnswersAll store r.asked r.session.store
      ∧ r.history.filterMap Entry.fault? = r.asked.filterMap Event.fault?
      ∧ (∀ text, r.session.snapshot.lastError = some text ↔
        Unsettled r.history
          ∧ ∃ fault, latest? Entry.fault? r.history = some fault ∧ fault.message = text)
      ∧ (∀ f, (r.act service (.editDraft f)).session.snapshot.lastError
          = r.session.snapshot.lastError)
      ∧ ∀ (a : Action) (fault : Fault),
          (a.run service r.session.store r.session.snapshot).result = .error fault →
          (∀ e ∈ (a.run service r.session.store r.session.snapshot).events, e.call? = none) →
          fault.IsRefusal
            ∧ (r.act service a).session.snapshot.lastError = r.session.snapshot.lastError := by
  intro r
  refine ⟨Run.asked_answered service store actions, r.faults_asked, ?_, ?_, ?_⟩
  · exact Run.acts_invariant (P := fun r => Reports r.history r.session.snapshot)
      Reports.new (fun _ _ _ hs c => hs.course c) actions
  · intro f
    exact (Action.course_editDraft service f r.session.store r.session.snapshot).edit_lastError
  · intro a fault hresult hcalls
    have c := Action.course_run service a r.session.store r.session.snapshot
    -- a failure without a call can only be a refusal
    rcases c.failure hresult with refused | failed
    · exact ⟨refused.cause, congrArg Snapshot.lastError refused.snapshot⟩
    · obtain ⟨e, he, hfault, -⟩ := failed.answered
      have hcall := Event.isCall_of_fault hfault
      rw [Event.isCall, hcalls e he] at hcall
      exact nomatch hcall

/-- A collection that cannot be listed: the call for the list is the one that failed.  The
    text of its fault stays while a draft that is not there is saved, and a draft that is
    started clears it. -/
theorem lastError_truthful_unlisted :
    let m : Memory := { clock := 0, failures := fun o =>
      if o = .list then some (.network (.stated "down")) else none }
    let r := (Run.new m).acts Memory.service [.showInbox]
    Memory.service.AnswersAll m [.listed (.error (.network (.stated "down")))] r.session.store
      ∧ Unsettled r.history
      ∧ latest? Entry.fault? r.history = some (.network (.stated "down"))
      ∧ (r.act Memory.service .saveDraft).session.snapshot.lastError
        = some "Network error: down"
      ∧ ¬ Unsettled (r.act Memory.service .startDraft).history := by
  intro m r
  obtain ⟨hcalls, -, hreports, -, hrefused⟩ :=
    lastError_truthful Memory.service m [.showInbox]
  obtain ⟨-, -, hstarted, -⟩ := lastError_truthful Memory.service m [.showInbox, .startDraft]
  obtain ⟨hunsettled, fault, hfault, -⟩ := (hreports "Network error: down").mp rfl
  refine ⟨hcalls, hunsettled, rfl, ?_, ?_⟩
  · exact (hrefused .saveDraft .notComposing rfl (fun _ he => nomatch he)).2
  · intro h
    exact nomatch (hstarted _).mpr ⟨h, _, rfl, rfl⟩

end Postbox
