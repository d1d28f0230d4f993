import Postbox.Proofs.Answering
import Postbox.Proofs.Publication

/-! # Failure — what is left when an action fails

    An action fails because it is refused, or because the service answers its last
    call with a fault.  A refusal leaves everything as it was.  After a call that
    failed the snapshot shows the text of the fault, under a new revision; its pane
    is another one only where a message was to be opened, which is then waited for
    (`Action.paneLeft`).  So the messages of the last list and a draft outlive every
    failure. -/

namespace Postbox

variable {σ : Type}

/-- The pane that is left when an action fails: the one that was shown, unless a
    message was to be opened. -/
def Action.paneLeft (a : Action) (p : Pane) : Pane :=
  (a.target?.map fun id => .detail id none).getD p

namespace Outcome

/-- There was nothing to save, edit or open: nothing was asked, and nothing has changed. -/
structure Refused (store : σ) (s : Snapshot) (a : Action) (fault : Fault) (o : Outcome σ) :
    Prop where
  cause : fault.IsRefusal
  target : a.target? = none
  events : o.events = []
  store : o.store = store
  snapshot : o.snapshot = s

/-- One call was answered with the fault, and no other was made behind it; only the
    pane, the text of the fault and the revision may differ. -/
structure Failed (service : Service σ) (s : Snapshot) (a : Action) (fault : Fault)
    (o : Outcome σ) : Prop where
  faults : o.events.filterMap Event.fault? = [fault]
  answered : ∃ e ∈ o.events, e.fault? = some fault
    ∧ ∃ before, service.Answers before e o.store
  snapshot : o.snapshot = { s with
    pane := a.paneLeft s.pane
    lastError := some fault.message
    revision := s.revision + a.publicationCount s.pane }

end Outcome

theorem paneLeft_of_target {a : Action} {id : MessageId} (h : a.target? = some id) (p : Pane) :
    a.paneLeft p = .detail id none := by
  rw [Action.paneLeft, h]
  rfl

theorem paneLeft_of_none {a : Action} (h : a.target? = none) (p : Pane) : a.paneLeft p = p := by
  rw [Action.paneLeft, h]
  rfl

/-- The snapshot that an action leaves without opening a message, when it fails at a
    call while a draft or a list is shown. -/
theorem withFault_bump (a : Action) {s : Snapshot} (htarget : a.target? = none)
    (hcount : a.publicationCount s.pane = 1) (fault : Fault) :
    (s.withFault fault).bump = { s with
      pane := a.paneLeft s.pane
      lastError := some fault.message
      revision := s.revision + a.publicationCount s.pane } := by
  rw [hcount, paneLeft_of_none htarget]
  rfl

/-- **An action that fails was refused, or one of its calls failed.** -/
theorem Course.failure {service : Service σ} {store : σ} {s : Snapshot} {a : Action}
    {o : Outcome σ} (c : Course service store s a o) {fault : Fault}
    (failed : o.result = .error fault) :
    o.Refused store s a fault ∨ o.Failed service s a fault := by
  cases c with
  | inboxShown _ => exact nomatch failed
  | detailShown _ _ => exact nomatch failed
  | draftStarted => exact nomatch failed
  | draftEdited _ => exact nomatch failed
  | savedAndShown _ _ _ => exact nomatch failed
  | idMissing missing =>
      cases failed
      exact Or.inl ⟨Or.inr rfl, missing, rfl, rfl, rfl⟩
  | editRefused _ =>
      cases failed
      exact Or.inl ⟨Or.inl rfl, rfl, rfl, rfl, rfl⟩
  | saveRefused _ =>
      cases failed
      exact Or.inl ⟨Or.inl rfl, rfl, rfl, rfl, rfl⟩
  | inboxFailed listing =>
      cases failed
      refine Or.inr ⟨rfl, ⟨_, .head _, rfl, store, .listed listing⟩, ?_⟩
      exact withFault_bump .showInbox rfl rfl fault
  | detailFailed target fetching =>
      cases failed
      refine Or.inr ⟨rfl, ⟨_, .tail _ (.head _), rfl, store, .fetched fetching⟩, ?_⟩
      rw [paneLeft_of_target (target_eq target), publicationCount_of_target (target_eq target)]
      rfl
  | saveFailed shown posting =>
      cases failed
      refine Or.inr ⟨rfl, ⟨_, .head _, rfl, store, .posted posting⟩, ?_⟩
      exact withFault_bump .saveDraft rfl (count_draft shown) fault
  | savedNotShown shown _ listing =>
      -- the draft was posted, and the call that failed is the one for the list
      cases failed
      refine Or.inr ⟨rfl, ⟨_, .tail _ (.head _), rfl, _, .listed listing⟩, ?_⟩
      exact withFault_bump .saveDraft rfl (count_draft shown) fault

/-- Where a message was to be opened, it is the call for it that failed. -/
theorem Course.get_failed {service : Service σ} {store : σ} {s : Snapshot} {a : Action}
    {o : Outcome σ} (c : Course service store s a o) {fault : Fault}
    (failed : o.result = .error fault) {id : MessageId} (hid : a.target? = some id) :
    (service.get id store).1 = .error fault := by
  cases c with
  | detailFailed target fetching =>
      cases failed
      obtain rfl := Option.some.inj ((target_eq target).symm.trans hid)
      rw [fetching]
  | detailShown _ _ => exact nomatch failed
  | idMissing missing => exact nomatch missing.symm.trans hid
  | _ => exact nomatch hid

/-- **A failed action keeps the user's data.**  Whatever fails, over any service and
    from any snapshot, the messages are the ones before, and so is the pane, but for
    one that waits for a message whose call failed.  A draft that could not be saved,
    or not be followed by the list, is still in the compose pane.  The fault is the
    answer of the only call that failed, the last one, or else nothing was asked and
    nothing has changed; and no more than the pane, the text of the fault and the
    revision differs. -/
theorem failed_action_keeps_data (service : Service σ) (store : σ) (s : Snapshot) (a : Action)
    (fault : Fault) (failed : (a.run service store s).result = .error fault) :
    let o := a.run service store s
    o.snapshot.messages = s.messages
      ∧ (a.target? = none → o.snapshot.pane = s.pane)
      ∧ (∀ id, a.target? = some id →
          (service.get id store).1 = .error fault ∧ o.snapshot.pane = .detail id none)
      ∧ (∀ d, a = .saveDraft → s.pane = .compose d → o.snapshot.pane = .compose d)
      ∧ (o.Refused store s a fault ∨ o.Failed service s a fault) := by
  intro o
  have c : Course service store s a o := Action.course_run service a store s
  -- it was refused and changed nothing, or a call failed and the fault alone was added
  have hfailure := c.failure failed
  obtain ⟨hmessages, hpane⟩ :
      o.snapshot.messages = s.messages ∧ o.snapshot.pane = a.paneLeft s.pane := by
    rcases hfailure with h | h
    · rw [h.snapshot, paneLeft_of_none h.target]
      exact ⟨rfl, rfl⟩
    · rw [h.snapshot]
      exact ⟨rfl, rfl⟩
  refine ⟨hmessages, ?_, ?_, ?_, hfailure⟩
  · intro htarget
    rw [hpane, paneLeft_of_none htarget]
  · intro id hid
    rw [hpane, paneLeft_of_target hid]
    exact ⟨c.get_failed failed hid, rfl⟩
  · rintro d rfl shown
    rw [hpane, paneLeft_of_none rfl, shown]

/-- A collection that cannot be listed: the draft that was posted stays where it is,
    and a message that is not there is waited for. -/
theorem failed_action_keeps_data_unlisted :
    let m : Memory := { clock := 0, failures := fun o =>
      if o = .list then some (.network (.stated "down")) else none }
    let s : Snapshot :=
      { messages := [{ text := some "old" }], pane := .compose { text := some "new" } }
    let saved := Action.saveDraft.run Memory.service m s
    let opened := (Action.showId (.number 7)).run Memory.service m s
    saved.result = .error (.network (.stated "down"))
      ∧ saved.snapshot.messages = s.messages
      ∧ saved.snapshot.pane = .compose { text := some "new" }
      ∧ opened.result = .error (.status 404 "rest/7")
      ∧ opened.snapshot.pane = .detail (.number 7) none := by
  intro m s saved opened
  have hsaved := failed_action_keeps_data Memory.service m s .saveDraft _ rfl
  have hopened := failed_action_keeps_data Memory.service m s (.showId (.number 7)) _ rfl
  exact ⟨rfl, hsaved.1, hsaved.2.2.2.1 _ rfl rfl, rfl, (hopened.2.2.1 _ rfl).2⟩

end Postbox
