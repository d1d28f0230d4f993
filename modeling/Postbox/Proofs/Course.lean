import Postbox.Action

/-! # Courses — the ways an action can go

    An action is refused, or it publishes a change, or it asks the service and
    goes on by the answer.  `Course` lists these ways once, each with the whole
    outcome; what holds of all actions is then a case analysis over it.

    The publications of an action form a chain (`Follows`): each raises the
    revision by one, and the last of them is the snapshot that is left.  So no
    change of the snapshot stays unpublished. -/

namespace Postbox

variable {σ : Type}

/-- The snapshot that shows the text of a fault. -/
def Snapshot.withFault (fault : Fault) (s : Snapshot) : Snapshot :=
  { s with lastError := some fault.message }

/-- The fault of an action that did not fit what is shown. -/
def Fault.IsRefusal (fault : Fault) : Prop := fault = .notComposing ∨ fault = .missingId

/-- The fault that a call was answered with. -/
def Event.fault? : Event → Option Fault
  | .listed (.error fault) => some fault
  | .fetched _ (.error fault) => some fault
  | .posted _ (.error fault) => some fault
  | _ => none

/-- The ways in which an action goes from a state of the service and a snapshot,
    each with its outcome. -/
inductive Course (service : Service σ) (store : σ) (s : Snapshot) :
    Action → Outcome σ → Prop
  | inboxShown {ms : List Message} {store' : σ}
      (listing : service.list store = (.ok ms, store')) :
      Course service store s .showInbox
        ⟨.ok (), [.listed (.ok ms), .published (s.withInbox ms).bump],
          store', (s.withInbox ms).bump⟩
  | inboxFailed {fault : Fault} {store' : σ}
      (listing : service.list store = (.error fault, store')) :
      Course service store s .showInbox
        ⟨.error fault, [.listed (.error fault), .published (s.withFault fault).bump],
          store', (s.withFault fault).bump⟩
  | detailShown {a : Action} {id : MessageId} {m : Message} {store' : σ}
      (target : a = .showId id ∨ ∃ m₀ : Message, a = .showMessage m₀ ∧ m₀.id = some id)
      (fetching : service.get id store = (.ok m, store')) :
      Course service store s a
        ⟨.ok (), [.published (s.waitingFor id).bump, .fetched id (.ok m),
            .published ((s.waitingFor id).bump.withDetail id m).bump],
          store', ((s.waitingFor id).bump.withDetail id m).bump⟩
  | detailFailed {a : Action} {id : MessageId} {fault : Fault} {store' : σ}
      (target : a = .showId id ∨ ∃ m₀ : Message, a = .showMessage m₀ ∧ m₀.id = some id)
      (fetching : service.get id store = (.error fault, store')) :
      Course service store s a
        ⟨.error fault, [.published (s.waitingFor id).bump, .fetched id (.error fault),
            .published ((s.waitingFor id).bump.withFault fault).bump],
          store', ((s.waitingFor id).bump.withFault fault).bump⟩
  | idMissing {m₀ : Message} (missing : m₀.id = none) :
      Course service store s (.showMessage m₀) ⟨.error .missingId, [], store, s⟩
  | draftStarted :
      Course service store s .startDraft
        ⟨.ok (), [.published s.withNewDraft.bump], store, s.withNewDraft.bump⟩
  | draftEdited {f : Message → Message} {d : Message} (shown : s.pane = .compose d) :
      Course service store s (.editDraft f)
        ⟨.ok (), [.published { s with pane := .compose (f d) }.bump], store,
          { s with pane := .compose (f d) }.bump⟩
  | editRefused {f : Message → Message} (hidden : s.pane.draft? = none) :
      Course service store s (.editDraft f) ⟨.error .notComposing, [], store, s⟩
  | saveRefused (hidden : s.pane.draft? = none) :
      Course service store s .saveDraft ⟨.error .notComposing, [], store, s⟩
  | saveFailed {d : Message} {fault : Fault} {store' : σ}
      (shown : s.pane = .compose d)
      (posting : service.create d store = (.error fault, store')) :
      Course service store s .saveDraft
        ⟨.error fault, [.posted d (.error fault), .published (s.withFault fault).bump],
          store', (s.withFault fault).bump⟩
  | savedAndShown {d : Message} {saved ms : List Message} {store' store'' : σ}
      (shown : s.pane = .compose d)
      (posting : service.create d store = (.ok saved, store'))
      (listing : service.list store' = (.ok ms, store'')) :
      Course service store s .saveDraft
        ⟨.ok (), [.posted d (.ok saved), .listed (.ok ms), .published (s.withInbox ms).bump],
          store'', (s.withInbox ms).bump⟩
  | savedNotShown {d : Message} {saved : List Message} {fault : Fault} {store' store'' : σ}
      (shown : s.pane = .compose d)
      (posting : service.create d store = (.ok saved, store'))
      (listing : service.list store' = (.error fault, store'')) :
      Course service store s .saveDraft
        ⟨.error fault, [.posted d (.ok saved), .listed (.error fault),
            .published (s.withFault fault).bump],
          store'', (s.withFault fault).bump⟩

namespace Pane

/-- A pane has a draft only if it is the compose pane with it. -/
theorem eq_compose_of_draft {p : Pane} {d : Message} (h : p.draft? = some d) :
    p = .compose d := by
  cases p with
  | compose d' => rw [show d' = d from Option.some.inj h]
  | blank => exact nomatch h
  | inbox _ => exact nomatch h
  | detail _ _ => exact nomatch h

/-- A pane without a draft cannot be edited. -/
theorem edit_eq_none {p : Pane} (f : Message → Message) (h : p.draft? = none) :
    p.edit? f = none := by
  cases p with
  | compose d => exact nomatch h
  | blank => rfl
  | inbox _ => rfl
  | detail _ _ => rfl

end Pane

namespace Action

variable (service : Service σ)

/-- Listing the collection goes by the answer of the service. -/
theorem course_showInbox (store : σ) (s : Snapshot) :
    Course service store s .showInbox (runShowInbox service store s) := by
  rw [runShowInbox]
  cases h : service.list store with
  | mk answer store' =>
      cases answer with
      | ok ms => exact .inboxShown h
      | error fault => exact .inboxFailed h

/-- Opening a message goes by the answer of the service. -/
theorem course_showId {a : Action} {id : MessageId}
    (target : a = .showId id ∨ ∃ m₀ : Message, a = .showMessage m₀ ∧ m₀.id = some id)
    (store : σ) (s : Snapshot) :
    Course service store s a (runShowId service id store s) := by
  rw [runShowId]
  cases h : service.get id store with
  | mk answer store' =>
      cases answer with
      | ok m => exact .detailShown target h
      | error fault => exact .detailFailed target h

/-- Editing goes by the pane. -/
theorem course_editDraft (f : Message → Message) (store : σ) (s : Snapshot) :
    Course service store s (.editDraft f) (runEditDraft f store s) := by
  rw [runEditDraft]
  cases hd : s.pane.draft? with
  | none =>
      rw [Pane.edit_eq_none f hd]
      exact .editRefused hd
  | some d =>
      have shown := Pane.eq_compose_of_draft hd
      rw [show s.pane.edit? f = some (.compose (f d)) by rw [shown]; rfl]
      exact .draftEdited shown

/-- Saving goes by the pane, and by the answers to two calls. -/
theorem course_saveDraft (store : σ) (s : Snapshot) :
    Course service store s .saveDraft (runSaveDraft service store s) := by
  rw [runSaveDraft]
  cases hd : s.pane.draft? with
  | none => exact .saveRefused hd
  | some d =>
      have shown := Pane.eq_compose_of_draft hd
      dsimp only
      cases hc : service.create d store with
      | mk answer store' =>
          cases answer with
          | error fault => exact .saveFailed shown hc
          | ok saved =>
              dsimp only
              rw [runShowInbox]
              cases hl : service.list store' with
              | mk answer' store'' =>
                  cases answer' with
                  | ok ms => exact .savedAndShown shown hc hl
                  | error fault => exact .savedNotShown shown hc hl

/-- A message with an id is opened by it. -/
theorem run_showMessage {service : Service σ} {m : Message} {id : MessageId}
    (hm : m.id = some id) (store : σ) (s : Snapshot) :
    (showMessage m).run service store s = runShowId service id store s := by
  rw [run, hm]

/-- **Every action goes one of the listed ways.** -/
theorem course_run (a : Action) (store : σ) (s : Snapshot) :
    Course service store s a (a.run service store s) := by
  cases a with
  | showInbox => exact course_showInbox service store s
  | showId id => exact course_showId service (Or.inl rfl) store s
  | showMessage m =>
      cases hm : m.id with
      | none =>
          -- without an id the service is not asked at all
          rw [show (showMessage m).run service store s = .refused .missingId store s by
            rw [run, hm]]
          exact .idMissing hm
      | some id =>
          rw [run_showMessage hm]
          exact course_showId service (Or.inr ⟨m, rfl, hm⟩) store s
  | startDraft => exact .draftStarted
  | editDraft f => exact course_editDraft service f store s
  | saveDraft => exact course_saveDraft service store s

end Action

/-- An action goes one way only: what a course gives is what comes of it. -/
theorem Course.eq_run {service : Service σ} {store : σ} {s : Snapshot} {a : Action}
    {o : Outcome σ} (c : Course service store s a o) : o = a.run service store s := by
  cases c with
  | inboxShown listing => rw [Action.run, Action.runShowInbox, listing]; rfl
  | inboxFailed listing => rw [Action.run, Action.runShowInbox, listing]; rfl
  | detailShown target fetching =>
      rcases target with rfl | ⟨m₀, rfl, hid⟩
      · rw [Action.run, Action.runShowId, fetching]; rfl
      · rw [Action.run_showMessage hid, Action.runShowId, fetching]; rfl
  | detailFailed target fetching =>
      rcases target with rfl | ⟨m₀, rfl, hid⟩
      · rw [Action.run, Action.runShowId, fetching]; rfl
      · rw [Action.run_showMessage hid, Action.runShowId, fetching]; rfl
  | idMissing missing => rw [Action.run, missing]; rfl
  | draftStarted => rfl
  | draftEdited shown => rw [Action.run, Action.runEditDraft, shown]; rfl
  | editRefused hidden =>
      rw [Action.run, Action.runEditDraft, Pane.edit_eq_none _ hidden]
      rfl
  | saveRefused hidden => rw [Action.run, Action.runSaveDraft, hidden]; rfl
  -- the calls stand under the match on the draft, where only `simp` gets to them
  | saveFailed shown posting =>
      rw [Action.run, Action.runSaveDraft, shown]
      simp only [Pane.draft?, posting]
      rfl
  | savedAndShown shown posting listing =>
      rw [Action.run, Action.runSaveDraft, shown]
      simp only [Pane.draft?, posting, Action.runShowInbox, listing]
      rfl
  | savedNotShown shown posting listing =>
      rw [Action.run, Action.runSaveDraft, shown]
      simp only [Pane.draft?, posting, Action.runShowInbox, listing]
      rfl

/-! ## Publications -/

/-- The snapshots that events publish, in their order. -/
def publications (events : List Event) : List Snapshot := events.filterMap Event.snapshot?

/-- Snapshots that lead from one snapshot to another, each with the revision
    after the one before it. -/
def Follows (s : Snapshot) : List Snapshot → Snapshot → Prop
  | [], t => s = t
  | p :: ps, t => p.revision = s.revision + 1 ∧ Follows p ps t

/-- **No change stays unpublished**: the publications of an action lead from the
    snapshot before it to the one after it. -/
theorem Course.follows {service : Service σ} {store : σ} {s : Snapshot} {a : Action}
    {o : Outcome σ} (c : Course service store s a o) :
    Follows s (publications o.events) o.snapshot := by
  cases c with
  | inboxShown _ => exact ⟨rfl, rfl⟩
  | inboxFailed _ => exact ⟨rfl, rfl⟩
  | detailShown _ _ => exact ⟨rfl, rfl, rfl⟩
  | detailFailed _ _ => exact ⟨rfl, rfl, rfl⟩
  | idMissing _ => exact rfl
  | draftStarted => exact ⟨rfl, rfl⟩
  | draftEdited _ => exact ⟨rfl, rfl⟩
  | editRefused _ => exact rfl
  | saveRefused _ => exact rfl
  | saveFailed _ _ => exact ⟨rfl, rfl⟩
  | savedAndShown _ _ _ => exact ⟨rfl, rfl⟩
  | savedNotShown _ _ _ => exact ⟨rfl, rfl⟩

namespace Follows

/-- Chains of snapshots compose. -/
theorem append {s t u : Snapshot} {ps qs : List Snapshot} (h : Follows s ps t)
    (k : Follows t qs u) : Follows s (ps ++ qs) u := by
  induction ps generalizing s with
  | nil =>
      rw [show s = t from h]
      exact k
  | cons p ps ih => exact ⟨h.1, ih h.2⟩

/-- The revision grows by one with each snapshot of a chain. -/
theorem revision_get {s t : Snapshot} {ps : List Snapshot} (h : Follows s ps t) :
    ∀ (i : Nat) {x : Snapshot}, (s :: ps)[i]? = some x → x.revision = s.revision + i := by
  induction ps generalizing s with
  | nil =>
      intro i x hx
      cases i with
      | zero => rw [← Option.some.inj hx, Nat.add_zero]
      | succ i => exact nomatch hx
  | cons p ps ih =>
      intro i x hx
      cases i with
      | zero => rw [← Option.some.inj hx, Nat.add_zero]
      | succ i =>
          have hi : x.revision = p.revision + i := ih h.2 i hx
          have hp := h.1
          omega

/-- A chain ends with its last snapshot. -/
theorem getLast {s t : Snapshot} {ps : List Snapshot} (h : Follows s ps t) :
    (s :: ps)[ps.length]? = some t := by
  induction ps generalizing s with
  | nil => rw [show s = t from h]; rfl
  | cons p ps ih => exact ih h.2

/-- The revision at the end of a chain counts its snapshots. -/
theorem revision_end {s t : Snapshot} {ps : List Snapshot} (h : Follows s ps t) :
    t.revision = s.revision + ps.length :=
  h.revision_get ps.length h.getLast

/-- No snapshot of a chain has a revision beyond the number of those behind the first. -/
theorem revision_le {s t : Snapshot} {ps : List Snapshot} (h : Follows s ps t) {x : Snapshot}
    (hx : x ∈ s :: ps) : x.revision ≤ s.revision + ps.length := by
  obtain ⟨i, hi⟩ := List.mem_iff_getElem?.mp hx
  obtain ⟨hlt, -⟩ := List.getElem?_eq_some_iff.mp hi
  rw [h.revision_get i hi]
  exact Nat.add_le_add_left (Nat.le_of_lt_succ hlt) _

/-- **In a chain the revision determines the snapshot.** -/
theorem eq_of_revision {s t : Snapshot} {ps : List Snapshot} (h : Follows s ps t)
    {x y : Snapshot} (hx : x ∈ s :: ps) (hy : y ∈ s :: ps)
    (heq : x.revision = y.revision) : x = y := by
  obtain ⟨i, hi⟩ := List.mem_iff_getElem?.mp hx
  obtain ⟨j, hj⟩ := List.mem_iff_getElem?.mp hy
  have h1 := h.revision_get i hi
  have h2 := h.revision_get j hj
  have hij : i = j := by omega
  rw [hij] at hi
  exact Option.some.inj (hi.symm.trans hj)

end Follows

end Postbox
