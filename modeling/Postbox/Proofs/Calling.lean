import Postbox.Proofs.Run
import Postbox.Service.Memory

/-! # Calling — what is asked of the service

    A service can note its calls beside its state (`Service.noting`), and a run over
    it goes as over the service itself.  So the notes are what a screen asks, whatever
    the answers: each action asks what its kind, the pane and, for a draft, the answer
    to the post say (`Action.callsDue`), and a run asks this of its actions one after
    the other (`Run.callsDue`). -/

namespace Postbox

variable {σ : Type}

namespace Service

/-- A call that is noted behind those before it. -/
def note {α : Type} (call : Call) (answer : σ → Except Fault α × σ) (s : σ × List Call) :
    Except Fault α × σ × List Call :=
  ((answer s.1).1, (answer s.1).2, s.2 ++ [call])

/-- The service that notes its calls. -/
def noting (service : Service σ) : Service (σ × List Call) where
  list := note .list service.list
  get id := note (.get id) (service.get id)
  create d := note (.create d) (service.create d)

/-- A call that is noted has its answer. -/
theorem note_eq {α : Type} {answer : σ → Except Fault α × σ} {store store' : σ}
    {x : Except Fault α} (h : answer store = (x, store')) (call : Call) (notes : List Call) :
    note call answer (store, notes) = (x, store', notes ++ [call]) := by
  rw [note, h]

end Service

/-- The calls that an action makes while a pane is shown.  A draft is posted as it is
    shown, and the list is asked for only if it was taken. -/
def Action.callsDue (service : Service σ) (store : σ) (p : Pane) : Action → List Call
  | showInbox => [.list]
  | showId id => [.get id]
  | showMessage m => (m.id.map Call.get).toList
  | startDraft => []
  | editDraft _ => []
  | saveDraft =>
    match p with
    | .compose d =>
      match (service.create d store).1 with
      | .ok _ => [.create d, .list]
      | .error _ => [.create d]
    | _ => []

/-! ## One action -/

/-- Nothing is due for a draft that is not there. -/
theorem callsDue_noDraft {service : Service σ} {store : σ} {p : Pane} (h : p.draft? = none) :
    Action.saveDraft.callsDue service store p = [] := by
  cases p with
  | compose d => exact nomatch h
  | blank => rfl
  | inbox _ => rfl
  | detail _ _ => rfl

namespace Course

variable {service : Service σ} {store : σ} {s : Snapshot} {a : Action} {o : Outcome σ}

/-- **An action makes the calls that are due**, whichever way it goes. -/
theorem calls (c : Course service store s a o) :
    o.events.filterMap Event.call? = a.callsDue service store s.pane := by
  -- what is due is found by asking the service, as the course did
  cases c with
  | inboxShown _ => rfl
  | inboxFailed _ => rfl
  | detailShown target _ =>
      rcases target with rfl | ⟨m₀, rfl, hid⟩
      · rfl
      · rw [Action.callsDue, hid]
        rfl
  | detailFailed target _ =>
      rcases target with rfl | ⟨m₀, rfl, hid⟩
      · rfl
      · rw [Action.callsDue, hid]
        rfl
  | idMissing missing =>
      rw [Action.callsDue, missing]
      rfl
  | draftStarted => rfl
  | draftEdited _ => rfl
  | editRefused _ => rfl
  | saveRefused hidden => exact (callsDue_noDraft hidden).symm
  | saveFailed shown posting =>
      rw [shown]
      simp only [Action.callsDue, posting]
      rfl
  | savedAndShown shown posting _ =>
      rw [shown]
      simp only [Action.callsDue, posting]
      rfl
  | savedNotShown shown posting _ =>
      rw [shown]
      simp only [Action.callsDue, posting]
      rfl

/-- An action goes over the service that notes its calls as over the service itself,
    and leaves a note of each. -/
theorem noting (c : Course service store s a o) {notes notes' : List Call}
    (hnotes : notes' = notes ++ o.events.filterMap Event.call?) :
    Course service.noting (store, notes) s a
      ⟨o.result, o.events, (o.store, notes'), o.snapshot⟩ := by
  have hsilent : o.events.filterMap Event.call? = [] → notes' = notes := by
    intro hnone
    rw [hnotes, hnone, List.append_nil]
  cases c with
  | inboxShown listing =>
      subst hnotes
      exact .inboxShown (Service.note_eq listing _ _)
  | inboxFailed listing =>
      subst hnotes
      exact .inboxFailed (Service.note_eq listing _ _)
  | detailShown target fetching =>
      subst hnotes
      exact .detailShown target (Service.note_eq fetching _ _)
  | detailFailed target fetching =>
      subst hnotes
      exact .detailFailed target (Service.note_eq fetching _ _)
  -- without a call the notes stay
  | idMissing missing =>
      obtain rfl : notes' = notes := hsilent rfl
      exact .idMissing missing
  | draftStarted =>
      obtain rfl : notes' = notes := hsilent rfl
      exact .draftStarted
  | draftEdited shown =>
      obtain rfl : notes' = notes := hsilent rfl
      exact .draftEdited shown
  | editRefused hidden =>
      obtain rfl : notes' = notes := hsilent rfl
      exact .editRefused hidden
  | saveRefused hidden =>
      obtain rfl : notes' = notes := hsilent rfl
      exact .saveRefused hidden
  | saveFailed shown posting =>
      subst hnotes
      exact .saveFailed shown (Service.note_eq posting _ _)
  -- the list is noted behind the post
  | @savedAndShown d _ _ _ _ shown posting listing =>
      obtain rfl : notes' = notes ++ [Call.create d] ++ [Call.list] :=
        hnotes.trans (List.append_assoc notes [.create d] [.list]).symm
      exact .savedAndShown shown (Service.note_eq posting _ _)
        (Service.note_eq listing _ _)
  | @savedNotShown d _ _ _ _ shown posting listing =>
      obtain rfl : notes' = notes ++ [Call.create d] ++ [Call.list] :=
        hnotes.trans (List.append_assoc notes [.create d] [.list]).symm
      exact .savedNotShown shown (Service.note_eq posting _ _)
        (Service.note_eq listing _ _)

end Course

/-! ## A run -/

namespace Run

variable (service : Service σ)

/-- The calls that are due in some actions, one action after the other. -/
def callsDue : List Action → Run σ → List Call
  | [], _ => []
  | a :: rest, r =>
    a.callsDue service r.session.store r.session.snapshot.pane ++ callsDue rest (r.act service a)

/-- The same run, with notes beside the state of the service. -/
def withNotes (notes : List Call) (r : Run σ) : Run (σ × List Call) where
  session := { r.session with store := (r.session.store, notes) }
  history := r.history

/-- An action adds its calls to the notes and changes nothing else. -/
theorem act_withNotes (r : Run σ) (notes : List Call) (a : Action) :
    (r.withNotes notes).act service.noting a
      = (r.act service a).withNotes
        (notes ++ a.callsDue service r.session.store r.session.snapshot.pane) := by
  have c := Action.course_run service a r.session.store r.session.snapshot
  have hnoting : Course service.noting (r.withNotes notes).session.store
      (r.withNotes notes).session.snapshot a _ := c.noting rfl
  rw [act_eq hnoting, act_eq c, ← c.calls]
  rfl

/-- Actions add their calls to the notes and change nothing else. -/
theorem acts_withNotes (actions : List Action) (r : Run σ) (notes : List Call) :
    (r.withNotes notes).acts service.noting actions
      = (r.acts service actions).withNotes (notes ++ callsDue service actions r) := by
  induction actions generalizing r notes with
  | nil =>
      rw [callsDue, List.append_nil]
      rfl
  | cons a rest ih =>
      show ((r.withNotes notes).act service.noting a).acts service.noting rest = _
      rw [act_withNotes, ih, callsDue, List.append_assoc]
      rfl

end Run

/-- **What a screen asks of its service.**  Whatever the service answers, its notes of a
    run are the calls that are due in the actions, one action after the other; and noting
    them changes nothing of what the run shows or of what has happened in it. -/
theorem calls_noted (service : Service σ) (store : σ) (actions : List Action) :
    let noted := (Run.new (store, [])).acts service.noting actions
    let r := (Run.new store).acts service actions
    noted.session.store = (r.session.store, Run.callsDue service actions (Run.new store))
      ∧ noted.session.snapshot = r.session.snapshot ∧ noted.history = r.history := by
  have hnoted := Run.acts_withNotes service actions (Run.new store) []
  intro noted r
  rw [show noted = r.withNotes _ from hnoted]
  exact ⟨rfl, rfl, rfl⟩

/-- A draft is posted as it was written, and the list is asked for behind it. -/
example : ((Run.new (({ clock := 0 } : Memory), [])).acts Memory.service.noting
    [.startDraft, .editDraft fun d => d.withText "a", .saveDraft, .saveDraft]).session.store.2
      = [.create { text := some "a" }, .list] := rfl

end Postbox
