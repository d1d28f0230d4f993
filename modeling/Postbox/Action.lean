import Postbox.Screen
import Postbox.Service

/-!
# Action — what the user does, and what happens then

  An action calls the service and changes what is shown. `Action.run` gives all of it at once: the
  result, the events in their order (calls with their answers, and publications), the service's
  next state and the next snapshot. Each change of the snapshot is published, and each publication
  raises the revision by one.
-/

namespace Postbox

/-- What the user can do. -/
inductive Action
  | showInbox
  | showId (id : MessageId)
  | showMessage (m : Message)
  | startDraft
  | editDraft (f : Message → Message)
  | saveDraft

/-- What happens while an action runs. -/
inductive Event
  | listed (answer : Except Fault (List Message))
  | fetched (id : MessageId) (answer : Except Fault Message)
  | posted (draft : Message) (answer : Except Fault (List Message))
  | published (s : Snapshot)

/-- The call an event tells of, if it is one. -/
def Event.call? : Event → Option Call
  | listed _       => some .list
  | fetched id _   => some (.get id)
  | posted draft _ => some (.create draft)
  | published _    => none

/-- The snapshot an event publishes, if it is a publication. -/
def Event.snapshot? : Event → Option Snapshot
  | published s => some s
  | _           => none

/-- What comes of an action. -/
structure Outcome (σ : Type) where
  result   : Except Fault Unit
  events   : List Event
  store    : σ
  snapshot : Snapshot

namespace Outcome

/-- The outcome of an action that nothing came of. -/
def refused (fault : Fault) (store : σ) (s : Snapshot) : Outcome σ := ⟨.error fault, [], store, s⟩

/-- The outcome after an event that happened before. -/
def after (e : Event) (o : Outcome σ) : Outcome σ := { o with events := e :: o.events }

end Outcome

namespace Snapshot

/-- The snapshot that is published for a change. -/
def bump (s : Snapshot) : Snapshot := { s with revision := s.revision + 1 }

/-- Publishes a change that completes an action. -/
def publish (store : σ) (s : Snapshot) : Outcome σ :=
  ⟨.ok (), [.published s.bump], store, s.bump⟩

/-- Publishes the text of a fault, with which the action ends. -/
def fail (fault : Fault) (store : σ) (s : Snapshot) : Outcome σ :=
  let s := { s with lastError := some fault.message }
  ⟨.error fault, [.published s.bump], store, s.bump⟩

/-- The inbox with the given messages, which are remembered as the last list. -/
def withInbox (messages : List Message) (s : Snapshot) : Snapshot :=
  { s with messages := messages, pane := .inbox messages, lastError := none }

/-- The detail pane that waits for the message of an id. -/
def waitingFor (id : MessageId) (s : Snapshot) : Snapshot := { s with pane := .detail id none }

/-- The detail pane with its message. -/
def withDetail (id : MessageId) (m : Message) (s : Snapshot) : Snapshot :=
  { s with pane := .detail id (some m), lastError := none }

/-- The compose pane with a draft that is empty. -/
def withNewDraft (s : Snapshot) : Snapshot :=
  { s with pane := .compose .empty, lastError := none }

end Snapshot

namespace Action

variable {σ : Type} (service : Service σ)

/-- Lists the collection and shows it. -/
def runShowInbox (store : σ) (s : Snapshot) : Outcome σ :=
  match service.list store with
  | (.ok ms, store)   => ((s.withInbox ms).publish store).after (.listed (.ok ms))
  | (.error e, store) => (s.fail e store).after (.listed (.error e))

/-- Shows a waiting detail pane, and in it the message when it has come. -/
def runShowId (id : MessageId) (store : σ) (s : Snapshot) : Outcome σ :=
  let waiting := (s.waitingFor id).bump
  let answered := match service.get id store with
    | (.ok m, store)    => ((waiting.withDetail id m).publish store).after (.fetched id (.ok m))
    | (.error e, store) => (waiting.fail e store).after (.fetched id (.error e))
  answered.after (.published waiting)

/-- Posts the draft that is shown and goes back to the inbox. -/
def runSaveDraft (store : σ) (s : Snapshot) : Outcome σ :=
  match s.pane.draft? with
  | none       => .refused .notComposing store s
  | some draft =>
    match service.create draft store with
    | (.ok ms, store)   => (runShowInbox service store s).after (.posted draft (.ok ms))
    | (.error e, store) => (s.fail e store).after (.posted draft (.error e))

/-- Changes the draft that is shown. -/
def runEditDraft (f : Message → Message) (store : σ) (s : Snapshot) : Outcome σ :=
  match s.pane.edit? f with
  | none      => .refused .notComposing store s
  | some pane => ({ s with pane := pane }).publish store

/-- What comes of an action. -/
def run : Action → σ → Snapshot → Outcome σ
  | showInbox     => runShowInbox service
  | showId id     => runShowId service id
  | showMessage m =>
    match m.id with
    | some id => runShowId service id
    | none    => .refused .missingId
  | startDraft    => fun store s => s.withNewDraft.publish store
  | editDraft f   => runEditDraft f
  | saveDraft     => runSaveDraft service

end Action

end Postbox
