import Postbox.Proofs.Run

/-! # Answering — the calls of a history are the service's answers

    A history is written by the actions themselves, so what it tells of the service is
    worth no more than this: the service was asked just the calls that stand in it, one
    after the other, from the state at the beginning to the one that is left, and it gave
    just the answers that stand beside them (`Service.AnswersAll`).

    Of one action its course shows it (`Course.answered`), and of a run it follows by
    induction (`Run.asked_answered`).  A list, a message or a fault in a history is then one
    that the service gave, and none that it gave is missing. -/

namespace Postbox

variable {σ : Type}

/-- The service answers a call as the event tells, and goes to another state. -/
inductive Service.Answers (service : Service σ) : σ → Event → σ → Prop
  | listed {store store' : σ} {answer : Except Fault (List Message)}
      (listing : service.list store = (answer, store')) :
      Answers service store (.listed answer) store'
  | fetched {store store' : σ} {id : MessageId} {answer : Except Fault Message}
      (fetching : service.get id store = (answer, store')) :
      Answers service store (.fetched id answer) store'
  | posted {store store' : σ} {d : Message} {answer : Except Fault (List Message)}
      (posting : service.create d store = (answer, store')) :
      Answers service store (.posted d answer) store'

/-- The service answers one call after the other as the events tell.  Each call is made in
    the state that the one before it has left. -/
inductive Service.AnswersAll (service : Service σ) : σ → List Event → σ → Prop
  | none {store : σ} : AnswersAll service store [] store
  | call {store store' store'' : σ} {e : Event} {es : List Event}
      (answered : service.Answers store e store')
      (rest : AnswersAll service store' es store'') : AnswersAll service store (e :: es) store''

namespace Service.AnswersAll

variable {service : Service σ} {store store' store'' : σ} {es es' : List Event}

/-- One call alone. -/
theorem single {e : Event} (answered : service.Answers store e store') :
    service.AnswersAll store [e] store' :=
  .call answered .none

/-- Calls behind other calls. -/
theorem append (h : service.AnswersAll store es store')
    (h' : service.AnswersAll store' es' store'') :
    service.AnswersAll store (es ++ es') store'' := by
  induction h with
  | none => exact h'
  | call answered _ ih => exact .call answered (ih h')

end Service.AnswersAll

/-- Whether an event tells of a call. -/
def Event.isCall (e : Event) : Bool := e.call?.isSome

/-- A fault comes of a call. -/
theorem Event.isCall_of_fault {e : Event} {fault : Fault} (h : e.fault? = some fault) :
    e.isCall = true := by
  cases e with
  | listed _ => rfl
  | fetched _ _ => rfl
  | posted _ _ => rfl
  | published _ => exact nomatch h

/-- What is no publication is told by the calls alone. -/
theorem Event.filterMap_calls {β : Type} {kind : Event → Option β}
    (hkind : ∀ s, kind (.published s) = none) (es : List Event) :
    (es.filter isCall).filterMap kind = es.filterMap kind := by
  have hcall : (fun e => if isCall e then kind e else none) = kind := by
    funext e
    cases e with
    | listed _ => rfl
    | fetched _ _ => rfl
    | posted _ _ => rfl
    | published s => exact (hkind s).symm
  rw [List.filterMap_filter, hcall]

/-- **The calls of an action are answered by the service**, whichever way it goes. -/
theorem Course.answered {service : Service σ} {store : σ} {s : Snapshot} {a : Action}
    {o : Outcome σ} (c : Course service store s a o) :
    service.AnswersAll store (o.events.filter Event.isCall) o.store := by
  cases c with
  | inboxShown listing => exact .single (.listed listing)
  | inboxFailed listing => exact .single (.listed listing)
  | detailShown _ fetching => exact .single (.fetched fetching)
  | detailFailed _ fetching => exact .single (.fetched fetching)
  | idMissing _ => exact .none
  | draftStarted => exact .none
  | draftEdited _ => exact .none
  | editRefused _ => exact .none
  | saveRefused _ => exact .none
  | saveFailed _ posting => exact .single (.posted posting)
  -- the list is asked for in the state that the post has left
  | savedAndShown _ posting listing => exact .call (.posted posting) (.single (.listed listing))
  | savedNotShown _ posting listing => exact .call (.posted posting) (.single (.listed listing))

namespace Run

/-- The calls of a run with their answers, the first one first. -/
def asked (r : Run σ) : List Event := r.events.filter Event.isCall

/-- **What a run tells of its calls is what the service answered**, from the state at the
    beginning to the one that is left. -/
theorem asked_answered (service : Service σ) (store : σ) (actions : List Action) :
    service.AnswersAll store ((new store).acts service actions).asked
      ((new store).acts service actions).session.store := by
  refine acts_invariant (P := fun r => service.AnswersAll store r.asked r.session.store)
    .none ?_ actions
  intro r a o hr c
  rw [asked, events_after, List.filter_append]
  exact hr.append c.answered

/-- An action that is done is begun once. -/
theorem begun_act (service : Service σ) (r : Run σ) (a : Action) :
    (r.act service a).history.filterMap Entry.begun?
      = r.history.filterMap Entry.begun? ++ [a] := by
  rw [act, List.filterMap_append, Outcome.entries,
    List.filterMap_cons_some (show Entry.begun? (.began a) = some a from rfl),
    List.filterMap_append, Entry.begun_events]
  rfl

/-- The actions that are begun in a history are those of the run. -/
theorem begun_acts (service : Service σ) (r : Run σ) (actions : List Action) :
    (r.acts service actions).history.filterMap Entry.begun?
      = r.history.filterMap Entry.begun? ++ actions := by
  induction actions generalizing r with
  | nil => exact (List.append_nil _).symm
  | cons a actions ih =>
      show ((r.act service a).acts service actions).history.filterMap Entry.begun? = _
      rw [ih, begun_act, List.append_assoc]
      rfl

end Run

end Postbox
