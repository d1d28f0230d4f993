import Postbox.Proofs.Failure
import Postbox.Service.Memory

/-! # Uses — what is done with a collection in memory

    A collection in memory can have many holders.  They call it, make calls fail and
    clear what was noted, in any order, and the clock goes on meanwhile (`Memory.Use`).

    The answers to a call are listed once, each with the collection behind it
    (`Memory.Answered`): a call fails as it was made to, or it is answered from the
    messages, and only a draft that is taken adds one.  What holds of every use is a case
    analysis over this list, and what holds of all sequences of uses follows by
    induction.  So the messages are those of the beginning and behind them the records of
    all drafts that were taken (`Memory.uses_grows`). -/

namespace Postbox

/-- A call with its answer, and the state of the service behind it. -/
def Service.ask {σ : Type} (service : Service σ) : Call → σ → Event × σ
  | .list, store => (.listed (service.list store).1, (service.list store).2)
  | .get id, store => (.fetched id (service.get id store).1, (service.get id store).2)
  | .create d, store => (.posted d (service.create d store).1, (service.create d store).2)

/-- The service answers what it is asked. -/
theorem Service.answers_ask {σ : Type} (service : Service σ) (call : Call) (store : σ) :
    service.Answers store (service.ask call store).1 (service.ask call store).2 := by
  cases call with
  | list => exact .listed rfl
  | get id => exact .fetched rfl
  | create d => exact .posted rfl

/-- The records that a draft has become, if the event tells that one was taken. -/
def Event.saved : Event → List Message
  | .posted _ (.ok ms) => ms
  | _ => []

/-- Where a call failed nothing was saved. -/
theorem Event.saved_of_fault {e : Event} {fault : Fault} (h : e.fault? = some fault) :
    e.saved = [] := by
  cases e with
  | posted d answer =>
      cases answer with
      | ok ms => exact nomatch h
      | error other => rfl
  | listed answer => rfl
  | fetched id answer => rfl
  | published s => rfl

/-- The record of a draft: all of it is kept but for an id and a time of creation. -/
def Message.filed (draft : Message) (n now : Int64) : Message :=
  { draft with id := some (.number n), created := some (.millis now) }

namespace Memory

/-! ## One call -/

/-- The collection with a call noted. -/
def noted (call : Call) (m : Memory) : Memory := { m with calls := m.calls ++ [call] }

/-- The record that a draft becomes: it gets the next number and the time of the clock. -/
def record (draft : Message) (m : Memory) : Message :=
  draft.filed (Int64.ofInt (m.lastId + 1)) m.clock

/-- The ways in which a call is answered, each with the collection behind it. -/
inductive Answered (m : Memory) : Event → Memory → Prop
  | failed {e : Event} {call : Call} {fault : Fault} (told : e.call? = some call)
      (bad : e.fault? = some fault) (made : m.failures call.operation = some fault) :
      Answered m e (m.noted call)
  | listed (free : m.failures .list = none) :
      Answered m (.listed (.ok m.messages)) (m.noted .list)
  | found {id : MessageId} {message : Message} (free : m.failures .get = none)
      (there : m.messages.find? (fun x => x.id == some id) = some message) :
      Answered m (.fetched id (.ok message)) (m.noted (.get id))
  | missing {id : MessageId} (free : m.failures .get = none)
      (nowhere : m.messages.find? (fun x => x.id == some id) = none) :
      Answered m (.fetched id (.error (.status 404 ("rest/" ++ id.display))))
        (m.noted (.get id))
  | taken {draft : Message} (free : m.failures .create = none) :
      Answered m (.posted draft (.ok [m.record draft]))
        { m.noted (.create draft) with
          messages := m.messages ++ [m.record draft], lastId := m.lastId + 1 }

section Answer

variable {α : Type} {m m' : Memory} {call : Call} {reply : Memory → Except Fault α × Memory}

/-- A call that is made to fail does, and is noted. -/
theorem answer_failed {fault : Fault} (made : m.failures call.operation = some fault) :
    m.answer call reply = (.error fault, m.noted call) := by
  rw [answer]
  dsimp only
  rw [made]
  rfl

/-- A call that is not made to fail is noted and answered by its reply. -/
theorem answer_free (free : m.failures call.operation = none) :
    m.answer call reply = reply (m.noted call) := by
  rw [answer]
  dsimp only
  rw [free]
  rfl

/-- A call fails as it was made to, or it is answered by its reply. -/
theorem answer_cases {x : Except Fault α} (h : m.answer call reply = (x, m')) :
    (∃ fault, m.failures call.operation = some fault ∧ x = .error fault ∧ m' = m.noted call) ∨
      m.failures call.operation = none ∧ reply (m.noted call) = (x, m') := by
  cases hmade : m.failures call.operation with
  | some fault =>
      rw [answer_failed hmade] at h
      obtain ⟨rfl, rfl⟩ := Prod.mk.inj h
      exact Or.inl ⟨fault, rfl, rfl, rfl⟩
  | none =>
      rw [answer_free hmade] at h
      exact Or.inr ⟨rfl, h⟩

end Answer

/-- **A call is answered in one of the listed ways.** -/
theorem answered {m m' : Memory} {e : Event} (h : service.Answers m e m') : m.Answered e m' := by
  cases h with
  | listed listing =>
      have hlist : m.list = (_, m') := listing
      rw [list] at hlist
      rcases answer_cases hlist with ⟨fault, hmade, rfl, rfl⟩ | ⟨hfree, hreply⟩
      · exact .failed rfl rfl hmade
      · obtain ⟨rfl, rfl⟩ := Prod.mk.inj hreply
        exact .listed hfree
  | @fetched _ id _ fetching =>
      have hget : m.get id = (_, m') := fetching
      rw [get] at hget
      rcases answer_cases hget with ⟨fault, hmade, rfl, rfl⟩ | ⟨hfree, hreply⟩
      · exact .failed rfl rfl hmade
      · -- the messages are looked through for the id
        cases hfind : (m.noted (.get id)).messages.find? fun x => x.id == some id with
        | none =>
            rw [hfind] at hreply
            obtain ⟨rfl, rfl⟩ := Prod.mk.inj hreply
            exact .missing hfree hfind
        | some message =>
            rw [hfind] at hreply
            obtain ⟨rfl, rfl⟩ := Prod.mk.inj hreply
            exact .found hfree hfind
  | @posted _ draft _ posting =>
      have hcreate : m.create draft = (_, m') := posting
      rw [create] at hcreate
      rcases answer_cases hcreate with ⟨fault, hmade, rfl, rfl⟩ | ⟨hfree, hreply⟩
      · exact .failed rfl rfl hmade
      · obtain ⟨rfl, rfl⟩ := Prod.mk.inj hreply
        exact .taken hfree

/-- A list that came is the collection, as it is behind the call. -/
theorem Answered.listed_eq {m m' : Memory} {ms : List Message}
    (h : m.Answered (.listed (.ok ms)) m') : ms = m'.messages := by
  cases h with
  | failed _ bad _ => exact nomatch bad
  | listed _ => rfl

/-- What was taken for a draft is its record alone. -/
theorem Answered.filed {m m' : Memory} {draft : Message} {ms : List Message}
    (h : m.Answered (.posted draft (.ok ms)) m') : ∃ n now, ms = [draft.filed n now] := by
  cases h with
  | failed _ bad _ => exact nomatch bad
  | taken _ => exact ⟨_, _, rfl⟩

/-- Behind what was there stands what was saved, and it was counted. -/
structure Grows (m : Memory) (saved : List Message) (m' : Memory) : Prop where
  messages : m'.messages = m.messages ++ saved
  lastId : m'.lastId = m.lastId + saved.length

/-- Where nothing was saved, messages and count stay. -/
theorem Grows.same {m m' : Memory} (messages : m'.messages = m.messages)
    (lastId : m'.lastId = m.lastId) : m.Grows [] m' where
  messages := by rw [messages, List.append_nil]
  lastId := by
    rw [lastId]
    exact (Int.add_zero _).symm

/-- A collection that stays has not grown. -/
theorem Grows.refl (m : Memory) : m.Grows [] m := .same rfl rfl

/-- What was there is still there, in its place. -/
theorem Grows.isPrefix {m m' : Memory} {saved : List Message} (h : m.Grows saved m') :
    m.messages <+: m'.messages := by
  rw [h.messages]
  exact List.prefix_append _ _

/-- What is saved one after the other is saved together. -/
theorem Grows.trans {m m' m'' : Memory} {saved later : List Message} (h : m.Grows saved m')
    (h' : m'.Grows later m'') : m.Grows (saved ++ later) m'' where
  messages := by rw [h'.messages, h.messages, List.append_assoc]
  lastId := by
    rw [h'.lastId, h.lastId, List.length_append]
    omega

/-- A call adds what was saved. -/
theorem Answered.grows {m m' : Memory} {e : Event} (h : m.Answered e m') :
    m.Grows e.saved m' := by
  cases h with
  | failed _ bad _ =>
      rw [Event.saved_of_fault bad]
      exact .same rfl rfl
  | listed _ => exact .same rfl rfl
  | found _ _ => exact .same rfl rfl
  | missing _ _ => exact .same rfl rfl
  | taken _ => exact ⟨rfl, rfl⟩

/-- Calls add what was saved in them, one after the other. -/
theorem Grows.answered {m m' : Memory} {es : List Event} (h : service.AnswersAll m es m') :
    m.Grows (es.flatMap Event.saved) m' := by
  induction h with
  | none => exact .refl _
  | call first _ ih => exact (Memory.answered first).grows.trans ih

/-! ## All uses -/

/-- What can be done with a collection: one of the calls; what else its holders can do; and
    to wait until the clock shows another time. -/
inductive Use
  | call (c : Call)
  | fail (operation : Operation) (fault : Fault)
  | clearFailures
  | setMessages (messages : List Message)
  | clearCalls
  | wait (now : Int64)

/-- Whether a use leaves the messages that are there. -/
def Use.keeps : Use → Bool
  | setMessages _ => false
  | _ => true

/-- What happens in a use, and the collection behind it. -/
def use : Use → Memory → List Event × Memory
  | .call c, m => ([(service.ask c m).1], (service.ask c m).2)
  | .fail operation fault, m => ([], m.fail operation fault)
  | .clearFailures, m => ([], m.clearFailures)
  | .setMessages messages, m => ([], m.setMessages messages)
  | .clearCalls, m => ([], m.clearCalls)
  | .wait now, m => ([], { m with clock := now })

/-- What happens in some uses one after the other, and the collection behind them. -/
def uses : List Use → Memory → List Event × Memory
  | [], m => ([], m)
  | u :: rest, m => ((m.use u).1 ++ ((m.use u).2.uses rest).1, ((m.use u).2.uses rest).2)

/-- The records that drafts have become in some uses, the first one first. -/
def savedBy (us : List Use) (m : Memory) : List Message := (m.uses us).1.flatMap Event.saved

/-- A use that keeps the messages adds what was saved in it. -/
theorem use_grows (m : Memory) {u : Use} (h : u.keeps = true) :
    m.Grows ((m.use u).1.flatMap Event.saved) (m.use u).2 := by
  cases u with
  | call c =>
      have hgrows := (answered (service.answers_ask c m)).grows
      rw [← List.flatMap_singleton Event.saved] at hgrows
      exact hgrows
  | setMessages messages => exact nomatch h
  | fail operation fault => exact .same rfl rfl
  | clearFailures => exact .same rfl rfl
  | clearCalls => exact .same rfl rfl
  | wait now => exact .same rfl rfl

/-- **The messages only grow**, by the records of the drafts that were taken. -/
theorem uses_grows {us : List Use} (h : ∀ u ∈ us, u.keeps = true) (m : Memory) :
    m.Grows (m.savedBy us) (m.uses us).2 := by
  induction us generalizing m with
  | nil => exact .same rfl rfl
  | cons u rest ih =>
      have hfirst := m.use_grows (h u (.head _))
      have hrest := ih (fun v hv => h v (.tail _ hv)) (m.use u).2
      rw [savedBy, uses, List.flatMap_append]
      exact hfirst.trans hrest

end Memory

end Postbox
