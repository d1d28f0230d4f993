import Postbox.Service

/-!
# Memory — a collection held in memory

  A service whose collection is a list of messages. It notes every call, and calls of a kind can
  be made to fail. A created message gets the number after the last one given and the time of the
  clock; all else of the draft is kept.
-/

namespace Postbox

/-- A collection in memory, with the calls made so far. -/
structure Memory where
  messages : List Message := []
  failures : Operation → Option Fault := fun _ => none
  /-- The last number given as an id. -/
  lastId   : Int := 0
  /-- The calls since the notes were last cleared, the first one first. -/
  calls    : List Call := []
  /-- What the clock shows, in milliseconds since 1970. -/
  clock    : Int64

namespace Memory

/-- The number of a message whose id is one. -/
def numericId? (m : Message) : Option Int :=
  match m.id with
  | some (.number n) => some n.toInt
  | _                => none

/-- A collection that begins with the given messages. Its numbering goes on from their largest. -/
def ofMessages (messages : List Message) (clock : Int64) : Memory where
  messages := messages
  lastId   := ((messages.filterMap numericId?).max?).getD 0
  clock    := clock

/-- Notes a call, and answers it unless calls of its kind are made to fail. -/
def answer (call : Call) (reply : Memory → Except Fault α × Memory) (m : Memory) :
    Except Fault α × Memory :=
  let m := { m with calls := m.calls ++ [call] }
  match m.failures call.operation with
  | some fault => (.error fault, m)
  | none       => reply m

/-- Answers with the collection. -/
def list : Memory → Except Fault (List Message) × Memory :=
  answer .list fun m => (.ok m.messages, m)

/-- Answers with the first message of the id. -/
def get (id : MessageId) : Memory → Except Fault Message × Memory :=
  answer (.get id) fun m =>
    match m.messages.find? fun message => message.id == some id with
    | some message => (.ok message, m)
    | none         => (.error (.status 404 ("rest/" ++ id.display)), m)

/-- Adds a draft under the next number at the end of the collection. -/
def create (draft : Message) : Memory → Except Fault (List Message) × Memory :=
  answer (.create draft) fun m =>
    let id := m.lastId + 1
    let saved := { draft with
      id := some (.number (Int64.ofInt id))
      created := some (.millis m.clock) }
    (.ok [saved], { m with messages := m.messages ++ [saved], lastId := id })

/-- The collection as a service. -/
def service : Service Memory := ⟨list, get, create⟩

/-- Makes all calls of a kind fail from now on. -/
def fail (operation : Operation) (fault : Fault) (m : Memory) : Memory :=
  { m with failures := fun o => if o = operation then some fault else m.failures o }

/-- Makes no call fail from now on. -/
def clearFailures (m : Memory) : Memory := { m with failures := fun _ => none }

/-- Replaces the collection. -/
def setMessages (messages : List Message) (m : Memory) : Memory := { m with messages := messages }

/-- Forgets the calls noted so far. -/
def clearCalls (m : Memory) : Memory := { m with calls := [] }

/-- The number of calls of a kind noted so far. -/
def count (operation : Operation) (m : Memory) : Nat :=
  m.calls.countP fun c => c.operation == operation

end Memory

end Postbox
