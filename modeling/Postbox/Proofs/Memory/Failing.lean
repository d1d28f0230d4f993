import Mathlib.Data.List.DropRight
import Postbox.Proofs.Memory.Uses
import Postbox.Proofs.Run

/-! # Failing — calls that are made to fail, and the notes of all calls

    Whoever holds a collection in memory can make its calls fail and look at the notes of
    all calls.  Both go by what was done since the last clearing, and each clearing leaves
    the other alone.  So a call of a kind fails by the fault that was last set for that
    kind (`Memory.faultSet?`), and the notes are the calls with their arguments, failed
    ones included (`Memory.callsMade`).

    A use changes each of the two in one way (`use_failures`, `use_calls`), and the
    induction over the uses adds one at the end, since it is the last ones that count. -/

namespace Postbox

namespace Memory

namespace Use

/-- The call that is made in a use, if there is one. -/
def call? : Use → Option Call
  | call c => some c
  | _ => none

/-- The fault that a use sets for calls of a kind, if it sets one. -/
def fault? (o : Operation) : Use → Option Fault
  | fail operation fault => if operation = o then some fault else none
  | _ => none

/-- Whether a use leaves the faults that were set. -/
def keepsFaults : Use → Bool
  | clearFailures => false
  | _ => true

/-- Whether a use leaves the notes of calls. -/
def keepsCalls : Use → Bool
  | clearCalls => false
  | _ => true

end Use

/-- The fault that was set last for calls of a kind, since the faults were last cleared. -/
def faultSet? (o : Operation) (us : List Use) : Option Fault :=
  latest? (Use.fault? o) (us.rtakeWhile Use.keepsFaults)

/-- The calls that were made since the notes were last cleared, the first one first. -/
def callsMade (us : List Use) : List Call :=
  (us.rtakeWhile Use.keepsCalls).filterMap Use.call?

/-- The fault by which the collection itself answers a call: the message is not there. -/
def missing? (m : Memory) : Call → Option Fault
  | .get id =>
    if m.messages.any fun message => message.id == some id then none
    else some (.status 404 ("rest/" ++ id.display))
  | _ => none

/-! ## One call -/

section Call

variable {m m' : Memory} {e : Event} {call : Call}

/-- A call leaves the faults that were set. -/
theorem Answered.failures (h : m.Answered e m') : m'.failures = m.failures := by
  cases h with
  | failed _ _ _ => rfl
  | listed _ => rfl
  | found _ _ => rfl
  | missing _ _ => rfl
  | taken _ => rfl

/-- A call is noted, and that is all, unless it is a draft that is taken. -/
theorem Answered.noted_or_taken (h : m.Answered e m') (told : e.call? = some call) :
    m' = m.noted call ∨ ∃ draft, call = .create draft ∧ m.failures .create = none ∧
      m' = { m.noted call with
        messages := m.messages ++ [m.record draft], lastId := m.lastId + 1 } := by
  cases h with
  | failed told' _ _ =>
      obtain rfl := Option.some.inj (told'.symm.trans told)
      exact Or.inl rfl
  | listed _ =>
      obtain rfl := Option.some.inj told
      exact Or.inl rfl
  | found _ _ =>
      obtain rfl := Option.some.inj told
      exact Or.inl rfl
  | missing _ _ =>
      obtain rfl := Option.some.inj told
      exact Or.inl rfl
  | @taken draft free =>
      obtain rfl := Option.some.inj told
      exact Or.inr ⟨draft, rfl, free, rfl⟩

/-- A call is noted behind the others, however it is answered. -/
theorem Answered.calls (h : m.Answered e m') (told : e.call? = some call) :
    m'.calls = m.calls ++ [call] := by
  rcases h.noted_or_taken told with rfl | ⟨draft, -, -, rfl⟩
  · rfl
  · rfl

/-- A message is missing if it is not found. -/
theorem missing_get (m : Memory) (id : MessageId) :
    m.missing? (.get id) = match m.messages.find? fun message => message.id == some id with
      | some _ => none
      | none => some (.status 404 ("rest/" ++ id.display)) := by
  rw [missing?, ← List.isSome_find?]
  cases m.messages.find? fun message => message.id == some id with
  | none => rfl
  | some message => rfl

/-- **A call fails by the fault that was set for its kind**, or else by that of the collection
    itself. -/
theorem Answered.fault (h : m.Answered e m') (told : e.call? = some call) :
    e.fault? = (m.failures call.operation).or (m.missing? call) := by
  cases h with
  | failed told' bad made =>
      obtain rfl := Option.some.inj (told'.symm.trans told)
      rw [made, bad, Option.some_or]
  | listed free =>
      obtain rfl := Option.some.inj told
      rw [Call.operation, free]
      rfl
  | found free there =>
      obtain rfl := Option.some.inj told
      rw [Call.operation, free, missing_get, there]
      rfl
  | missing free nowhere =>
      obtain rfl := Option.some.inj told
      rw [Call.operation, free, missing_get, nowhere]
      rfl
  | taken free =>
      obtain rfl := Option.some.inj told
      rw [Call.operation, free]
      rfl

/-- **Only a draft that is taken changes a collection**; any other call is noted, and that
    is all. -/
theorem Answered.only_noted (h : m.Answered e m') (told : e.call? = some call)
    (idle : call.operation ≠ .create ∨ (m.failures call.operation).isSome = true) :
    m' = m.noted call := by
  rcases h.noted_or_taken told with hnoted | ⟨draft, rfl, free, -⟩
  · exact hnoted
  · rcases idle with hread | hset
    · exact absurd rfl hread
    · rw [show m.failures (Call.create draft).operation = none from free] at hset
      exact nomatch hset

end Call

section Fail

variable {m : Memory} {o : Operation} {fault : Fault} {call : Call}

/-- A reply that goes on alike when a fault is set for calls of another kind. -/
theorem answer_fail {α : Type} {reply : Memory → Except Fault α × Memory}
    (other : o ≠ call.operation)
    (alike : reply ((m.noted call).fail o fault)
      = ((reply (m.noted call)).1, (reply (m.noted call)).2.fail o fault)) :
    (m.fail o fault).answer call reply
      = ((m.answer call reply).1, (m.answer call reply).2.fail o fault) := by
  have hsame : (m.fail o fault).failures call.operation = m.failures call.operation :=
    if_neg other.symm
  cases hset : m.failures call.operation with
  | some own =>
      rw [answer_failed hset, answer_failed (hsame.trans hset)]
      rfl
  | none =>
      rw [answer_free hset, answer_free (hsame.trans hset)]
      exact alike

/-- **A fault that is set for calls of another kind changes nothing about a call**: it is
    answered alike, and leaves the same behind but for that fault. -/
theorem ask_fail (m : Memory) (other : o ≠ call.operation) :
    service.ask call (m.fail o fault)
      = ((service.ask call m).1, (service.ask call m).2.fail o fault) := by
  cases call with
  | list =>
      have hlist : (m.fail o fault).list = (m.list.1, m.list.2.fail o fault) :=
        answer_fail other rfl
      show (Event.listed (m.fail o fault).list.1, (m.fail o fault).list.2) = _
      rw [hlist]
      rfl
  | get id =>
      have hget : (m.fail o fault).get id = ((m.get id).1, (m.get id).2.fail o fault) := by
        refine answer_fail other ?_
        show (match (m.noted (.get id)).messages.find? _ with | some _ => _ | none => _) = _
        cases (m.noted (.get id)).messages.find? fun message => message.id == some id with
        | none => rfl
        | some message => rfl
      show (Event.fetched id ((m.fail o fault).get id).1, ((m.fail o fault).get id).2) = _
      rw [hget]
      rfl
  | create draft =>
      have hcreate : (m.fail o fault).create draft
          = ((m.create draft).1, (m.create draft).2.fail o fault) :=
        answer_fail other rfl
      show (Event.posted draft ((m.fail o fault).create draft).1,
        ((m.fail o fault).create draft).2) = _
      rw [hcreate]
      rfl

end Fail

/-! ## All uses -/

/-- One more use comes behind the others. -/
theorem uses_snoc (us : List Use) (u : Use) (m : Memory) :
    (m.uses (us ++ [u])).2 = ((m.uses us).2.use u).2 := by
  induction us generalizing m with
  | nil => rfl
  | cons v rest ih => exact ih (m.use v).2

/-- A use that sets no fault for a kind leaves the one that was set, unless it clears all. -/
theorem faultSet_keep {o : Operation} {u : Use} (keeps : u.keepsFaults = true)
    (sets : u.fault? o = none) (us : List Use) : faultSet? o (us ++ [u]) = faultSet? o us := by
  rw [faultSet?, List.rtakeWhile_concat_pos _ _ _ keeps, latest_snoc_none sets]
  rfl

/-- **The fault by which calls of a kind fail** is the one that was set last for it, since
    the faults were last cleared. -/
theorem uses_failures {m : Memory} (clear : m.failures = fun _ => none) (us : List Use)
    (o : Operation) : (m.uses us).2.failures o = faultSet? o us := by
  induction us using List.reverseRecOn with
  | nil => exact congrFun clear o
  | append_singleton us u ih =>
      rw [uses_snoc]
      cases u with
      | call c =>
          have hcall := (answered (service.answers_ask c (m.uses us).2)).failures
          rw [faultSet_keep rfl rfl, ← ih]
          exact congrFun hcall o
      | fail operation fault =>
          show (if o = operation then some fault else (m.uses us).2.failures o) = _
          by_cases h : operation = o
          · have hsets : (Use.fail operation fault).fault? o = some fault := if_pos h
            rw [if_pos h.symm, faultSet?, List.rtakeWhile_concat_pos _ _ _ rfl,
              latest_snoc_some hsets]
          · have hsets : (Use.fail operation fault).fault? o = none := if_neg h
            rw [if_neg (Ne.symm h), ih, faultSet_keep rfl hsets]
      | clearFailures =>
          rw [faultSet?, List.rtakeWhile_concat_neg _ _ _ Bool.false_ne_true]
          rfl
      | setMessages messages => rw [faultSet_keep rfl rfl, ← ih]; rfl
      | clearCalls => rw [faultSet_keep rfl rfl, ← ih]; rfl
      | wait now => rw [faultSet_keep rfl rfl, ← ih]; rfl

/-- A use that is no call leaves the notes, unless it clears them. -/
theorem callsMade_keep {u : Use} (keeps : u.keepsCalls = true) (quiet : u.call? = none)
    (us : List Use) : callsMade (us ++ [u]) = callsMade us := by
  rw [callsMade, List.rtakeWhile_concat_pos _ _ _ keeps, filterMap_snoc_none quiet]
  rfl

/-- A call is asked for and told of. -/
theorem call_ask {σ : Type} (service : Service σ) (call : Call) (store : σ) :
    (service.ask call store).1.call? = some call := by
  cases call with
  | list => rfl
  | get id => rfl
  | create draft => rfl

/-- **The notes are the calls that were made** since the notes were last cleared. -/
theorem uses_calls {m : Memory} (clear : m.calls = []) (us : List Use) :
    (m.uses us).2.calls = callsMade us := by
  induction us using List.reverseRecOn with
  | nil => exact clear
  | append_singleton us u ih =>
      rw [uses_snoc]
      cases u with
      | call c =>
          have hcall := answered (service.answers_ask c (m.uses us).2)
          rw [callsMade, List.rtakeWhile_concat_pos _ _ _ rfl,
            filterMap_snoc_some (show (Use.call c).call? = some c from rfl)]
          show (service.ask c (m.uses us).2).2.calls = callsMade us ++ [c]
          rw [hcall.calls (call_ask service c _), ih]
      | clearCalls =>
          rw [callsMade, List.rtakeWhile_concat_neg _ _ _ Bool.false_ne_true]
          rfl
      | fail operation fault => rw [callsMade_keep rfl rfl, ← ih]; rfl
      | clearFailures => rw [callsMade_keep rfl rfl, ← ih]; rfl
      | setMessages messages => rw [callsMade_keep rfl rfl, ← ih]; rfl
      | wait now => rw [callsMade_keep rfl rfl, ← ih]; rfl

/-- Every call is of one of the three kinds. -/
theorem count_kinds (m : Memory) :
    m.count .list + m.count .get + m.count .create = m.calls.length := by
  simp only [count]
  induction m.calls with
  | nil => rfl
  | cons c rest ih =>
      simp only [List.countP_cons, List.length_cons, ← ih]
      cases c.operation with
      | list => simp; omega
      | get => simp; omega
      | create => simp; omega

/-- **Faults and notes are exact.**  Whatever is done with a new collection, a call fails by the
    fault that was set last for its kind since the faults were last cleared, or else because
    its message is missing.  The notes are all calls since they were last cleared, and each
    counts for one kind.  A call that is not a draft that is taken changes nothing but the
    notes, and a fault for another kind changes nothing about it. -/
theorem faults_and_notes_exact (messages : List Message) (clock : Int64) (us : List Use) :
    let m := ((ofMessages messages clock).uses us).2
    m.calls = callsMade us ∧
    m.count .list + m.count .get + m.count .create = m.calls.length ∧
    ∀ call : Call,
      (service.ask call m).1.fault? = (faultSet? call.operation us).or (m.missing? call) ∧
      (call.operation ≠ .create ∨ (faultSet? call.operation us).isSome = true →
        (service.ask call m).2 = m.noted call) ∧
      ∀ o fault, o ≠ call.operation → service.ask call (m.fail o fault)
        = ((service.ask call m).1, (service.ask call m).2.fail o fault) := by
  intro m
  refine ⟨uses_calls rfl us, m.count_kinds, fun call => ?_⟩
  have hset : m.failures call.operation = faultSet? call.operation us :=
    uses_failures rfl us call.operation
  have hanswered := answered (service.answers_ask call m)
  have told := call_ask service call m
  rw [← hset]
  exact ⟨hanswered.fault told, hanswered.only_noted told, fun _ _ => m.ask_fail⟩

/-- A fault that was set twice is the later one, also behind notes that were cleared, and a
    fault for lists makes no difference to a message that is looked for. -/
theorem faults_and_notes_exact_again :
    let us : List Use := [.fail .get (.status 500 ""), .call .list, .clearCalls,
      .fail .get (.status 503 ""), .call (.create .empty), .call (.get (.number 1))]
    let m := ((ofMessages [] 5).uses us).2
    m.calls = [.create .empty, .get (.number 1)] ∧
      (service.ask (.get (.number 1)) m).1.fault? = some (.status 503 "") ∧
      (service.ask (.get (.number 1)) m).2 = m.noted (.get (.number 1)) ∧
      service.ask (.get (.number 1)) (m.fail .list .missingId)
        = ((service.ask (.get (.number 1)) m).1,
          (service.ask (.get (.number 1)) m).2.fail .list .missingId) := by
  intro us m
  obtain ⟨hcalls, -, hcall⟩ := faults_and_notes_exact [] 5 us
  obtain ⟨hfault, hnoted, hother⟩ := hcall (.get (.number 1))
  exact ⟨hcalls, hfault, hnoted (Or.inl (by decide)), hother .list .missingId (by decide)⟩

end Memory

end Postbox
