import Postbox.Session
import Postbox.Proofs.Course

/-! # Runs — actions one after the other, and their history

    A run begins with a new screen and goes on by actions.  Its history notes
    when an action begins, what happens while it goes, and how it ends.  A fact
    about all runs is an invariant of one action (`acts_invariant`); what an
    action adds to a run is listed by `Course`. -/

namespace Postbox

variable {σ : Type}

/-! ## The latest of a kind -/

/-- The last thing of a kind in a list. -/
def latest? {α β : Type} (kind : α → Option β) (xs : List α) : Option β :=
  (xs.filterMap kind).getLast?

/-- Something of another kind leaves the list of a kind. -/
theorem filterMap_snoc_none {α β : Type} {kind : α → Option β} {x : α}
    (hx : kind x = none) (xs : List α) : (xs ++ [x]).filterMap kind = xs.filterMap kind := by
  rw [List.filterMap_append, List.filterMap_cons_none hx, List.filterMap_nil,
    List.append_nil]

/-- Something of a kind comes last in the list of the kind. -/
theorem filterMap_snoc_some {α β : Type} {kind : α → Option β} {x : α} {y : β}
    (hx : kind x = some y) (xs : List α) :
    (xs ++ [x]).filterMap kind = xs.filterMap kind ++ [y] := by
  rw [List.filterMap_append, List.filterMap_cons_some hx, List.filterMap_nil]

/-- Something of another kind leaves the latest of a kind. -/
theorem latest_snoc_none {α β : Type} {kind : α → Option β} {x : α}
    (hx : kind x = none) (xs : List α) : latest? kind (xs ++ [x]) = latest? kind xs := by
  rw [latest?, filterMap_snoc_none hx]
  rfl

/-- Something of a kind is the latest of it. -/
theorem latest_snoc_some {α β : Type} {kind : α → Option β} {x : α} {y : β}
    (hx : kind x = some y) (xs : List α) : latest? kind (xs ++ [x]) = some y := by
  rw [latest?, filterMap_snoc_some hx, List.getLast?_concat]

/-- What stands in a list stands there still when the list grows. -/
theorem getElem?_append_some {α : Type} {xs : List α} {i : Nat} {x : α}
    (h : xs[i]? = some x) (ys : List α) : (xs ++ ys)[i]? = some x := by
  obtain ⟨hi, -⟩ := List.getElem?_eq_some_iff.mp h
  rw [List.getElem?_append_left hi]
  exact h

/-- What stands in a list that has grown by one stood there, or is new. -/
theorem getElem?_snoc_cases {α : Type} {xs : List α} {i : Nat} {x y : α}
    (h : (xs ++ [y])[i]? = some x) :
    i < xs.length ∧ xs[i]? = some x ∨ i = xs.length ∧ x = y := by
  rcases Nat.lt_trichotomy i xs.length with hi | rfl | hi
  · rw [List.getElem?_append_left hi] at h
    exact Or.inl ⟨hi, h⟩
  · rw [List.getElem?_concat_length] at h
    exact Or.inr ⟨rfl, (Option.some.inj h).symm⟩
  · have hlen : (xs ++ [y]).length ≤ i := by
      rw [List.length_append]
      exact hi
    rw [List.getElem?_eq_none hlen] at h
    exact nomatch h

/-- What stands in a list that has grown by one is the new thing, or it stands
    there before the new thing. -/
theorem snoc_eq_cases {α : Type} {xs before after : List α} {x y : α}
    (h : xs ++ [x] = before ++ y :: after) :
    before = xs ∧ y = x ∨ ∃ after', after = after' ++ [x] ∧ xs = before ++ y :: after' := by
  rcases List.eq_nil_or_concat after with rfl | ⟨after', z, rfl⟩
  · obtain ⟨hxs, hlast⟩ := List.append_inj' h rfl
    exact Or.inl ⟨hxs.symm, (List.cons.inj hlast).1.symm⟩
  · rw [List.concat_eq_append, ← List.cons_append, ← List.append_assoc] at h
    obtain ⟨hxs, hlast⟩ := List.append_inj' h rfl
    rw [(List.cons.inj hlast).1, List.concat_eq_append]
    exact Or.inr ⟨after', rfl, hxs⟩

/-! ## Histories -/

/-- An entry of a history. -/
inductive Entry
  | began (a : Action)
  | happened (e : Event)
  | ended (result : Except Fault Unit)

/-- The action that is begun. -/
def Entry.begun? : Entry → Option Action
  | .began a => some a
  | _ => none

/-- The event that an entry tells of. -/
def Entry.event? : Entry → Option Event
  | .happened e => some e
  | _ => none

/-- The snapshot that an entry publishes. -/
def Entry.snapshot? : Entry → Option Snapshot
  | .happened e => e.snapshot?
  | _ => none

/-- What happens from the beginning of an action to its end. -/
def Outcome.entries (a : Action) (o : Outcome σ) : List Entry :=
  .began a :: (o.events.map .happened ++ [.ended o.result])

/-- What happens while an action goes begins no other. -/
theorem Entry.begun_events (events : List Event) :
    (events.map Entry.happened).filterMap Entry.begun? = [] := by
  rw [List.filterMap_map]
  exact List.filterMap_eq_nil_iff.mpr fun _ _ => rfl

/-- What an action adds to a history of a kind is among its events, if the kind tells
    neither of beginnings nor of ends. -/
theorem Outcome.entries_kind {β : Type} {kind : Entry → Option β} {a : Action} {o : Outcome σ}
    (hbegan : kind (.began a) = none) (hended : kind (.ended o.result) = none) :
    (o.entries a).filterMap kind = o.events.filterMap (kind ∘ Entry.happened) := by
  rw [entries, List.filterMap_cons_none hbegan, List.filterMap_append, List.filterMap_map,
    List.filterMap_cons_none hended, List.filterMap_nil, List.append_nil]

/-- The events of an action are among its entries. -/
theorem Outcome.entries_event (a : Action) (o : Outcome σ) :
    (o.entries a).filterMap Entry.event? = o.events :=
  (entries_kind rfl rfl).trans List.filterMap_some

/-- A session, with what has happened on its screen so far. -/
structure Run (σ : Type) where
  session : Session σ
  history : List Entry := []

namespace Run

/-- The run of a new screen. -/
def new (store : σ) : Run σ := { session := { store := store } }

/-- The run after another action. -/
def act (service : Service σ) (r : Run σ) (a : Action) : Run σ where
  session := (r.session.act service a).2
  history := r.history ++ (a.run service r.session.store r.session.snapshot).entries a

/-- The run after an action with a known outcome. -/
def after (a : Action) (o : Outcome σ) (r : Run σ) : Run σ where
  session := { r.session with
    store := o.store, snapshot := o.snapshot, channel := r.session.channel.absorb o.events }
  history := r.history ++ o.entries a

/-- What has happened in a run. -/
def events (r : Run σ) : List Event := r.history.filterMap Entry.event?

/-- The run after some more actions. -/
def acts (service : Service σ) (actions : List Action) (r : Run σ) : Run σ :=
  actions.foldl (act service) r

variable {service : Service σ}

/-- An action that goes a known way has its outcome. -/
theorem act_eq {r : Run σ} {a : Action} {o : Outcome σ}
    (c : Course service r.session.store r.session.snapshot a o) :
    r.act service a = r.after a o := by
  rw [c.eq_run]
  rfl

/-- An action adds its events. -/
theorem events_after (a : Action) (o : Outcome σ) (r : Run σ) :
    (r.after a o).events = r.events ++ o.events := by
  rw [events, after, List.filterMap_append, Outcome.entries_event]
  rfl

/-- Actions in two parts, one after the other. -/
theorem acts_append (done rest : List Action) (r : Run σ) :
    r.acts service (done ++ rest) = (r.acts service done).acts service rest :=
  List.foldl_append

/-- **Induction over a run**: what one action keeps, whichever way it goes, all
    runs keep. -/
theorem acts_invariant {P : Run σ → Prop} {r : Run σ} (base : P r)
    (step : ∀ (r : Run σ) (a : Action) (o : Outcome σ), P r →
      Course service r.session.store r.session.snapshot a o → P (r.after a o))
    (actions : List Action) : P (r.acts service actions) := by
  induction actions generalizing r with
  | nil => exact base
  | cons a actions ih => exact ih (step r a _ base (Action.course_run service a _ _))

end Run

end Postbox
