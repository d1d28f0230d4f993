import Postbox.Proofs.Memory.Uses
import Postbox.Proofs.Observation

/-! # Sharing — a screen over a collection that others use too

    A collection in memory is shared: a session has screens over it, and other holders
    call it, make its calls fail and let time pass, in any order (`Turn`).  What is shown
    may then be behind the collection, but it is never ahead of it, and its order is the
    same.

    The invariant is that the messages shown are the first ones of the collection
    (`Session.Abreast`).  An action shows what was shown before it, or the collection as
    it is behind it (`Course.inbox_cases`), and the collection only grows
    (`Course.grows`).  Other holders can do no more than make it grow. -/

namespace Postbox

/-! ## One action -/

/-- Whether an action ends with the inbox, if nothing fails. -/
def Action.endsWithInbox : Action → Bool
  | showInbox | saveDraft => true
  | _ => false

namespace Course

section

variable {σ : Type} {service : Service σ} {store : σ} {s : Snapshot} {a : Action} {o : Outcome σ}

/-- The snapshot that an action leaves is the last that it published, or the one before it. -/
theorem snapshot_mem (c : Course service store s a o) :
    o.snapshot ∈ s :: publications o.events :=
  List.mem_of_getElem? c.follows.getLast

/-- An action that ends with the inbox shows at once what it has listed last.  Every other
    one leaves the messages as they were. -/
theorem inbox_cases (c : Course service store s a o) :
    (publications o.events = [o.snapshot] ∧
      ∃ before, service.list before = (.ok o.snapshot.messages, o.store)) ∨
    ((∀ p ∈ publications o.events, p.messages = s.messages) ∧
      (o.result = .ok () → a.endsWithInbox = false)) := by
  -- a list was shown that had just been made, or the list shown before is still there
  cases c with
  | inboxShown listing => exact Or.inl ⟨rfl, store, listing⟩
  | savedAndShown _ _ listing => exact Or.inl ⟨rfl, _, listing⟩
  | inboxFailed _ => exact Or.inr ⟨List.forall_mem_singleton.mpr rfl, nofun⟩
  | detailShown target _ =>
      refine Or.inr ⟨List.forall_mem_cons.mpr ⟨rfl, List.forall_mem_singleton.mpr rfl⟩, ?_⟩
      rcases target with rfl | ⟨m₀, rfl, -⟩
      · exact fun _ => rfl
      · exact fun _ => rfl
  | detailFailed _ _ =>
      exact Or.inr ⟨List.forall_mem_cons.mpr ⟨rfl, List.forall_mem_singleton.mpr rfl⟩, nofun⟩
  | idMissing _ => exact Or.inr ⟨List.forall_mem_nil _, nofun⟩
  | draftStarted => exact Or.inr ⟨List.forall_mem_singleton.mpr rfl, fun _ => rfl⟩
  | draftEdited _ => exact Or.inr ⟨List.forall_mem_singleton.mpr rfl, fun _ => rfl⟩
  | editRefused _ => exact Or.inr ⟨List.forall_mem_nil _, nofun⟩
  | saveRefused _ => exact Or.inr ⟨List.forall_mem_nil _, nofun⟩
  | saveFailed _ _ => exact Or.inr ⟨List.forall_mem_singleton.mpr rfl, nofun⟩
  | savedNotShown _ _ _ => exact Or.inr ⟨List.forall_mem_singleton.mpr rfl, nofun⟩

end

variable {m : Memory} {s : Snapshot} {a : Action} {o : Outcome Memory}

/-- An action makes the collection grow by the draft that it posts, if one is taken. -/
theorem grows (c : Course Memory.service m s a o) :
    m.Grows ((o.events.filter Event.isCall).flatMap Event.saved) o.store :=
  .answered c.answered

/-- What is published while an action goes is not ahead of the collection behind it. -/
theorem abreast (c : Course Memory.service m s a o) (h : s.messages <+: m.messages) :
    ∀ p ∈ s :: publications o.events, p.messages <+: o.store.messages := by
  have hbefore : s.messages <+: o.store.messages := h.trans c.grows.isPrefix
  refine List.forall_mem_cons.mpr ⟨hbefore, ?_⟩
  rcases c.inbox_cases with ⟨hpublished, _, listing⟩ | ⟨hsame, -⟩
  · rw [hpublished]
    refine List.forall_mem_singleton.mpr ?_
    exact (Memory.answered (.listed listing)).listed_eq ▸ List.prefix_rfl
  · intro p hp
    rw [hsame p hp]
    exact hbefore

/-- An action that has come to the inbox shows the collection. -/
theorem inbox_eq (c : Course Memory.service m s a o) (ends : a.endsWithInbox = true)
    (good : o.result = .ok ()) : o.snapshot.messages = o.store.messages := by
  rcases c.inbox_cases with ⟨-, _, listing⟩ | ⟨-, hother⟩
  · exact (Memory.answered (.listed listing)).listed_eq
  · rw [hother good] at ends
    exact nomatch ends

/-- A draft that was saved was shown, and stands behind the collection. -/
theorem draft_last (c : Course Memory.service m s .saveDraft o) (good : o.result = .ok ()) :
    ∃ draft n now, s.pane = .compose draft ∧
      o.store.messages = m.messages ++ [draft.filed n now] := by
  have hgrows := c.grows.messages
  cases c with
  | savedAndShown shown posting listing =>
      obtain ⟨n, now, rfl⟩ := (Memory.answered (.posted posting)).filed
      exact ⟨_, n, now, shown, hgrows⟩
  | detailShown target _ => exact nomatch target
  | detailFailed _ _ => exact nomatch good
  | saveRefused _ => exact nomatch good
  | saveFailed _ _ => exact nomatch good
  | savedNotShown _ _ _ => exact nomatch good

end Course

/-! ## Turns -/

/-- Something is done with the session, or another holder uses the collection. -/
inductive Turn
  | move (m : Move)
  | use (u : Memory.Use)

/-- Whether a turn leaves the messages that are there. -/
def Turn.keeps : Turn → Bool
  | move _ => true
  | use u => u.keeps

namespace Session

/-- The session after a turn. -/
def turn (s : Session Memory) : Turn → Session Memory
  | .move m => (Diary.next Memory.service s m).2
  | .use u => { s with store := (s.store.use u).2 }

/-- The session after some more turns. -/
def turns (ts : List Turn) (s : Session Memory) : Session Memory := ts.foldl turn s

/-- The messages shown are the first ones of the collection. -/
def Abreast (s : Session Memory) : Prop := s.snapshot.messages <+: s.store.messages

/-- A screen that begins with the inbox is not ahead of the collection, nor is one that
    stays because the inbox did not come. -/
theorem Abreast.load {s : Session Memory} (h : s.Abreast) :
    (s.load Memory.service).2.Abreast ∧
      ((s.load Memory.service).1 = .ok () →
        (s.load Memory.service).2.snapshot.messages
          = (s.load Memory.service).2.store.messages) := by
  have c := Action.course_run Memory.service .showInbox s.store {}
  rw [Session.load]
  cases hresult : (Action.showInbox.run Memory.service s.store {}).result with
  | ok _ =>
      exact ⟨c.abreast List.nil_prefix _ c.snapshot_mem, fun _ => c.inbox_eq rfl hresult⟩
  | error fault =>
      refine ⟨h.trans c.grows.isPrefix, fun good => ?_⟩
      cases good

/-- What is done with the session keeps the screen from being ahead. -/
theorem Abreast.move {s : Session Memory} (h : s.Abreast) (m : Move) :
    (Diary.next Memory.service s m).2.Abreast := by
  cases m with
  | act a =>
      have c := Action.course_run Memory.service a s.store s.snapshot
      exact c.abreast h _ c.snapshot_mem
  | begin => exact List.nil_prefix
  | load =>
      have hload := h.load.1
      rw [Diary.next]
      cases hresult : s.load Memory.service with
      | mk result s' =>
          rw [hresult] at hload
          cases result with
          | ok _ => exact hload
          | error _ => exact hload
  | subscribe => exact h
  | poll n =>
      rw [Diary.next, poll?]
      cases s.receivers[n]? with
      | none => exact h
      | some r => exact h

/-- Every turn keeps the screen from being ahead. -/
theorem Abreast.turn {s : Session Memory} (h : s.Abreast) {t : Turn} (kept : t.keeps = true) :
    (s.turn t).Abreast := by
  cases t with
  | move m => exact h.move m
  | use u => exact h.trans (s.store.use_grows kept).isPrefix

/-- All turns keep the screen from being ahead. -/
theorem Abreast.turns {s : Session Memory} (h : s.Abreast) {ts : List Turn}
    (kept : ∀ t ∈ ts, t.keeps = true) : (s.turns ts).Abreast := by
  induction ts generalizing s with
  | nil => exact h
  | cons t rest ih => exact ih (h.turn (kept t (.head _))) fun u hu => kept u (.tail _ hu)

/-- **A screen is never ahead of the collection.**  Whatever else is done with a collection,
    as long as its messages are not replaced, the messages shown are its first ones, also
    in what is published while an action goes.  Behind an action that has come to the
    inbox, and on a screen that begins with it, they are all of them; and behind one that
    has saved a draft the last of them is its record, and the others are those that were
    there before it. -/
theorem never_ahead_of_collection (m : Memory) (ts : List Turn)
    (kept : ∀ t ∈ ts, t.keeps = true) :
    let s := ({ store := m } : Session Memory).turns ts
    s.snapshot.messages <+: s.store.messages ∧
    ((s.load Memory.service).1 = .ok () →
      (s.load Memory.service).2.snapshot.messages
        = (s.load Memory.service).2.store.messages) ∧
    ∀ a, let s' := (s.act Memory.service a).2
      (∀ p ∈ publications (a.run Memory.service s.store s.snapshot).events,
        p.messages <+: s'.store.messages) ∧
      ((s.act Memory.service a).1 = .ok () →
        (a.endsWithInbox = true → s'.snapshot.messages = s'.store.messages) ∧
        (a = .saveDraft → ∃ draft n now, s.snapshot.pane = .compose draft ∧
          s'.snapshot.messages = s.store.messages ++ [draft.filed n now])) := by
  intro s
  have hbegun : ({ store := m } : Session Memory).Abreast := List.nil_prefix
  have habreast : s.Abreast := hbegun.turns kept
  refine ⟨habreast, habreast.load.2, fun a => ?_⟩
  have c := Action.course_run Memory.service a s.store s.snapshot
  refine ⟨fun p hp => c.abreast habreast p (.tail _ hp), fun good => ⟨?_, ?_⟩⟩
  · exact fun ends => c.inbox_eq ends good
  · rintro rfl
    obtain ⟨draft, n, now, shown, hstore⟩ := c.draft_last good
    exact ⟨draft, n, now, shown, (c.inbox_eq rfl good).trans hstore⟩

/-- A draft is taken, and then the list fails; meanwhile another draft comes from elsewhere.
    The screen that shows nothing yet is behind, and the second save shows all three. -/
theorem behind_until_saved_again :
    let ts : List Turn := [.use (.fail .list (.status 503 "")), .move (.act .startDraft),
      .move (.act .saveDraft), .use (.call (.create { text := some "b" })), .use .clearFailures]
    let s := ({ store := Memory.ofMessages [] 5 } : Session Memory).turns ts
    (∀ t ∈ ts, t.keeps = true) ∧ s.snapshot.messages = [] ∧ s.store.messages.length = 2 ∧
      (s.act Memory.service .saveDraft).1 = .ok () ∧
      ∃ draft n now, s.snapshot.pane = .compose draft ∧
        (s.act Memory.service .saveDraft).2.snapshot.messages
          = s.store.messages ++ [draft.filed n now] := by
  intro ts s
  have hkept : ∀ t ∈ ts, t.keeps = true := by decide
  have hnever := never_ahead_of_collection (Memory.ofMessages [] 5) ts hkept
  exact ⟨hkept, rfl, rfl, rfl, ((hnever.2.2 .saveDraft).2 rfl).2 rfl⟩

end Session

end Postbox
