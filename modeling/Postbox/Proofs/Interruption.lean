import Postbox.Proofs.Observation
import Postbox.Service.Memory

/-! # Interruption — polls while an action waits

    An action waits for the answers of its service, and a receiver can be polled in the
    meantime: behind the pane that waits for a message, say, and in front of the message.
    So to an observer an action is not one move.  It is started, and what it publishes
    comes one snapshot after the other, with polls in between; new screens, subscriptions
    and other actions have to wait until it is over (`Underway`).

    The snapshots still to come follow the one that was published last, whatever polls
    come between.  So the notes belong to the session at any time (`Underway.kept`), and a
    poll within an action finds the same as one between two of them
    (`poll_finds_latest`). -/

namespace Postbox

variable {σ : Type} {service : Service σ} {store : σ}

/-- A session with an action under way, as observers find it: the snapshots that the action
    has still to publish, and the notes so far.  With nothing to come it is between two
    actions.  The state of the service is the one behind the action from its start on, for
    no observer sees it. -/
inductive Underway (service : Service σ) (store : σ) :
    Session σ → List Snapshot → List Note → Prop
  | new : Underway service store { store := store } [] []
  | moved {s : Session σ} {notes : List Note} (h : Underway service store s [] notes) (m : Move) :
      Underway service store (Diary.next service s m).2 [] (notes ++ (Diary.next service s m).1)
  | started {s : Session σ} {notes : List Note} (h : Underway service store s [] notes)
      (a : Action) :
      Underway service store { s with store := (a.run service s.store s.snapshot).store }
        (publications (a.run service s.store s.snapshot).events) notes
  | published {s : Session σ} {notes : List Note} {t : Snapshot} {coming : List Snapshot}
      (h : Underway service store s (t :: coming) notes) :
      Underway service store (s.publish t) coming (notes ++ [.published s.screen t])
  | polled {s after : Session σ} {notes : List Note} {coming : List Snapshot} {n : Nat}
      {news : News} {value : Snapshot} (h : Underway service store s coming notes)
      (found : s.poll? n = some (news, value, after)) :
      Underway service store after coming (notes ++ [.polled n news value])

/-- A poll leaves what the screen shows. -/
theorem Session.snapshot_poll {s after : Session σ} {n : Nat} {news : News} {value : Snapshot}
    (found : s.poll? n = some (news, value, after)) : after.snapshot = s.snapshot := by
  obtain ⟨r, -, heq⟩ := Option.map_eq_some_iff.mp found
  rw [← (Prod.mk.inj (Prod.mk.inj heq).2).2]

namespace Underway

/-- **The notes belong to the session at any time**, and what is to come follows what is shown. -/
theorem kept {s : Session σ} {coming : List Snapshot} {notes : List Note}
    (h : Underway service store s coming notes) :
    Kept s notes ∧ ∃ last, Follows s.snapshot coming last := by
  induction h with
  | new => exact ⟨.new store, _, rfl⟩
  | moved _ m ih => exact ⟨ih.1.move service m, _, rfl⟩
  | @started s _ _ a ih =>
      exact ⟨ih.1.withStore _, _, (Action.course_run service a s.store s.snapshot).follows⟩
  | published _ ih =>
      obtain ⟨hkept, last, hrevision, hfollows⟩ := ih
      exact ⟨hkept.publish hrevision, last, hfollows⟩
  | @polled s after notes _ n news value _ found ih =>
      obtain ⟨hkept, last, hfollows⟩ := ih
      -- a poll is the same move between two actions and within one
      have hmoved := hkept.move service (.poll n)
      rw [Diary.next, found] at hmoved
      rw [← Session.snapshot_poll found] at hfollows
      exact ⟨hmoved, last, hfollows⟩

/-- A session goes on by moves. -/
theorem moves {d : Diary σ} (h : Underway service store d.session [] d.notes) (ms : List Move) :
    Underway service store (ms.foldl (Diary.move service) d).session []
      (ms.foldl (Diary.move service) d).notes := by
  induction ms generalizing d with
  | nil => exact h
  | cons m ms ih => exact ih (h.moved m)

end Underway

/-- An action whose publications come one after the other ends as one move. -/
theorem Session.act_eq_publications (service : Service σ) (s : Session σ) (a : Action) :
    (publications (a.run service s.store s.snapshot).events).foldl Session.publish
      { s with store := (a.run service s.store s.snapshot).store } = (s.act service a).2 :=
  Session.foldl_publish (s := { s with store := _ })
    (Action.course_run service a s.store s.snapshot).follows

/-- **Observers never miss the latest state.**  At any time, after any moves and while an
    action waits for its service, a receiver that was subscribed can be polled.  While its
    screen is there the poll tells of a change just when something was published since the
    receiver subscribed or was last polled, and hands over what was published last; once
    the screen is gone it says so and hands over its last publication.  An action that has
    published all that was to come has become the one move. -/
theorem poll_finds_latest (service : Service σ) (store : σ) :
    (∀ moves : List Move, Underway service store (Diary.ofMoves service store moves).session []
        (Diary.ofMoves service store moves).notes)
      ∧ (∀ (s : Session σ) (a : Action),
        (publications (a.run service s.store s.snapshot).events).foldl Session.publish
          { s with store := (a.run service s.store s.snapshot).store } = (s.act service a).2)
      ∧ ∀ (s : Session σ) (coming : List Snapshot) (notes : List Note),
        Underway service store s coming notes → ∀ n k, .subscribed n k ∈ notes →
          ∃ news value after, s.poll? n = some (news, value, after)
            ∧ Finding ⟨s, notes⟩ n k news value after := by
  refine ⟨?_, Session.act_eq_publications service, ?_⟩
  · intro moves
    exact Underway.moves (d := { session := { store := store } }) .new moves
  · intro s coming notes h n k hsub
    exact h.kept.1.found (d := ⟨s, notes⟩) hsub

/-- A receiver that was subscribed and polled before a draft was begun, on a screen that is
    gone; and one that is polled while its screen waits for a message, with the end of the
    action still to come. -/
theorem poll_finds_latest_gone :
    (let moves : List Move := [.subscribe, .act .showInbox, .poll 0, .act .startDraft, .begin]
      ∃ news value after,
        (Diary.ofMoves Memory.service { clock := 0 } moves).session.poll? 0
            = some (news, value, after)
          ∧ Finding (Diary.ofMoves Memory.service { clock := 0 } moves) 0 0 news value after)
      ∧ let waiting : Snapshot := { pane := .detail (.number 1) none, revision := 1 }
        ∃ s coming notes after, Underway Memory.service { clock := 0 } s [coming] notes
          ∧ s.poll? 0 = some (.changed, waiting, after)
          ∧ Finding ⟨s, notes⟩ 0 0 .changed waiting after := by
  obtain ⟨hmoves, -, hfinds⟩ := poll_finds_latest Memory.service { clock := 0 }
  refine ⟨hfinds _ _ _ (hmoves _) 0 0 (.head _), ?_⟩
  have hwaits := ((hmoves [.subscribe]).started (.showId (.number 1))).published
  obtain ⟨news, value, after, hpoll, hfinding⟩ := hfinds _ _ _ hwaits 0 0 (.head _)
  obtain ⟨rfl, hfound⟩ := Prod.mk.inj (Option.some.inj hpoll)
  obtain ⟨rfl, rfl⟩ := Prod.mk.inj hfound
  exact ⟨_, _, _, _, hwaits, rfl, hfinding⟩

end Postbox
