import Postbox.Proofs.Run

/-! # Observation — a poll finds the latest state

    Actions, new screens, subscriptions and polls follow each other in any
    order.  A diary notes what an observer could know of them, by the numbers of
    screens and receivers.  The invariant `Kept` ties a session to its diary:

    * each channel holds the last snapshot noted for its screen, and its version
      is the revision of that snapshot;
    * a receiver has seen less than the version of its channel just when a
      publication of its screen is unseen (`Unseen`): no subscription or poll of
      that receiver is noted behind it.

    Every move is made of four small changes of a session (a publication, a new
    screen, a subscription, a poll), and each of them keeps the invariant.  So it
    also holds within an action, between its publications. -/

namespace Postbox

variable {σ : Type}

/-- What can be done with a session. -/
inductive Move
  | act (a : Action)
  | begin
  | load
  | subscribe
  | poll (n : Nat)

/-- A note on a session.  Screens and receivers have numbers. -/
inductive Note
  | published (screen : Nat) (s : Snapshot)
  | closed (screen : Nat)
  | subscribed (receiver screen : Nat)
  | polled (receiver : Nat) (news : News) (s : Snapshot)

namespace Note

/-- The snapshot that a note tells to be published on a screen. -/
def stateOf? (k : Nat) : Note → Option Snapshot
  | published screen s => if screen = k then some s else none
  | _ => none

/-- The snapshot that a note tells to be handed to a receiver. -/
def pollOf? (n : Nat) : Note → Option Snapshot
  | polled receiver _ s => if receiver = n then some s else none
  | _ => none

/-- Whether a receiver comes to know the present snapshot. -/
def informs (n : Nat) : Note → Bool
  | subscribed receiver _ => receiver = n
  | polled receiver _ _ => receiver = n
  | _ => false

end Note

/-- The last snapshot published on a screen; a new screen shows nothing. -/
def latestState (k : Nat) (notes : List Note) : Snapshot :=
  (latest? (Note.stateOf? k) notes).getD {}

/-- The snapshots handed to a receiver, the first one first. -/
def pollsOf (n : Nat) (notes : List Note) : List Snapshot :=
  notes.filterMap (Note.pollOf? n)

/-- Something was published on a screen since a receiver subscribed or was last
    polled. -/
def Unseen (n k : Nat) (notes : List Note) : Prop :=
  ∃ before s after, notes = before ++ .published k s :: after
    ∧ ∀ x ∈ after, x.informs n = false

/-! ## Diaries -/

/-- A session, with the notes on it so far. -/
structure Diary (σ : Type) where
  session : Session σ
  notes : List Note := []

/-- The number of the present screen. -/
def Session.screen (s : Session σ) : Nat := s.closed.length

/-- The notes on what was published on a screen. -/
def Note.ofPublications (k : Nat) (events : List Event) : List Note :=
  (publications events).map (.published k)

namespace Diary

variable (service : Service σ)

/-- The session after a move, and the notes on the move. -/
def next (s : Session σ) : Move → List Note × Session σ
  | .act a =>
      (Note.ofPublications s.screen (a.run service s.store s.snapshot).events,
        (s.act service a).2)
  | .begin => ([.closed s.screen], s.begin)
  | .load =>
      match s.load service with
      | (.ok _, s') =>
          (.closed s.screen :: Note.ofPublications s'.screen
            (Action.showInbox.run service s.store {}).events, s')
      | (.error _, s') => ([], s')
  | .subscribe => ([.subscribed s.subscribe.2 s.screen], s.subscribe.1)
  | .poll n =>
      match s.poll? n with
      | some (news, value, s') => ([.polled n news value], s')
      | none => ([], s)

/-- The diary after another move. -/
def move (d : Diary σ) (m : Move) : Diary σ :=
  { session := (next service d.session m).2
    notes := d.notes ++ (next service d.session m).1 }

/-- The diary of a session that begins with a new screen. -/
def ofMoves (store : σ) (moves : List Move) : Diary σ :=
  moves.foldl (move service) { session := { store := store } }

end Diary

/-! ## What one more note tells -/

/-- What a publication on a screen tells of that screen. -/
theorem Note.stateOf_published (k : Nat) (s : Snapshot) :
    (Note.published k s).stateOf? k = some s := if_pos rfl

/-- What a publication on another screen tells. -/
theorem Note.stateOf_other {k screen : Nat} (h : screen ≠ k) (s : Snapshot) :
    (Note.published screen s).stateOf? k = none := if_neg h

/-- What a poll tells of its receiver. -/
theorem Note.pollOf_polled (n : Nat) (news : News) (s : Snapshot) :
    (Note.polled n news s).pollOf? n = some s := if_pos rfl

/-- What a poll tells of another receiver. -/
theorem Note.pollOf_other {n receiver : Nat} (h : receiver ≠ n) (news : News)
    (s : Snapshot) : (Note.polled receiver news s).pollOf? n = none := if_neg h

/-- A subscription informs the new receiver. -/
theorem Note.informs_subscribed (n k : Nat) : (Note.subscribed n k).informs n = true :=
  decide_eq_true rfl

/-- A poll informs its receiver. -/
theorem Note.informs_polled (n : Nat) (news : News) (s : Snapshot) :
    (Note.polled n news s).informs n = true :=
  decide_eq_true rfl

/-- A note on something else leaves the last state of a screen. -/
theorem latestState_pass {k : Nat} {x : Note} (hx : x.stateOf? k = none)
    (notes : List Note) : latestState k (notes ++ [x]) = latestState k notes := by
  rw [latestState, latest_snoc_none hx]
  rfl

/-- A publication is the last state of its screen. -/
theorem latestState_published (k : Nat) (s : Snapshot) (notes : List Note) :
    latestState k (notes ++ [.published k s]) = s := by
  rw [latestState, latest_snoc_some (Note.stateOf_published k s)]
  rfl

/-- A publication is unseen at first. -/
theorem unseen_published (n k : Nat) (s : Snapshot) (notes : List Note) :
    Unseen n k (notes ++ [.published k s]) :=
  ⟨notes, s, [], rfl, fun _ hx => nomatch hx⟩

/-- Nothing is unseen once the receiver is informed. -/
theorem not_unseen_of_informs {n k : Nat} {x : Note} (hx : x.informs n = true)
    (notes : List Note) : ¬ Unseen n k (notes ++ [x]) := by
  rintro ⟨before, s, after, heq, hafter⟩
  rcases snoc_eq_cases heq with ⟨-, rfl⟩ | ⟨after', rfl, -⟩
  · exact nomatch hx
  · rw [hafter x List.mem_concat_self] at hx
    exact nomatch hx

/-- A note that neither publishes on the screen nor informs the receiver leaves
    what is unseen. -/
theorem unseen_pass {n k : Nat} {x : Note} (hn : x.informs n = false)
    (hk : x.stateOf? k = none) (notes : List Note) :
    Unseen n k (notes ++ [x]) ↔ Unseen n k notes := by
  constructor
  · rintro ⟨before, s, after, heq, hafter⟩
    rcases snoc_eq_cases heq with ⟨-, rfl⟩ | ⟨after', rfl, hbefore⟩
    · exact nomatch (Note.stateOf_published k s).symm.trans hk
    · refine ⟨before, s, after', hbefore, ?_⟩
      intro z hz
      exact hafter z (List.mem_append_left _ hz)
  · rintro ⟨before, s, after, rfl, hafter⟩
    refine ⟨before, s, after ++ [x], by simp, ?_⟩
    intro z hz
    rcases List.mem_append.mp hz with hz | hz
    · exact hafter z hz
    · rw [List.mem_singleton.mp hz]
      exact hn

/-- A note that does not inform a receiver is no poll of it. -/
theorem Note.pollOf_of_informs {n : Nat} {x : Note} (hx : x.informs n = false) :
    x.pollOf? n = none := by
  cases x with
  | polled receiver news s =>
      refine Note.pollOf_other ?_ news s
      intro heq
      exact absurd (decide_eq_true heq) (by rw [show decide _ = false from hx]; simp)
  | published _ _ => rfl
  | closed _ => rfl
  | subscribed _ _ => rfl

/-! ## The invariant -/

/-- The channels of all screens, the present one last. -/
def Session.channels (s : Session σ) : List Channel := s.closed ++ [s.channel]

/-- What a receiver was handed lies before what it has seen, and the last of it
    is that. -/
structure Handed (notes : List Note) (n seen : Nat) : Prop where
  polls : ∀ t ∈ pollsOf n notes, t.revision ≤ seen
  latest : ∀ t, latest? (Note.pollOf? n) notes = some t → t.revision = seen

/-- What the notes say of a receiver is so: it is behind its channel just when
    something is unseen. -/
structure Informed (notes : List Note) (n : Nat) (r : Receiver) (c : Channel) : Prop where
  behind : r.seen ≤ c.version
  unseen : r.seen < c.version ↔ Unseen n r.channel notes
  handed : Handed notes n r.seen

/-- What the notes say of a session is so. -/
structure Kept (s : Session σ) (notes : List Note) : Prop where
  shown : s.channel.value = s.snapshot
  version : ∀ c ∈ s.channels, c.value.revision = c.version
  value : ∀ k c, s.channels[k]? = some c → c.value = latestState k notes
  ahead : ∀ k, s.screen < k → latestState k notes = {}
  closed : ∀ k, .closed k ∈ notes ↔ k < s.screen
  receiver : ∀ n k, .subscribed n k ∈ notes →
    ∃ r, s.receivers[n]? = some r ∧ r.channel = k
  informed : ∀ n r, s.receivers[n]? = some r →
    ∃ c, s.channels[r.channel]? = some c ∧ Informed notes n r c
  unnamed : ∀ n, s.receivers.length ≤ n → pollsOf n notes = []

/-- A note that is no poll hands nothing over. -/
theorem Handed.pass {notes : List Note} {n seen : Nat} (h : Handed notes n seen) {x : Note}
    (hx : x.pollOf? n = none) : Handed (notes ++ [x]) n seen where
  polls := by
    rw [pollsOf, filterMap_snoc_none hx]
    exact h.polls
  latest := by
    rw [latest_snoc_none hx]
    exact h.latest

/-- A note on something else leaves a receiver informed. -/
theorem Informed.pass {notes : List Note} {n : Nat} {r : Receiver} {c : Channel}
    (h : Informed notes n r c) {x : Note} (hn : x.informs n = false)
    (hk : x.stateOf? r.channel = none) : Informed (notes ++ [x]) n r c where
  behind := h.behind
  unseen := h.unseen.trans (unseen_pass hn hk notes).symm
  handed := h.handed.pass (Note.pollOf_of_informs hn)

/-- A receiver is behind what is published on its screen. -/
theorem Informed.published {notes : List Note} {n : Nat} {r : Receiver} {c : Channel}
    (h : Informed notes n r c) (t : Snapshot) :
    Informed (notes ++ [.published r.channel t]) n r ⟨t, c.version + 1⟩ := by
  have hlt : r.seen < c.version + 1 := Nat.lt_succ_of_le h.behind
  refine ⟨Nat.le_of_lt hlt, ?_, h.handed.pass rfl⟩
  exact ⟨fun _ => unseen_published n r.channel t notes, fun _ => hlt⟩

/-- A receiver that has just subscribed has seen what its channel holds. -/
theorem Informed.subscribed {notes : List Note} {n : Nat} (hn : pollsOf n notes = [])
    (k : Nat) (c : Channel) :
    Informed (notes ++ [.subscribed n k]) n ⟨k, c.version⟩ c := by
  refine ⟨Nat.le_refl _, ?_, Handed.pass ⟨?_, ?_⟩ rfl⟩
  · refine ⟨fun hlt => absurd hlt (Nat.lt_irrefl _), fun hun => absurd hun ?_⟩
    exact not_unseen_of_informs (Note.informs_subscribed n k) notes
  · intro t ht
    rw [hn] at ht
    exact absurd ht List.not_mem_nil
  · intro t ht
    rw [latest?, show notes.filterMap _ = [] from hn] at ht
    cases ht

/-- A receiver that has just been polled has seen what its channel holds, and was
    handed just that. -/
theorem Informed.polled {notes : List Note} {n : Nat} {r : Receiver} {c : Channel}
    (h : Informed notes n r c) (hval : c.value.revision = c.version) (news : News) :
    Informed (notes ++ [.polled n news c.value]) n { r with seen := c.version } c := by
  refine ⟨Nat.le_refl _, ?_, ?_, ?_⟩
  · refine ⟨fun hlt => absurd hlt (Nat.lt_irrefl _), fun hun => absurd hun ?_⟩
    exact not_unseen_of_informs (Note.informs_polled n news c.value) notes
  · intro t ht
    rw [pollsOf, filterMap_snoc_some (Note.pollOf_polled n news c.value)] at ht
    rcases List.mem_append.mp ht with ht | ht
    · exact Nat.le_trans (h.handed.polls t ht) h.behind
    · have heq : t.revision = c.version := by rw [List.mem_singleton.mp ht, hval]
      exact Nat.le_of_eq heq
  · intro t ht
    rw [latest_snoc_some (Note.pollOf_polled n news c.value)] at ht
    rw [← Option.some.inj ht, hval]

namespace Session

/-- The channel of the present screen. -/
theorem channels_screen (s : Session σ) : s.channels[s.screen]? = some s.channel :=
  List.getElem?_concat_length

/-- A channel is one of a screen before the present one, or the present one. -/
theorem channels_cases {s : Session σ} {k : Nat} {c : Channel}
    (h : s.channels[k]? = some c) :
    k < s.screen ∧ s.closed[k]? = some c ∨ k = s.screen ∧ c = s.channel :=
  getElem?_snoc_cases h

/-- A new screen is the one after the present one. -/
theorem screen_begin (s : Session σ) : s.begin.screen = s.screen + 1 :=
  List.length_append

/-- The channel of a receiver is open while its screen is the present one. -/
theorem channelOf_eq {s : Session σ} {r : Receiver} {c : Channel}
    (h : s.channels[r.channel]? = some c) :
    s.channelOf r = (c, decide (r.channel = s.screen)) := by
  rcases channels_cases h with ⟨hk, hc⟩ | ⟨hk, rfl⟩
  · rw [channelOf, hc, decide_eq_false (Nat.ne_of_lt hk)]
  · rw [channelOf, hk, show s.closed[s.screen]? = none from
      List.getElem?_eq_none (Nat.le_refl _), decide_eq_true rfl]

/-- What a poll says to a receiver of its channel. -/
def news (s : Session σ) (r : Receiver) (c : Channel) : News :=
  if r.channel = s.screen then (if c.version = r.seen then .unchanged else .changed)
  else .closed

/-- A poll says that no snapshot will come just when another screen is shown. -/
theorem news_eq_closed (s : Session σ) (r : Receiver) (c : Channel) :
    s.news r c = .closed ↔ r.channel ≠ s.screen := by
  rw [news]
  by_cases hk : r.channel = s.screen
  · rw [if_pos hk]
    by_cases hv : c.version = r.seen
    · simp [hk, hv]
    · simp [hk, hv]
  · simp [hk]

/-- On the present screen a poll tells of a change just when the version is
    another one. -/
theorem news_eq_changed {s : Session σ} {r : Receiver} (hk : r.channel = s.screen)
    (c : Channel) : s.news r c = .changed ↔ c.version ≠ r.seen := by
  rw [news, if_pos hk]
  by_cases hv : c.version = r.seen
  · simp [hv]
  · simp [hv]

/-- What a receiver finds, and the session after it. -/
theorem poll_eq {s : Session σ} {n : Nat} {r : Receiver} {c : Channel}
    (hr : s.receivers[n]? = some r) (hc : s.channels[r.channel]? = some c) :
    s.poll? n = some (s.news r c, c.value,
      { s with receivers := s.receivers.set n { r with seen := c.version } }) := by
  rw [poll?, hr, Option.map_some, channelOf_eq hc, news]
  by_cases hk : r.channel = s.screen
  · by_cases hv : c.version = r.seen
    · simp [hk, hv]
    · simp [hk, hv]
  · simp [hk]

/-- The session after a publication on its screen. -/
def publish (s : Session σ) (t : Snapshot) : Session σ :=
  { s with snapshot := t, channel := ⟨t, s.channel.version + 1⟩ }

end Session

namespace Kept

variable {s : Session σ} {notes : List Note}

/-- The state of the service is not noted. -/
theorem withStore (h : Kept s notes) (store : σ) : Kept { s with store := store } notes :=
  ⟨h.shown, h.version, h.value, h.ahead, h.closed, h.receiver, h.informed, h.unnamed⟩

/-- A new session has nothing to note. -/
theorem new (store : σ) : Kept ({ store := store } : Session σ) [] where
  shown := rfl
  version := by
    intro c hc
    rw [List.mem_singleton.mp hc]
  value := by
    intro k c hc
    rcases Session.channels_cases hc with ⟨hk, -⟩ | ⟨-, rfl⟩
    · exact absurd hk (Nat.not_lt_zero k)
    · rfl
  ahead := fun _ _ => rfl
  closed := fun k => ⟨fun hmem => (nomatch hmem), fun hk => absurd hk (Nat.not_lt_zero k)⟩
  receiver := fun _ _ hmem => nomatch hmem
  informed := fun _ _ hr => nomatch hr
  unnamed := fun _ _ => rfl

/-- A publication with the next revision. -/
theorem publish (h : Kept s notes) {t : Snapshot} (ht : t.revision = s.snapshot.revision + 1) :
    Kept (s.publish t) (notes ++ [.published s.screen t]) where
  shown := rfl
  version := by
    intro c hc
    rcases List.mem_append.mp hc with hc | hc
    · exact h.version c (List.mem_append_left _ hc)
    · rw [List.mem_singleton.mp hc]
      show t.revision = s.channel.version + 1
      rw [ht, ← h.shown, h.version s.channel (List.mem_append_right _ List.mem_cons_self)]
  value := by
    intro k c hc
    rcases Session.channels_cases hc with ⟨hk, hc⟩ | ⟨rfl, rfl⟩
    · -- a channel of a screen that is gone is not written to
      have hne : s.screen ≠ k := Nat.ne_of_gt hk
      rw [latestState_pass (Note.stateOf_other hne t)]
      exact h.value k c (getElem?_append_some hc [s.channel])
    · exact (latestState_published s.screen t notes).symm
  -- no note names a screen that is yet to come, and a publication names the present one
  ahead := by
    intro k hk
    have hne : s.screen ≠ k := Nat.ne_of_lt hk
    rw [latestState_pass (Note.stateOf_other hne t)]
    exact h.ahead k hk
  closed := by
    intro k
    rw [List.mem_append, h.closed k]
    simp [Session.publish, Session.screen]
  receiver := by
    intro n k hmem
    refine h.receiver n k ?_
    simpa using hmem
  informed := by
    intro n r hr
    obtain ⟨c, hc, hinf⟩ := h.informed n r hr
    rcases Session.channels_cases hc with ⟨hk, hc'⟩ | ⟨hk, rfl⟩
    · refine ⟨c, getElem?_append_some hc' _, ?_⟩
      exact hinf.pass rfl (Note.stateOf_other (Nat.ne_of_gt hk) t)
    · refine ⟨⟨t, s.channel.version + 1⟩, ?_, hk ▸ hinf.published t⟩
      rw [hk]
      exact (s.publish t).channels_screen
  unnamed := by
    intro n hn
    rw [pollsOf, filterMap_snoc_none rfl]
    exact h.unnamed n hn

/-- A new screen in the place of the present one. -/
theorem begin (h : Kept s notes) : Kept s.begin (notes ++ [.closed s.screen]) where
  shown := rfl
  version := by
    intro c hc
    rcases List.mem_append.mp hc with hc | hc
    · exact h.version c hc
    · rw [List.mem_singleton.mp hc]
      rfl
  value := by
    intro k c hc
    rw [latestState_pass rfl]
    rcases Session.channels_cases hc with ⟨-, hc⟩ | ⟨rfl, rfl⟩
    · exact h.value k c hc
    · rw [s.screen_begin]
      exact (h.ahead (s.screen + 1) (Nat.lt_succ_self _)).symm
  ahead := by
    intro k hk
    rw [latestState_pass rfl]
    rw [s.screen_begin] at hk
    exact h.ahead k (Nat.lt_of_succ_lt hk)
  closed := by
    intro k
    rw [List.mem_append, h.closed k, s.screen_begin, List.mem_singleton, Nat.lt_succ_iff_lt_or_eq]
    exact or_congr_right ⟨Note.closed.inj, congrArg Note.closed⟩
  receiver := by
    intro n k hmem
    refine h.receiver n k ?_
    simpa using hmem
  informed := by
    intro n r hr
    obtain ⟨c, hc, hinf⟩ := h.informed n r hr
    refine ⟨c, ?_, hinf.pass rfl rfl⟩
    exact getElem?_append_some hc _
  unnamed := by
    intro n hn
    rw [pollsOf, filterMap_snoc_none rfl]
    exact h.unnamed n hn

/-- A new receiver of the present screen. -/
theorem subscribe (h : Kept s notes) :
    Kept s.subscribe.1 (notes ++ [.subscribed s.receivers.length s.screen]) where
  shown := h.shown
  version := h.version
  value := by
    intro k c hc
    rw [latestState_pass rfl]
    exact h.value k c hc
  ahead := by
    intro k hk
    rw [latestState_pass rfl]
    exact h.ahead k hk
  closed := by
    intro k
    rw [List.mem_append, h.closed k]
    simp [Session.subscribe, Session.screen]
  receiver := by
    intro n k hmem
    rcases List.mem_append.mp hmem with hmem | hmem
    · obtain ⟨r, hr, hk⟩ := h.receiver n k hmem
      exact ⟨r, getElem?_append_some hr _, hk⟩
    · obtain ⟨rfl, rfl⟩ := Note.subscribed.inj (List.mem_singleton.mp hmem)
      exact ⟨⟨s.screen, s.channel.version⟩, List.getElem?_concat_length, rfl⟩
  informed := by
    intro n r hr
    rcases getElem?_snoc_cases hr with ⟨hn, hr⟩ | ⟨rfl, rfl⟩
    · obtain ⟨c, hc, hinf⟩ := h.informed n r hr
      exact ⟨c, hc, hinf.pass (decide_eq_false (Nat.ne_of_gt hn)) rfl⟩
    · -- its number was free, so nothing was handed to it before
      have hnone := h.unnamed s.receivers.length (Nat.le_refl _)
      exact ⟨s.channel, s.channels_screen, .subscribed hnone s.screen s.channel⟩
  unnamed := by
    intro n hn
    rw [pollsOf, filterMap_snoc_none rfl]
    refine h.unnamed n (Nat.le_of_succ_le ?_)
    rw [show s.subscribe.1.receivers.length = s.receivers.length + 1 from
      List.length_append] at hn
    exact hn

/-- A receiver has seen the present snapshot of its screen. -/
theorem poll (h : Kept s notes) {n : Nat} {r : Receiver} {c : Channel}
    (hr : s.receivers[n]? = some r) (hc : s.channels[r.channel]? = some c) (news : News) :
    Kept { s with receivers := s.receivers.set n { r with seen := c.version } }
      (notes ++ [.polled n news c.value]) where
  shown := h.shown
  version := h.version
  value := by
    intro k c' hc'
    rw [latestState_pass rfl]
    exact h.value k c' hc'
  ahead := by
    intro k hk
    rw [latestState_pass rfl]
    exact h.ahead k hk
  closed := by
    intro k
    rw [List.mem_append, h.closed k]
    simp [Session.screen]
  receiver := by
    intro m k hmem
    obtain ⟨r', hr', hk⟩ := h.receiver m k (by simpa using hmem)
    by_cases hm : n = m
    · subst hm
      rw [hr] at hr'
      refine ⟨{ r with seen := c.version }, ?_, ?_⟩
      · exact List.getElem?_set_self (List.getElem?_eq_some_iff.mp hr).1
      · rw [← hk, ← Option.some.inj hr']
    · exact ⟨r', (List.getElem?_set_ne hm).trans hr', hk⟩
  informed := by
    intro m r' hr'
    by_cases hm : n = m
    · -- the receiver that is polled: its channel's value is handed over
      subst hm
      obtain ⟨c', hc', hinf⟩ := h.informed n r hr
      rw [hc] at hc'
      obtain rfl := Option.some.inj hc'
      have hself := List.getElem?_set_self (List.getElem?_eq_some_iff.mp hr).1
        (a := { r with seen := c.version })
      obtain rfl := Option.some.inj (hself.symm.trans hr')
      exact ⟨c, hc, hinf.polled (h.version c (List.mem_of_getElem? hc)) news⟩
    · -- any other receiver
      have hr'' := (List.getElem?_set_ne hm).symm.trans hr'
      obtain ⟨c', hc', hinf⟩ := h.informed m r' hr''
      exact ⟨c', hc', hinf.pass (decide_eq_false hm) rfl⟩
  unnamed := by
    intro m hm
    rw [List.length_set] at hm
    have hne : n ≠ m := by
      have hlt := (List.getElem?_eq_some_iff.mp hr).1
      omega
    rw [pollsOf, filterMap_snoc_none (Note.pollOf_other hne news c.value)]
    exact h.unnamed m hm

/-- A chain of publications on the present screen. -/
theorem publications (h : Kept s notes) {ps : List Snapshot} {t : Snapshot}
    (hf : Follows s.snapshot ps t) :
    Kept (ps.foldl Session.publish s) (notes ++ ps.map (.published s.screen)) := by
  induction ps generalizing s notes with
  | nil =>
      rw [List.map_nil, List.append_nil]
      exact h
  | cons p ps ih =>
      have hp := ih (s := s.publish p) (h.publish hf.1) hf.2
      rw [List.append_assoc] at hp
      exact hp

end Kept

/-- A session after publications has their end as its snapshot. -/
theorem Session.foldl_publish {s : Session σ} {ps : List Snapshot} {t : Snapshot}
    (h : Follows s.snapshot ps t) :
    ps.foldl publish s = { s with
      snapshot := t
      channel := ps.foldl (fun c p => ⟨p, c.version + 1⟩) s.channel } := by
  induction ps generalizing s with
  | nil =>
      rw [← show s.snapshot = t from h]
      rfl
  | cons p ps ih => exact ih (s := s.publish p) h.2

namespace Kept

variable {s : Session σ} {notes : List Note}

/-- An action of the present screen. -/
theorem course (h : Kept s notes) {service : Service σ} {store : σ} {a : Action} {o : Outcome σ}
    (c : Course service store s.snapshot a o) :
    Kept { s with store := o.store, snapshot := o.snapshot, channel := s.channel.absorb o.events }
      (notes ++ Note.ofPublications s.screen o.events) := by
  have hk := h.publications c.follows
  rw [Session.foldl_publish c.follows] at hk
  exact hk.withStore o.store

/-- A screen that begins with the inbox, in the place of the present one. -/
theorem load (h : Kept s notes) {service : Service σ} {a : Action} {o : Outcome σ}
    (c : Course service s.store {} a o) :
    Kept (({ s with store := o.store } : Session σ).replaceScreen o.snapshot
        (({} : Channel).absorb o.events))
      (notes ++ .closed s.screen :: Note.ofPublications (s.screen + 1) o.events) := by
  have hk := h.begin.course (s := s.begin) c
  rw [List.append_assoc, s.screen_begin] at hk
  exact hk

/-- **Every move keeps what the notes say.** -/
theorem move (service : Service σ) (h : Kept s notes) (m : Move) :
    Kept (Diary.next service s m).2 (notes ++ (Diary.next service s m).1) := by
  cases m with
  | act a => exact h.course (Action.course_run service a s.store s.snapshot)
  | begin => exact h.begin
  | subscribe => exact h.subscribe
  | load =>
      have hl := h.load (Action.course_run service .showInbox s.store {})
      rw [Diary.next, Session.load]
      -- a screen takes the place of the present one only if its inbox came
      cases ho : (Action.showInbox.run service s.store {}).result with
      | ok _ =>
          rw [← s.screen_begin] at hl
          exact hl
      | error _ =>
          rw [List.append_nil]
          exact h.withStore _
  | poll n =>
      rw [Diary.next]
      cases hr : s.receivers[n]? with
      | none =>
          rw [show s.poll? n = none by rw [Session.poll?, hr]; rfl, List.append_nil]
          exact h
      | some r =>
          obtain ⟨c, hc, -⟩ := h.informed n r hr
          rw [Session.poll_eq hr hc]
          exact h.poll hr hc _

/-- More moves keep what the notes say. -/
theorem moves (service : Service σ) {d : Diary σ} (h : Kept d.session d.notes)
    (ms : List Move) :
    Kept (ms.foldl (Diary.move service) d).session
      (ms.foldl (Diary.move service) d).notes := by
  induction ms generalizing d with
  | nil => exact h
  | cons m ms ih => exact ih (h.move service m)

end Kept

/-! ## Polls -/

/-- What a poll of a receiver of a screen finds, in terms of the notes so far,
    and what it leaves. -/
structure Finding (d : Diary σ) (n k : Nat) (news : News) (value : Snapshot)
    (after : Session σ) : Prop where
  /-- It says so if the screen is gone. -/
  closed : news = .closed ↔ .closed k ∈ d.notes
  /-- Else it tells of a change just when something is unseen. -/
  changed : .closed k ∉ d.notes → (news = .changed ↔ Unseen n k d.notes)
  /-- The value is what the screen shows. -/
  present : .closed k ∉ d.notes → value = d.session.snapshot
  /-- The value is the last publication of the screen, also when that is gone. -/
  last : value = latestState k d.notes
  /-- The revisions of the polls of a receiver never decrease. -/
  monotone : ∀ t ∈ pollsOf n d.notes, t.revision ≤ value.revision
  /-- They grow just when something is unseen. -/
  grows : ∀ t, latest? (Note.pollOf? n) d.notes = some t →
    (t.revision < value.revision ↔ Unseen n k d.notes)
  /-- They grow just when the poll tells of a change. -/
  grows_iff_changed : .closed k ∉ d.notes →
    ∀ t, latest? (Note.pollOf? n) d.notes = some t →
      (t.revision < value.revision ↔ news = .changed)
  /-- The screen and the other receivers are as they were. -/
  frame : ∃ receivers, after = { d.session with receivers := receivers }
    ∧ ∀ m, m ≠ n → receivers[m]? = d.session.receivers[m]?

/-- **A poll finds what the notes say**, whichever screen the receiver belongs to. -/
theorem Kept.finding {d : Diary σ} (h : Kept d.session d.notes) {n : Nat} {r : Receiver}
    {c : Channel} (hc : d.session.channels[r.channel]? = some c)
    (hinf : Informed d.notes n r c) :
    Finding d n r.channel (d.session.news r c) c.value
      { d.session with receivers := d.session.receivers.set n { r with seen := c.version } } := by
  have hval : c.value.revision = c.version := h.version c (List.mem_of_getElem? hc)
  have hle : r.channel ≤ d.session.screen := by
    rcases Session.channels_cases hc with ⟨hk, -⟩ | ⟨hk, -⟩
    · exact Nat.le_of_lt hk
    · exact Nat.le_of_eq hk
  have hopen : .closed r.channel ∉ d.notes → r.channel = d.session.screen := by
    intro hnot
    rw [h.closed] at hnot
    exact Nat.le_antisymm hle (Nat.le_of_not_lt hnot)
  have hchanged : c.version ≠ r.seen ↔ Unseen n r.channel d.notes := by
    rw [← hinf.unseen]
    exact ⟨fun hne => Nat.lt_of_le_of_ne hinf.behind hne.symm, Nat.ne_of_gt⟩
  -- the last poll handed over what the receiver has seen, so versions are revisions here
  have hgrows : ∀ t, latest? (Note.pollOf? n) d.notes = some t →
      (t.revision < c.value.revision ↔ Unseen n r.channel d.notes) := by
    intro t ht
    rw [hinf.handed.latest t ht, hval]
    exact hinf.unseen
  constructor
  · rw [Session.news_eq_closed, h.closed]
    exact ⟨fun hne => Nat.lt_of_le_of_ne hle hne, Nat.ne_of_lt⟩
  · intro hnot
    rw [Session.news_eq_changed (hopen hnot)]
    exact hchanged
  · intro hnot
    rw [← h.shown]
    rcases Session.channels_cases hc with ⟨hk, -⟩ | ⟨-, rfl⟩
    · exact absurd (hopen hnot) (Nat.ne_of_lt hk)
    · rfl
  · exact h.value r.channel c hc
  · intro t ht
    rw [hval]
    exact Nat.le_trans (hinf.handed.polls t ht) hinf.behind
  · exact hgrows
  · intro hnot t ht
    rw [hgrows t ht, Session.news_eq_changed (hopen hnot)]
    exact hchanged.symm
  · refine ⟨d.session.receivers.set n { r with seen := c.version }, rfl, ?_⟩
    intro m hm
    exact List.getElem?_set_ne hm.symm

/-- A receiver that was subscribed can be polled, and finds what the notes say. -/
theorem Kept.found {d : Diary σ} (h : Kept d.session d.notes) {n k : Nat}
    (hsub : .subscribed n k ∈ d.notes) :
    ∃ news value after, d.session.poll? n = some (news, value, after)
      ∧ Finding d n k news value after := by
  obtain ⟨r, hr, rfl⟩ := h.receiver n k hsub
  obtain ⟨c, hc, hinf⟩ := h.informed n r hr
  exact ⟨_, _, _, Session.poll_eq hr hc, h.finding hc hinf⟩

end Postbox
