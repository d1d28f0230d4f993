import Postbox.Action

/-!
# Session — a screen with observers

  The snapshots of a screen are published on a channel, which holds the latest one and counts them.
  A receiver remembers the count it has seen; polling tells whether the channel has gone on since,
  and hands over the latest snapshot. A session shows one screen at a time over one service. When a
  new screen takes its place the channel of the old one is closed: its receivers keep its last
  snapshot, and a poll says that no other will come.
-/

namespace Postbox

/-- The latest of the snapshots published, and their number. -/
structure Channel where
  value   : Snapshot := {}
  version : Nat := 0
deriving Repr

/-- The channel after some events: each publication replaces its value. -/
def Channel.absorb (c : Channel) (events : List Event) : Channel :=
  (events.filterMap Event.snapshot?).foldl (fun c s => ⟨s, c.version + 1⟩) c

/-- An observer of the channel with the given number, and the version it has seen. -/
structure Receiver where
  channel : Nat
  seen    : Nat
deriving Repr

/-- What a poll says of the channel: whether a snapshot came since the last poll, or that the
    channel is closed. -/
inductive News
  | unchanged
  | changed
  | closed
deriving DecidableEq, Repr

/-- A screen over a service, the channels of the screens before it, and all receivers. -/
structure Session (σ : Type) where
  store     : σ
  snapshot  : Snapshot := {}
  channel   : Channel := {}
  closed    : List Channel := []
  receivers : List Receiver := []

namespace Session

variable {σ : Type} (service : Service σ)

/-- Runs an action on the screen. -/
def act (a : Action) (s : Session σ) : Except Fault Unit × Session σ :=
  let o := a.run service s.store s.snapshot
  (o.result, { s with
    store    := o.store
    snapshot := o.snapshot
    channel  := s.channel.absorb o.events })

/-- The session with the channel of its screen closed and another screen in its place. -/
def replaceScreen (snapshot : Snapshot) (channel : Channel) (s : Session σ) : Session σ :=
  { s with snapshot := snapshot, channel := channel, closed := s.closed ++ [s.channel] }

/-- Begins a new screen that shows nothing. -/
def begin (s : Session σ) : Session σ := s.replaceScreen {} {}

/-- Begins a new screen with the inbox. Where that fails, the screen before it stays. -/
def load (s : Session σ) : Except Fault Unit × Session σ :=
  let o := Action.showInbox.run service s.store {}
  let s := { s with store := o.store }
  match o.result with
  | .ok _    => (.ok (), s.replaceScreen o.snapshot (({} : Channel).absorb o.events))
  | .error e => (.error e, s)

/-- Adds a receiver, to which the present snapshot is known; its number is the second part. -/
def subscribe (s : Session σ) : Session σ × Nat :=
  ({ s with receivers := s.receivers ++ [⟨s.closed.length, s.channel.version⟩] },
    s.receivers.length)

/-- The channel a receiver listens to, and whether it is still open. -/
def channelOf (r : Receiver) (s : Session σ) : Channel × Bool :=
  match s.closed[r.channel]? with
  | some c => (c, false)
  | none   => (s.channel, true)

/-- What a receiver finds: news, and the latest snapshot, which it has seen from then on. -/
def poll? (n : Nat) (s : Session σ) : Option (News × Snapshot × Session σ) :=
  s.receivers[n]?.map fun r =>
    let (c, isOpen) := s.channelOf r
    let news := if !isOpen then .closed else if c.version ≠ r.seen then .changed else .unchanged
    (news, c.value, { s with receivers := s.receivers.set n { r with seen := c.version } })

end Session

end Postbox
