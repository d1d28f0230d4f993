import Postbox.Proofs.Run
import Postbox.Service.Memory

/-! # Publication — what observers hold is what is shown

    Each publication replaces the value of the channel, and the publications of
    a run are one chain (`Follows`) from the empty snapshot to the present one.
    So the channel always holds the present snapshot, the revision counts the
    publications, and a revision belongs to one snapshot only.  A revision of 64
    bits says the same below 2 ^ 64 (`Snapshot.revisionWord`).  How many
    publications an action makes is a matter of the action and of the pane
    (`Action.publicationCount`), never of the answers. -/

namespace Postbox

variable {σ : Type}

/-! ## The channel -/

/-- A channel that holds the beginning of a chain holds its end afterwards. -/
theorem Follows.foldl_channel {s t : Snapshot} {ps : List Snapshot} (h : Follows s ps t)
    (version : Nat) :
    ps.foldl (fun (c : Channel) p => ⟨p, c.version + 1⟩) ⟨s, version⟩
      = ⟨t, version + ps.length⟩ := by
  induction ps generalizing s version with
  | nil =>
      rw [show s = t from h]
      rfl
  | cons p ps ih =>
      rw [List.foldl_cons, ih h.2 (version + 1), List.length_cons]
      congr 1
      omega

/-- The channel after an action holds the snapshot after it. -/
theorem Course.absorb {service : Service σ} {store : σ} {s : Snapshot} {a : Action}
    {o : Outcome σ} (c : Course service store s a o) (version : Nat) :
    (⟨s, version⟩ : Channel).absorb o.events
      = ⟨o.snapshot, version + (publications o.events).length⟩ :=
  c.follows.foldl_channel version

/-! ## How often an action publishes -/

namespace Action

/-- The id of the message that an action opens. -/
def target? : Action → Option MessageId
  | showId id => some id
  | showMessage m => m.id
  | _ => none

/-- How often an action publishes while a pane is shown. -/
def publicationCount : Action → Pane → Nat
  | showInbox, _ => 1
  | showId _, _ => 2
  | showMessage m, _ => if m.id.isSome then 2 else 0
  | startDraft, _ => 1
  | editDraft _, p => if p.draft?.isSome then 1 else 0
  | saveDraft, p => if p.draft?.isSome then 1 else 0

end Action

/-- The id of a call for a message is the one that the action opens. -/
theorem target_eq {a : Action} {id : MessageId}
    (h : a = .showId id ∨ ∃ m₀ : Message, a = .showMessage m₀ ∧ m₀.id = some id) :
    a.target? = some id := by
  rcases h with rfl | ⟨m₀, rfl, hm⟩
  · rfl
  · exact hm

/-- An action that opens a message publishes twice. -/
theorem publicationCount_of_target {a : Action} {id : MessageId}
    (h : a.target? = some id) (p : Pane) : a.publicationCount p = 2 := by
  cases a with
  | showId _ => rfl
  | showMessage m =>
      show (if m.id.isSome then 2 else 0) = 2
      rw [show m.id = some id from h]
      rfl
  | showInbox => exact nomatch h
  | startDraft => exact nomatch h
  | editDraft _ => exact nomatch h
  | saveDraft => exact nomatch h

/-- What is done to a draft is published once. -/
theorem count_draft {p : Pane} {d : Message} (h : p = .compose d) :
    (if p.draft?.isSome then 1 else 0) = 1 := by
  rw [h]
  rfl

/-- Without a draft nothing is published for it. -/
theorem count_noDraft {p : Pane} (h : p.draft? = none) :
    (if p.draft?.isSome then 1 else 0) = 0 := by
  rw [h]
  rfl

namespace Course

variable {service : Service σ} {store : σ} {s : Snapshot} {a : Action} {o : Outcome σ}

/-- **An action publishes as often as its kind and the pane say.** -/
theorem publications_length (c : Course service store s a o) :
    (publications o.events).length = a.publicationCount s.pane := by
  cases c with
  | inboxShown _ => rfl
  | inboxFailed _ => rfl
  | detailShown target _ => rw [publicationCount_of_target (target_eq target)]; rfl
  | detailFailed target _ => rw [publicationCount_of_target (target_eq target)]; rfl
  | @idMissing m₀ missing =>
      show 0 = if m₀.id.isSome then 2 else 0
      rw [missing]
      rfl
  | draftStarted => rfl
  | draftEdited shown => exact (count_draft shown).symm
  | editRefused hidden => exact (count_noDraft hidden).symm
  | saveRefused hidden => exact (count_noDraft hidden).symm
  | saveFailed shown _ => exact (count_draft shown).symm
  | savedAndShown shown _ _ => exact (count_draft shown).symm
  | savedNotShown shown _ _ => exact (count_draft shown).symm

/-- An action that opens a message first publishes a pane that waits for it. -/
theorem publications_head (c : Course service store s a o) {id : MessageId}
    (h : a.target? = some id) :
    (publications o.events).head? = some (s.waitingFor id).bump := by
  cases c with
  | detailShown target _ =>
      rw [← Option.some.inj ((target_eq target).symm.trans h)]
      rfl
  | detailFailed target _ =>
      rw [← Option.some.inj ((target_eq target).symm.trans h)]
      rfl
  | idMissing missing => exact nomatch missing.symm.trans h
  | _ => exact nomatch h

/-- An action that publishes nothing changes nothing, and asks nothing. -/
theorem unchanged (c : Course service store s a o)
    (h : a.publicationCount s.pane = 0) :
    o.store = store ∧ o.snapshot = s ∧ o.events = [] := by
  -- all other ways publish something, which the length rules out
  have hlen := c.publications_length
  rw [h] at hlen
  cases c with
  | idMissing _ => exact ⟨rfl, rfl, rfl⟩
  | editRefused _ => exact ⟨rfl, rfl, rfl⟩
  | saveRefused _ => exact ⟨rfl, rfl, rfl⟩
  | _ => exact nomatch hlen

end Course

/-! ## Runs -/

/-- The publications noted between the beginning and the end of an action. -/
theorem filterMap_entries (a : Action) (o : Outcome σ) :
    (o.entries a).filterMap Entry.snapshot? = publications o.events :=
  Outcome.entries_kind rfl rfl

namespace Run

variable (service : Service σ)

/-- The snapshots published in a run, in their order. -/
def published (r : Run σ) : List Snapshot := r.history.filterMap Entry.snapshot?

/-- The snapshots that can be seen in a run: those published, and those left by
    the actions. -/
def Moment (store : σ) (actions : List Action) (s : Snapshot) : Prop :=
  s ∈ ((new store).acts service actions).published
    ∨ ∃ done, done <+: actions ∧ s = ((new store).acts service done).session.snapshot

/-- The publications of a run are a chain, and the channel holds its end. -/
structure Broadcast (r : Run σ) : Prop where
  chain : Follows {} r.published r.session.snapshot
  channel : r.session.channel = ⟨r.session.snapshot, r.published.length⟩

/-- The publications of another action come behind those of a run. -/
theorem published_act (r : Run σ) (a : Action) :
    (r.act service a).published
      = r.published ++ publications (a.run service r.session.store r.session.snapshot).events := by
  rw [published, act, List.filterMap_append, filterMap_entries]
  rfl

/-- **Every run is broadcast in full.** -/
theorem broadcast (store : σ) (actions : List Action) :
    Broadcast ((new store).acts service actions) := by
  refine acts_invariant (P := Broadcast) (r := new store) ⟨rfl, rfl⟩ ?_ actions
  intro r a o hr c
  have hpub : (r.history ++ o.entries a).filterMap Entry.snapshot?
      = r.published ++ publications o.events := by
    rw [List.filterMap_append, filterMap_entries]
    rfl
  constructor
  · show Follows {} ((r.history ++ o.entries a).filterMap Entry.snapshot?) o.snapshot
    rw [hpub]
    exact hr.chain.append c.follows
  · show r.session.channel.absorb o.events
      = ⟨o.snapshot, ((r.history ++ o.entries a).filterMap Entry.snapshot?).length⟩
    rw [hpub, hr.channel, c.absorb, List.length_append]

/-- The publications of a run stay when it goes on. -/
theorem published_acts (rest : List Action) (r : Run σ) :
    r.published <+: (r.acts service rest).published := by
  induction rest generalizing r with
  | nil => exact List.prefix_refl _
  | cons a rest ih =>
      refine List.IsPrefix.trans ?_ (ih (r.act service a))
      rw [published_act]
      exact List.prefix_append _ _

/-- A snapshot that can be seen is the empty one or a publication. -/
theorem mem_of_moment {store : σ} {actions : List Action} {s : Snapshot}
    (h : Moment service store actions s) :
    s ∈ {} :: ((new store).acts service actions).published := by
  rcases h with h | ⟨done, hdone, rfl⟩
  · exact List.mem_cons_of_mem _ h
  · -- what a part of the actions leaves is the last publication of that part
    have hlast := (broadcast service store done).chain.getLast
    rcases List.mem_cons.mp (List.mem_of_getElem? hlast) with heq | hmem
    · rw [heq]
      exact List.mem_cons_self
    · -- and stays a publication of the whole
      obtain ⟨rest, rfl⟩ := hdone
      rw [acts_append]
      exact List.mem_cons_of_mem _ ((published_acts service rest _).subset hmem)

/-- A snapshot that can be seen has no revision beyond the number of publications. -/
theorem revision_le {store : σ} {actions : List Action} {s : Snapshot}
    (h : Moment service store actions s) :
    s.revision ≤ ((new store).acts service actions).published.length := by
  have hle := (broadcast service store actions).chain.revision_le (mem_of_moment service h)
  rwa [Nat.zero_add] at hle

/-- Snapshots that can be seen are the same if their revisions are. -/
theorem eq_of_revision {store : σ} {actions : List Action} {s t : Snapshot}
    (hs : Moment service store actions s) (ht : Moment service store actions t)
    (heq : s.revision = t.revision) : s = t :=
  (broadcast service store actions).chain.eq_of_revision (mem_of_moment service hs)
    (mem_of_moment service ht) heq

end Run

/-- The revision in a word of 64 bits, which begins again after 2 ^ 64 publications
    (`UInt64.size`). -/
def Snapshot.revisionWord (s : Snapshot) : UInt64 := .ofNat s.revision

/-- The word of a revision below 2 ^ 64 is the revision. -/
theorem toNat_revisionWord {s : Snapshot} (h : s.revision < UInt64.size) :
    s.revisionWord.toNat = s.revision :=
  UInt64.toNat_ofNat_of_lt' h

/-- **No change goes unpublished, and revisions count publications.**  After any
    actions over any service the channel holds the present snapshot, whose
    revision is the number of publications.  Whatever is done next publishes as
    often as its kind and the pane say: a message that is opened is first shown
    as waited for, and what publishes nothing changes nothing.  Two moments of a
    run with one revision show the same.  All this holds of a revision of 64 bits
    as well, as long as there are fewer than 2 ^ 64 publications. -/
theorem publications_complete (service : Service σ) (store : σ) (actions : List Action) :
    let r := (Run.new store).acts service actions
    r.session.channel.value = r.session.snapshot
      ∧ r.session.snapshot.revision = r.published.length
      ∧ (∀ a : Action, ∃ new : List Snapshot,
          (r.act service a).published = r.published ++ new
          ∧ new.length = a.publicationCount r.session.snapshot.pane
          ∧ (∀ id, a.target? = some id → new.head? = some
              { r.session.snapshot with
                pane := .detail id none
                revision := r.session.snapshot.revision + 1 })
          ∧ (a.publicationCount r.session.snapshot.pane = 0 →
              (r.act service a).session = r.session))
      ∧ (∀ s t : Snapshot, Run.Moment service store actions s →
          Run.Moment service store actions t → s.revision = t.revision → s = t)
      ∧ (r.published.length < UInt64.size →
          r.session.snapshot.revisionWord.toNat = r.published.length
            ∧ ∀ s t : Snapshot, Run.Moment service store actions s →
              Run.Moment service store actions t → s.revisionWord = t.revisionWord → s = t) := by
  intro r
  have hr : r.Broadcast := Run.broadcast service store actions
  have hcount : r.session.snapshot.revision = r.published.length := by
    rw [hr.chain.revision_end]
    exact Nat.zero_add _
  refine ⟨by rw [hr.channel], hcount, ?_, ?_, ?_⟩
  · intro a
    have c := Action.course_run service a r.session.store r.session.snapshot
    refine ⟨_, Run.published_act service r a, c.publications_length, ?_, ?_⟩
    · intro id hid
      exact c.publications_head hid
    · intro hzero
      obtain ⟨hstore, hsnapshot, hevents⟩ := c.unchanged hzero
      show ({ r.session with
        store := _, snapshot := _, channel := r.session.channel.absorb _ } : Session σ)
          = r.session
      rw [hstore, hsnapshot, hevents]
      rfl
  · intro s t hs ht heq
    exact Run.eq_of_revision service hs ht heq
  · intro hfew
    -- below the bound the words are the revisions
    have hword : ∀ s : Snapshot, Run.Moment service store actions s →
        s.revisionWord.toNat = s.revision := fun s hs =>
      toNat_revisionWord (Nat.lt_of_le_of_lt (Run.revision_le service hs) hfew)
    refine ⟨by rw [toNat_revisionWord (hcount ▸ hfew), hcount], ?_⟩
    intro s t hs ht heq
    refine Run.eq_of_revision service hs ht ?_
    rw [← hword s hs, ← hword t ht, heq]

/-- A new screen over an empty collection: opening a message publishes twice and
    saving not at all, and an empty draft is published as it is left, which one word
    counts. -/
theorem publications_complete_new :
    (∃ new, ((Run.new { clock := 0 }).act Memory.service (.showId (.number 1))).published = new
        ∧ new.length = 2 ∧ new.head? = some { pane := .detail (.number 1) none, revision := 1 })
      ∧ ((Run.new { clock := 0 }).act Memory.service .saveDraft).session
        = { store := { clock := 0 } }
      ∧ ({} : Snapshot).withNewDraft.bump
        = ((Run.new { clock := 0 }).acts Memory.service [.startDraft]).session.snapshot
      ∧ ((Run.new { clock := 0 }).acts Memory.service
          [.startDraft]).session.snapshot.revisionWord.toNat = 1 := by
  have hnew := publications_complete Memory.service { clock := 0 } []
  have hdraft := publications_complete Memory.service { clock := 0 } [.startDraft]
  obtain ⟨new, hpublished, hlength, hhead, -⟩ := hnew.2.2.1 (.showId (.number 1))
  obtain ⟨-, -, -, -, hzero⟩ := hnew.2.2.1 .saveDraft
  obtain ⟨-, -, -, hdetermined, hword⟩ := hdraft
  refine ⟨⟨new, hpublished, hlength, hhead _ rfl⟩, hzero rfl, ?_, ?_⟩
  · exact hdetermined _ _ (Or.inl (.head _))
      (Or.inr ⟨[.startDraft], List.prefix_refl _, rfl⟩) rfl
  · exact (hword (by decide)).1

end Postbox
