import Postbox.Proofs.Answering
import Postbox.Service.Memory

/-! # Faithfulness — a snapshot shows what has happened

    What a snapshot shows can be read off the history before it: its messages
    are the last list that came, an open message is the last answer of the
    service, a draft is made by the edits since it was begun.

    The history grows entry by entry.  An entry that says nothing of what is
    shown keeps a faithful snapshot faithful (`Faithful.pass`); the others stand
    right before the publication that shows them.  `Told` carries this through
    an action, and `Run.acts_invariant` through a run.

    The history itself is true to the service and to the user: its calls were
    answered as it tells (`Run.asked_answered`), and the actions begun in it are
    those that were done (`Run.begun_acts`). -/

namespace Postbox

variable {σ : Type}

namespace Entry

/-- The records of a list that came. -/
def listing? : Entry → Option (List Message)
  | .happened (.listed (.ok ms)) => some ms
  | _ => none

/-- The id that was asked for, and the answer. -/
def fetch? : Entry → Option (MessageId × Except Fault Message)
  | .happened (.fetched id answer) => some (id, answer)
  | _ => none

/-- The edit with which an action begins. -/
def edit? : Entry → Option (Message → Message)
  | .began (.editDraft f) => some f
  | _ => none

/-- Whether a draft is begun. -/
def startsDraft : Entry → Bool
  | .began .startDraft => true
  | _ => false

/-- An entry says nothing of what a snapshot shows.  A call for a message says
    nothing while no message is open, and an edit nothing without a draft. -/
structure Silent (e : Entry) (s : Snapshot) : Prop where
  listing : e.listing? = none
  fetch : e.fetch? = none ∨ ∀ id m, s.pane ≠ .detail id (some m)
  draft : e.startsDraft = false
  edit : e.edit? = none ∨ s.pane.draft? = none

/-- The end of an action is silent. -/
theorem silent_ended (result : Except Fault Unit) (s : Snapshot) :
    Silent (.ended result) s := ⟨rfl, Or.inl rfl, rfl, Or.inl rfl⟩

/-- A publication is silent: it only repeats what has happened. -/
theorem silent_published (t s : Snapshot) : Silent (.happened (.published t)) s :=
  ⟨rfl, Or.inl rfl, rfl, Or.inl rfl⟩

/-- A list that did not come is silent. -/
theorem silent_notListed (fault : Fault) (s : Snapshot) :
    Silent (.happened (.listed (.error fault))) s := ⟨rfl, Or.inl rfl, rfl, Or.inl rfl⟩

/-- A draft that is posted is silent. -/
theorem silent_posted (d : Message) (answer : Except Fault (List Message)) (s : Snapshot) :
    Silent (.happened (.posted d answer)) s := ⟨rfl, Or.inl rfl, rfl, Or.inl rfl⟩

/-- An answer is silent while the pane waits. -/
theorem silent_fetched (id : MessageId) (answer : Except Fault Message) (s : Snapshot) :
    Silent (.happened (.fetched id answer)) (s.waitingFor id).bump :=
  ⟨rfl, Or.inr fun _ _ heq => (nomatch heq), rfl, Or.inl rfl⟩

end Entry

/-- The last list that came, and no messages where none has come. -/
def latestList (h : List Entry) : List Message := (latest? Entry.listing? h).getD []

/-- The last call for one message. -/
def latestFetch? (h : List Entry) : Option (MessageId × Except Fault Message) :=
  latest? Entry.fetch? h

/-- A draft that is made by some edits, the first one first. -/
def editedBy (edits : List (Message → Message)) : Message :=
  edits.foldl (fun d f => f d) .empty

/-- A snapshot shows what has happened. -/
structure Faithful (h : List Entry) (s : Snapshot) : Prop where
  messages : s.messages = latestList h
  inbox : ∀ ms, s.pane = .inbox ms → ms = s.messages
  detail : ∀ id m, s.pane = .detail id (some m) → latestFetch? h = some (id, .ok m)
  compose : ∀ d, s.pane = .compose d → ∃ before after,
    h = before ++ .began .startDraft :: after
      ∧ (∀ e ∈ after, e.startsDraft = false)
      ∧ d = editedBy (after.filterMap Entry.edit?)

/-- Every snapshot was faithful when it was published. -/
def Sound (h : List Entry) : Prop :=
  ∀ before s after, h = before ++ .happened (.published s) :: after → Faithful before s

/-! ## Growing histories -/

/-- An entry that brings no list leaves the last one. -/
theorem latestList_pass {e : Entry} (he : e.listing? = none) (h : List Entry) :
    latestList (h ++ [e]) = latestList h := by
  rw [latestList, latest_snoc_none he]
  rfl

/-- A list that comes is the last one. -/
theorem latestList_listed (h : List Entry) (ms : List Message) :
    latestList (h ++ [.happened (.listed (.ok ms))]) = ms := by
  rw [latestList, latest_snoc_some
    (show Entry.listing? (.happened (.listed (.ok ms))) = some ms from rfl)]
  rfl

/-- A call for a message is the last one. -/
theorem latestFetch_fetched (h : List Entry) (id : MessageId)
    (answer : Except Fault Message) :
    latestFetch? (h ++ [.happened (.fetched id answer)]) = some (id, answer) :=
  latest_snoc_some
    (show Entry.fetch? (.happened (.fetched id answer)) = some (id, answer) from rfl) h

namespace Faithful

variable {h : List Entry} {s : Snapshot}

/-- An entry that says nothing of what a snapshot shows keeps it faithful.  An
    edit says nothing of a snapshot without a draft. -/
theorem pass (hs : Faithful h s) {e : Entry} (he : e.Silent s) :
    Faithful (h ++ [e]) s where
  messages := by
    rw [latestList_pass he.listing]
    exact hs.messages
  inbox := hs.inbox
  detail := by
    intro id m hp
    rcases he.fetch with hf | hf
    · rw [latestFetch?, latest_snoc_none hf]
      exact hs.detail id m hp
    · exact absurd hp (hf id m)
  compose := by
    intro d hp
    -- the draft was begun where it was, and `e` is one entry more behind that
    obtain ⟨before, after, rfl, hnone, hd⟩ := hs.compose d hp
    refine ⟨before, after ++ [e], by simp, ?_, ?_⟩
    · intro x hx
      rcases List.mem_append.mp hx with hx | hx
      · exact hnone x hx
      · rw [List.mem_singleton.mp hx]
        exact he.draft
    · rcases he.edit with hn | hn
      · rw [filterMap_snoc_none hn]
        exact hd
      · rw [hp] at hn
        exact nomatch hn

/-- The text of a fault is no part of what a snapshot shows of the history. -/
theorem withFault (hs : Faithful h s) (fault : Fault) :
    Faithful h (s.withFault fault).bump :=
  ⟨hs.messages, hs.inbox, hs.detail, hs.compose⟩

/-- An inbox shows the last list. -/
theorem ofList {ms : List Message} (hl : latestList h = ms) (s : Snapshot) :
    Faithful h (s.withInbox ms).bump where
  messages := hl.symm
  inbox := by
    intro ms' hp
    exact (Pane.inbox.inj hp).symm
  detail := by
    intro id m hp
    exact nomatch hp
  compose := by
    intro d hp
    exact nomatch hp

/-- A pane that waits shows nothing of the history. -/
theorem ofWaiting (hs : Faithful h s) (id : MessageId) :
    Faithful h (s.waitingFor id).bump where
  messages := hs.messages
  inbox := by
    intro ms hp
    exact nomatch hp
  detail := by
    intro id' m hp
    exact nomatch hp
  compose := by
    intro d hp
    exact nomatch hp

/-- A message that has come is the last answer. -/
theorem ofDetail (hm : s.messages = latestList h) {id : MessageId} {m : Message}
    (hf : latestFetch? h = some (id, .ok m)) :
    Faithful h (s.withDetail id m).bump where
  messages := hm
  inbox := by
    intro ms hp
    exact nomatch hp
  detail := by
    intro id' m' hp
    obtain ⟨rfl, hm'⟩ := Pane.detail.inj hp
    rw [hf, Option.some.inj hm']
  compose := by
    intro d hp
    exact nomatch hp

/-- A draft that has just been begun is empty. -/
theorem ofNewDraft (hs : Faithful h s) :
    Faithful (h ++ [.began .startDraft]) s.withNewDraft.bump where
  messages := by
    rw [latestList_pass rfl]
    exact hs.messages
  inbox := by
    intro ms hp
    exact nomatch hp
  detail := by
    intro id m hp
    exact nomatch hp
  compose := by
    intro d hp
    refine ⟨h, [], rfl, ?_, (Pane.compose.inj hp).symm⟩
    intro e he
    exact nomatch he

/-- An edited draft has one edit more. -/
theorem ofEdit (hs : Faithful h s) {d : Message} (hp : s.pane = .compose d)
    (f : Message → Message) :
    Faithful (h ++ [.began (.editDraft f)]) { s with pane := .compose (f d) }.bump where
  messages := by
    rw [latestList_pass rfl]
    exact hs.messages
  inbox := by
    intro ms hp'
    exact nomatch hp'
  detail := by
    intro id m hp'
    exact nomatch hp'
  compose := by
    intro d' hp'
    -- one edit more since the draft was begun, and it is the last one
    obtain ⟨before, after, rfl, hnone, hd⟩ := hs.compose d hp
    refine ⟨before, after ++ [.began (.editDraft f)], by simp, ?_, ?_⟩
    · intro x hx
      rcases List.mem_append.mp hx with hx | hx
      · exact hnone x hx
      · rw [List.mem_singleton.mp hx]
        rfl
    · rw [← Pane.compose.inj hp', hd, editedBy, editedBy, filterMap_snoc_some
        (show Entry.edit? (.began (.editDraft f)) = some f from rfl), List.foldl_append]
      rfl

end Faithful

/-! ## Sound histories -/

/-- A sound history grows by an entry that publishes nothing but what is
    faithful to it. -/
theorem Sound.snoc {h : List Entry} (hh : Sound h) {e : Entry}
    (he : ∀ s, e.snapshot? = some s → Faithful h s) : Sound (h ++ [e]) := by
  intro before s after heq
  rcases snoc_eq_cases heq with ⟨rfl, rfl⟩ | ⟨after', -, hbefore⟩
  · exact he s rfl
  · exact hh before s after' hbefore

/-- A sound history grows by an entry that publishes nothing. -/
theorem Sound.pass {h : List Entry} (hh : Sound h) {e : Entry} (he : e.snapshot? = none) :
    Sound (h ++ [e]) :=
  hh.snoc fun s hs => by rw [he] at hs; exact nomatch hs

/-- What a history tells: the snapshot at its end is faithful, and so was every
    one that was published in it. -/
structure Told (h : List Entry) (s : Snapshot) : Prop where
  faithful : Faithful h s
  sound : Sound h

namespace Told

variable {h : List Entry} {s : Snapshot}

/-- A new screen shows that nothing has happened. -/
theorem new : Told [] {} where
  faithful :=
    { messages := rfl
      inbox := fun _ hp => nomatch hp
      detail := fun _ _ hp => nomatch hp
      compose := fun _ hp => nomatch hp }
  sound := by
    intro before s after heq
    cases before with
    | nil => exact nomatch heq
    | cons _ _ => exact nomatch heq

/-- A silent entry without a publication changes nothing. -/
theorem pass (ht : Told h s) {e : Entry} (he : e.Silent s) (hp : e.snapshot? = none) :
    Told (h ++ [e]) s :=
  ⟨ht.faithful.pass he, ht.sound.pass hp⟩

/-- A publication shows a snapshot that is faithful to what was before. -/
theorem publish (hh : Sound h) (hs : Faithful h s) :
    Told (h ++ [.happened (.published s)]) s where
  faithful := hs.pass (Entry.silent_published s s)
  sound := hh.snoc fun t heq => by
    rw [← Option.some.inj heq]
    exact hs

/-- A list that comes is shown, whatever was shown before. -/
theorem list (hh : Sound h) (ms : List Message) (s : Snapshot) :
    Told (h ++ [.happened (.listed (.ok ms))]
        ++ [.happened (.published (s.withInbox ms).bump)])
      (s.withInbox ms).bump :=
  publish (hh.pass rfl) (Faithful.ofList (latestList_listed h ms) s)

/-- A fault is shown beside what is shown already. -/
theorem fail (ht : Told h s) (fault : Fault) :
    Told (h ++ [.happened (.published (s.withFault fault).bump)])
      (s.withFault fault).bump :=
  publish ht.sound (ht.faithful.withFault fault)

/-- The pane waits once the entry of an id is made. -/
theorem wait (ht : Told h s) (id : MessageId) :
    Told (h ++ [.happened (.published (s.waitingFor id).bump)])
      (s.waitingFor id).bump :=
  publish ht.sound (ht.faithful.ofWaiting id)

/-- The end of an action. -/
theorem ended (ht : Told h s) (result : Except Fault Unit) :
    Told (h ++ [.ended result]) s :=
  ht.pass (Entry.silent_ended result s) rfl

/-- The beginning of an action that changes no draft. -/
theorem began (ht : Told h s) {a : Action} (hd : (Entry.began a).startsDraft = false)
    (he : (Entry.began a).edit? = none ∨ s.pane.draft? = none) :
    Told (h ++ [.began a]) s :=
  ht.pass ⟨rfl, Or.inl rfl, hd, he⟩ rfl

/-- The beginning of an action that opens a message. -/
theorem began_open (ht : Told h s) {a : Action} {id : MessageId}
    (target : a = .showId id ∨ ∃ m₀ : Message, a = .showMessage m₀ ∧ m₀.id = some id) :
    Told (h ++ [.began a]) s := by
  rcases target with rfl | ⟨m₀, rfl, -⟩
  · exact ht.began rfl (Or.inl rfl)
  · exact ht.began rfl (Or.inl rfl)

/-- **An action is told by its snapshots**, whichever way it goes. -/
theorem course {service : Service σ} {store : σ} (ht : Told h s) {a : Action}
    {o : Outcome σ} (c : Course service store s a o) :
    Told (h ++ o.entries a) o.snapshot := by
  cases c with
  | @inboxShown ms _ _ =>
      have hb := ht.began (a := .showInbox) rfl (Or.inl rfl)
      have hl := Told.list hb.sound ms s
      simpa [Outcome.entries] using hl.ended (.ok ())
  | @inboxFailed fault _ _ =>
      have hb := ht.began (a := .showInbox) rfl (Or.inl rfl)
      have hl := hb.pass (Entry.silent_notListed fault s) rfl
      simpa [Outcome.entries] using (hl.fail fault).ended (.error fault)
  | @detailShown _ id m _ target _ =>
      have hw := (ht.began_open target).wait id
      -- the answer is silent while the pane waits; only then is it shown
      have hf := hw.pass (Entry.silent_fetched id (.ok m) s) rfl
      have hd := publish hf.sound
        (Faithful.ofDetail (m := m) hf.faithful.messages (latestFetch_fetched _ id (.ok m)))
      simpa [Outcome.entries] using hd.ended (.ok ())
  | @detailFailed _ id fault _ target _ =>
      have hw := (ht.began_open target).wait id
      have hf := hw.pass (Entry.silent_fetched id (.error fault) s) rfl
      simpa [Outcome.entries] using (hf.fail fault).ended (.error fault)
  | @idMissing m₀ _ =>
      have hb := ht.began (a := .showMessage m₀) rfl (Or.inl rfl)
      simpa [Outcome.entries] using hb.ended (.error .missingId)
  -- beginning or editing a draft is not silent: what is shown is what was before, and
  -- only the publication shows the draft as it has become
  | draftStarted =>
      have hb := ht.sound.pass (e := .began .startDraft) rfl
      have hd := publish hb ht.faithful.ofNewDraft
      simpa [Outcome.entries] using hd.ended (.ok ())
  | @draftEdited f d shown =>
      have hb := ht.sound.pass (e := .began (.editDraft f)) rfl
      have hd := publish hb (ht.faithful.ofEdit shown f)
      simpa [Outcome.entries] using hd.ended (.ok ())
  | @editRefused f hidden =>
      have hb := ht.began (a := .editDraft f) rfl (Or.inr hidden)
      simpa [Outcome.entries] using hb.ended (.error .notComposing)
  | saveRefused _ =>
      have hb := ht.began (a := .saveDraft) rfl (Or.inl rfl)
      simpa [Outcome.entries] using hb.ended (.error .notComposing)
  | @saveFailed d fault _ _ _ =>
      have hb := ht.began (a := .saveDraft) rfl (Or.inl rfl)
      have hp := hb.pass (Entry.silent_posted d (.error fault) s) rfl
      simpa [Outcome.entries] using (hp.fail fault).ended (.error fault)
  | @savedAndShown d saved ms _ _ _ _ _ =>
      have hb := ht.began (a := .saveDraft) rfl (Or.inl rfl)
      have hp := hb.pass (Entry.silent_posted d (.ok saved) s) rfl
      have hl := Told.list hp.sound ms s
      simpa [Outcome.entries] using hl.ended (.ok ())
  | @savedNotShown d saved fault _ _ _ _ _ =>
      have hb := ht.began (a := .saveDraft) rfl (Or.inl rfl)
      have hp := hb.pass (Entry.silent_posted d (.ok saved) s) rfl
      have hl := hp.pass (Entry.silent_notListed fault s) rfl
      simpa [Outcome.entries] using (hl.fail fault).ended (.error fault)

end Told

/-- **A screen shows what has happened.**  After any actions over any service
    the snapshot is faithful to the history, and every snapshot published on the
    way was faithful to the history before it.  And the history tells what was: the
    actions begun in it are those that were done, and its calls are those that the
    service was asked, each with the answer that it gave. -/
theorem snapshots_faithful (service : Service σ) (store : σ) (actions : List Action) :
    let r := (Run.new store).acts service actions
    r.history.filterMap Entry.begun? = actions
      ∧ service.AnswersAll store r.asked r.session.store
      ∧ Faithful r.history r.session.snapshot
      ∧ ∀ before s after, r.history = before ++ .happened (.published s) :: after →
        Faithful before s := by
  intro r
  have htold : Told r.history r.session.snapshot :=
    Run.acts_invariant (P := fun r => Told r.history r.session.snapshot)
      Told.new (fun _ _ _ ht c => ht.course c) actions
  exact ⟨Run.begun_acts service (Run.new store) actions,
    Run.asked_answered service store actions, htold.faithful, htold.sound⟩

/-- A collection that cannot be listed once it holds two messages. -/
def Memory.crowded : Service Memory where
  list m := if m.messages.length < 2 then m.list else (.error (.network (.stated "down")), m)
  get := Memory.get
  create := Memory.create

/-- A message is listed and opened, and another one is written and saved, behind which the
    list does not come: what is left are the messages of the list that came and the draft
    with its two edits, and the open message was the answer to the call for it. -/
theorem snapshots_faithful_crowded :
    let first : Message := {
      id := some (.number 7)
      text := some "Two for one"
      summary := some "Offer"
      created := some (.millis 86400000) }
    let draft : Message := { summary := some "Reply", text := some "No, thanks" }
    let start := Memory.ofMessages [first] 0
    let r := (Run.new start).acts Memory.crowded [.showInbox, .showId (.number 7), .startDraft,
      .editDraft fun d => d.withText "No, thanks", .editDraft fun d => d.withSummary "Reply",
      .saveDraft]
    r.session.snapshot = {
        messages := [first]
        pane := .compose draft
        lastError := some "Network error: down"
        revision := 7 }
      ∧ Memory.crowded.AnswersAll start
        [.listed (.ok [first]), .fetched (.number 7) (.ok first),
          .posted draft (.ok [{ draft with id := some (.number 8), created := some (.millis 0) }]),
          .listed (.error (.network (.stated "down")))] r.session.store
      ∧ latestList r.history = [first]
      ∧ (∃ before after, r.history = before ++ .began .startDraft :: after
        ∧ draft = editedBy (after.filterMap Entry.edit?))
      ∧ ∃ before opened after, r.history = before ++ .happened (.published opened) :: after
        ∧ opened.pane = .detail (.number 7) (some first)
        ∧ latestFetch? before = some (.number 7, .ok first) := by
  intro first draft start r
  obtain ⟨-, hcalls, hleft, hpublished⟩ := snapshots_faithful Memory.crowded start [.showInbox,
    .showId (.number 7), .startDraft, .editDraft fun d => d.withText "No, thanks",
    .editDraft fun d => d.withSummary "Reply", .saveDraft]
  obtain ⟨before, after, hdraft, -, hedited⟩ := hleft.compose draft rfl
  have hopened := hpublished [_, _, _, _, _, _, _] _ (_ :: _) rfl
  refine ⟨rfl, hcalls, hleft.messages.symm, ⟨before, after, hdraft, hedited⟩, ?_⟩
  exact ⟨_, _, _, rfl, rfl, hopened.detail (.number 7) first rfl⟩

end Postbox
