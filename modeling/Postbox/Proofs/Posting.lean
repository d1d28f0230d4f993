import Postbox.Proofs.Faithfulness

/-! # Posting — when a saved draft is posted again

    Saving posts the draft that is shown and then lists the collection, and only
    the list takes the draft off the screen.  Where the list does not come, the
    draft lingers: it can be edited, and saving posts it once more.  So a second
    draft is taken by the service without a new one having been started only if
    the reload of the first one's save failed, and no list has come and no message
    was asked for since (`Lingers`).

    `Taken` says this of a history, both of the drafts taken twice in it and of
    the one that is shown now.  `Taken.grow` and `Taken.post` carry it over the
    entries of an action, `Course` tells which entries those are. -/

namespace Postbox

variable {σ : Type}

/-- The draft that the service took. -/
def Entry.saved? : Entry → Option Message
  | .happened (.posted d (.ok _)) => some d
  | _ => none

/-- A draft that was taken as `d` is still shown, as `d'`: the reload failed, with
    which the save ended, no list came and no message was asked for since, and `d'`
    is `d` with the edits made since. -/
structure Lingers (d : Message) (since : List Entry) (d' : Message) : Prop where
  reload : ∃ fault s rest, since
    = .happened (.listed (.error fault)) :: .happened (.published s)
        :: .ended (.error fault) :: rest
  quiet : ∀ e ∈ since, e.listing? = none ∧ e.fetch? = none
  edited : d' = (since.filterMap Entry.edit?).foldl (fun d f => f d) d

/-- What a history tells of the drafts that the service took: unless one was started
    since, the draft shown now is one that lingers, and so was each draft when the
    service took it after another one. -/
structure Taken (h : List Entry) (s : Snapshot) : Prop where
  shown : ∀ before e d since, h = before ++ e :: since → e.saved? = some d →
    (∀ x ∈ since, x.startsDraft = false) → ∀ d', s.pane = .compose d' → Lingers d since d'
  again : ∀ before e d between e' d' after, h = before ++ e :: (between ++ e' :: after) →
    e.saved? = some d → e'.saved? = some d' →
    (∃ x ∈ between, x.startsDraft = true) ∨ Lingers d between d'

/-! ## Entries that leave a draft -/

/-- What stands in a list made of two stands in the one or in the other. -/
theorem append_eq_cases {α : Type} {xs ys before after : List α} {x : α}
    (h : xs ++ ys = before ++ x :: after) :
    (∃ mid, xs = before ++ x :: mid ∧ after = mid ++ ys)
      ∨ ∃ front, before = xs ++ front ∧ ys = front ++ x :: after := by
  rcases List.append_eq_append_iff.mp h with ⟨front, hbefore, hys⟩ | ⟨mid, hxs, hafter⟩
  · exact Or.inr ⟨front, hbefore, hys⟩
  · cases mid with
    | nil => exact Or.inr ⟨[], by simpa using hxs.symm, hafter.symm⟩
    | cons y mid =>
        obtain ⟨rfl, hmid⟩ := List.cons.inj hafter
        exact Or.inl ⟨mid, hxs, hmid⟩

/-- A draft lingers on while entries come that say nothing of it. -/
theorem Lingers.pass {d d' : Message} {since es : List Entry} (h : Lingers d since d')
    (hes : ∀ e ∈ es, e.listing? = none ∧ e.fetch? = none ∧ e.edit? = none) :
    Lingers d (since ++ es) d' where
  reload := by
    obtain ⟨fault, s, rest, rfl⟩ := h.reload
    exact ⟨fault, s, rest ++ es, rfl⟩
  quiet := by
    intro e he
    rcases List.mem_append.mp he with he | he
    · exact h.quiet e he
    · exact ⟨(hes e he).1, (hes e he).2.1⟩
  edited := by
    have hnone : es.filterMap Entry.edit? = [] :=
      List.filterMap_eq_nil_iff.mpr fun e he => (hes e he).2.2
    rw [List.filterMap_append, hnone, List.append_nil]
    exact h.edited

/-- A draft that lingers can be edited. -/
theorem Lingers.edit {d d' : Message} {since : List Entry} (h : Lingers d since d')
    (f : Message → Message) : Lingers d (since ++ [.began (.editDraft f)]) (f d') where
  reload := by
    obtain ⟨fault, s, rest, rfl⟩ := h.reload
    exact ⟨fault, s, rest ++ [.began (.editDraft f)], rfl⟩
  quiet := by
    intro e he
    rcases List.mem_append.mp he with he | he
    · exact h.quiet e he
    · rw [List.mem_singleton.mp he]
      exact ⟨rfl, rfl⟩
  edited := by
    rw [filterMap_snoc_some (show Entry.edit? (.began (.editDraft f)) = some f from rfl),
      List.foldl_append, ← h.edited]
    rfl

namespace Taken

variable {h es : List Entry} {s s' : Snapshot}

/-- A new screen has saved nothing. -/
theorem new : Taken [] {} where
  shown := by
    intro before e d since heq
    cases before with
    | nil => exact nomatch heq
    | cons _ _ => exact nomatch heq
  again := by
    intro before e d between e' d' after heq
    cases before with
    | nil => exact nomatch heq
    | cons _ _ => exact nomatch heq

/-- A history grows by entries that take no draft, as long as a draft that is shown
    afterwards was shown before and lingers on. -/
theorem grow (ht : Taken h s) (hes : ∀ e ∈ es, e.saved? = none)
    (hs : (∀ x ∈ es, x.startsDraft = false) → ∀ d since,
      (∀ d', s.pane = .compose d' → Lingers d since d') →
      ∀ d', s'.pane = .compose d' → Lingers d (since ++ es) d') :
    Taken (h ++ es) s' where
  shown := by
    intro before e d since heq he hnone
    rcases append_eq_cases heq with ⟨mid, rfl, rfl⟩ | ⟨front, -, rfl⟩
    · have hmid : ∀ x ∈ mid, x.startsDraft = false :=
        fun x hx => hnone x (List.mem_append_left _ hx)
      exact hs (fun x hx => hnone x (List.mem_append_right _ hx)) d mid
        (ht.shown before e d mid rfl he hmid)
    · rw [hes e (List.mem_append_right _ List.mem_cons_self)] at he
      exact nomatch he
  again := by
    intro before e d between e' d' after heq he he'
    rw [← List.cons_append, ← List.append_assoc] at heq
    rcases append_eq_cases heq with ⟨mid, rfl, -⟩ | ⟨front, -, rfl⟩
    · exact ht.again before e d between e' d' mid (by simp) he he'
    · rw [hes e' (List.mem_append_right _ List.mem_cons_self)] at he'
      exact nomatch he'

/-- Entries that say nothing of a draft leave it. -/
theorem pass (ht : Taken h s) (hpane : s'.pane = s.pane)
    (hes : ∀ e ∈ es, e.saved? = none ∧ e.listing? = none ∧ e.fetch? = none ∧ e.edit? = none) :
    Taken (h ++ es) s' := by
  refine ht.grow (fun e he => (hes e he).1) ?_
  intro _ d since hl d' hp
  exact (hl d' (hpane ▸ hp)).pass fun e he => (hes e he).2

/-- Where no draft is shown afterwards none lingers. -/
theorem leave (ht : Taken h s) (hpane : s'.pane.draft? = none)
    (hes : ∀ e ∈ es, e.saved? = none) : Taken (h ++ es) s' := by
  refine ht.grow hes ?_
  intro _ d since _ d' hp
  rw [hp] at hpane
  exact nomatch hpane

/-- A draft that is shown is taken.  It lingers if the entries behind it say so. -/
theorem post (ht : Taken h s) {d : Message} {saved : List Message}
    (shown : s.pane = .compose d) (hes : ∀ e ∈ es, e.saved? = none)
    (hs : ∀ d₀ since, (∀ d', s.pane = .compose d' → Lingers d₀ since d') →
      ∀ d', s'.pane = .compose d' →
        Lingers d₀ (since ++ .happened (.posted d (.ok saved)) :: es) d')
    (hnew : ∀ d', s'.pane = .compose d' → Lingers d es d') :
    Taken (h ++ .happened (.posted d (.ok saved)) :: es) s' where
  shown := by
    intro before e d₀ since heq he hnone
    rcases append_eq_cases heq with ⟨mid, rfl, rfl⟩ | ⟨front, -, hfront⟩
    · exact hs d₀ mid (ht.shown before e d₀ mid rfl he
        fun x hx => hnone x (List.mem_append_left _ hx))
    · cases front with
      | nil =>
          obtain ⟨rfl, rfl⟩ := List.cons.inj hfront
          rw [← Option.some.inj he]
          exact hnew
      | cons x front =>
          rw [hes e ((List.cons.inj hfront).2 ▸
            List.mem_append_right _ List.mem_cons_self)] at he
          exact nomatch he
  again := by
    intro before e d₀ between e' d' after heq he he'
    rw [← List.cons_append, ← List.append_assoc] at heq
    rcases append_eq_cases heq with ⟨mid, rfl, -⟩ | ⟨front, hbefore, hfront⟩
    · exact ht.again before e d₀ between e' d' mid (by simp) he he'
    · cases front with
      | nil =>
          -- the second of the two is the draft that is taken now
          obtain ⟨rfl, rfl⟩ := List.cons.inj hfront
          rw [List.append_nil] at hbefore
          by_cases hstart : ∃ x ∈ between, x.startsDraft = true
          · exact Or.inl hstart
          · have hnone : ∀ x ∈ between, x.startsDraft = false := by
              intro x hx
              exact Bool.eq_false_iff.mpr fun hx' => hstart ⟨x, hx, hx'⟩
            rw [← Option.some.inj he']
            exact Or.inr (ht.shown before e d₀ between hbefore.symm he hnone d shown)
      | cons x front =>
          rw [hes e' ((List.cons.inj hfront).2 ▸
            List.mem_append_right _ List.mem_cons_self)] at he'
          exact nomatch he'

/-- **An action takes drafts as the history tells**, whichever way it goes. -/
theorem course {service : Service σ} {store : σ} (ht : Taken h s) {a : Action}
    {o : Outcome σ} (c : Course service store s a o) :
    Taken (h ++ o.entries a) o.snapshot := by
  cases c with
  | inboxShown _ => exact ht.leave rfl (by simp [Outcome.entries, Entry.saved?])
  | inboxFailed _ =>
      exact ht.pass rfl
        (by simp [Outcome.entries, Entry.saved?, Entry.listing?, Entry.fetch?, Entry.edit?])
  | detailShown _ _ => exact ht.leave rfl (by simp [Outcome.entries, Entry.saved?])
  | detailFailed _ _ => exact ht.leave rfl (by simp [Outcome.entries, Entry.saved?])
  | idMissing _ =>
      exact ht.pass rfl
        (by simp [Outcome.entries, Entry.saved?, Entry.listing?, Entry.fetch?, Entry.edit?])
  | draftStarted =>
      refine ht.grow (by simp [Outcome.entries, Entry.saved?]) ?_
      intro hnone
      exact absurd (hnone (.began .startDraft) List.mem_cons_self) (by decide)
  | @draftEdited f d shown =>
      refine ht.grow (by simp [Outcome.entries, Entry.saved?]) ?_
      intro _ d₀ since hl d' hp
      rw [← Pane.compose.inj hp]
      have hedit := (hl d shown).edit f
      have hpass : Lingers d₀ ((since ++ [.began (.editDraft f)])
          ++ [.happened (.published { s with pane := .compose (f d) }.bump), .ended (.ok ())])
          (f d) :=
        hedit.pass (by simp [Entry.listing?, Entry.fetch?, Entry.edit?])
      rw [List.append_assoc] at hpass
      exact hpass
  | editRefused hidden => exact ht.leave hidden (by simp [Outcome.entries, Entry.saved?])
  | saveRefused hidden => exact ht.leave hidden (by simp [Outcome.entries, Entry.saved?])
  | saveFailed _ _ =>
      exact ht.pass rfl
        (by simp [Outcome.entries, Entry.saved?, Entry.listing?, Entry.fetch?, Entry.edit?])
  | @savedAndShown d saved ms _ _ shown _ _ =>
      have hb : Taken (h ++ [.began .saveDraft]) s :=
        ht.pass rfl (by simp [Entry.saved?, Entry.listing?, Entry.fetch?, Entry.edit?])
      -- the list takes the draft off the screen
      have hlist : ∀ d', (s.withInbox ms).bump.pane ≠ .compose d' := by
        simp [Snapshot.withInbox, Snapshot.bump]
      have hp : Taken ((h ++ [.began .saveDraft]) ++ .happened (.posted d (.ok saved))
          :: [.happened (.listed (.ok ms)), .happened (.published (s.withInbox ms).bump),
            .ended (.ok ())]) (s.withInbox ms).bump :=
        hb.post shown (by simp [Entry.saved?]) (fun _ _ _ d' hp => absurd hp (hlist d'))
          (fun d' hp => absurd hp (hlist d'))
      rw [List.append_assoc] at hp
      exact hp
  | @savedNotShown d saved fault _ _ shown _ _ =>
      have hb : Taken (h ++ [.began .saveDraft]) s :=
        ht.pass rfl (by simp [Entry.saved?, Entry.listing?, Entry.fetch?, Entry.edit?])
      have hp : Taken ((h ++ [.began .saveDraft]) ++ .happened (.posted d (.ok saved))
          :: [.happened (.listed (.error fault)), .happened (.published (s.withFault fault).bump),
            .ended (.error fault)]) (s.withFault fault).bump := by
        refine hb.post shown (by simp [Entry.saved?]) ?_ ?_
        · intro d₀ since hl d' hp
          exact (hl d' hp).pass (by simp [Entry.listing?, Entry.fetch?, Entry.edit?])
        · -- the draft that is taken now is the one that is left
          intro d' hp
          have heq : d = d' := Pane.compose.inj (shown.symm.trans hp)
          rw [← heq]
          exact ⟨⟨fault, _, [], rfl⟩, by simp [Entry.listing?, Entry.fetch?], rfl⟩
      rw [List.append_assoc] at hp
      exact hp

end Taken

/-! ## Runs -/

/-- After a save whose draft was taken and whose reload failed the draft is still
    shown, and saving posts it once more. -/
theorem posted_once_more {service : Service σ} {r : Run σ} {d : Message}
    {saved : List Message} {fault : Fault} {store' store'' : σ}
    (shown : r.session.snapshot.pane = .compose d)
    (posting : service.create d r.session.store = (.ok saved, store'))
    (listing : service.list store' = (.error fault, store'')) :
    ∃ later, ((r.act service .saveDraft).act service .saveDraft).history
      = (r.act service .saveDraft).history ++ .began .saveDraft
        :: .happened (.posted d (service.create d store'').1) :: later := by
  have hr := Run.act_eq (Course.savedNotShown shown posting listing)
  rw [hr]
  -- the draft is still on the screen, so the second save posts it again, however that ends
  generalize hr' : r.after .saveDraft _ = r'
  have hshown : r'.session.snapshot.pane = .compose d := by rw [← hr']; exact shown
  have hstore : r'.session.store = store'' := by rw [← hr']; rfl
  cases hc : service.create d store'' with
  | mk answer store₃ =>
      rw [← hstore] at hc
      cases answer with
      | error fault' =>
          rw [Run.act_eq (Course.saveFailed hshown hc)]
          exact ⟨_, rfl⟩
      | ok saved' =>
          cases hl : service.list store₃ with
          | mk answer' store₄ =>
              cases answer' with
              | ok ms =>
                  rw [Run.act_eq (Course.savedAndShown hshown hc hl)]
                  exact ⟨_, rfl⟩
              | error fault' =>
                  rw [Run.act_eq (Course.savedNotShown hshown hc hl)]
                  exact ⟨_, rfl⟩

/-- **A draft is taken again only if it lingers.**  Between two drafts that the
    service took a new one was started, or else the save of the first ended with the
    fault of its reload, no list came and no message was asked for since, and the
    second is the first with the edits made between.  The drafts were taken and the
    lists came as the service answered.  A save that ended so leaves the draft on the
    screen, and another one posts it once more. -/
theorem taken_again_only_lingering (service : Service σ) (store : σ) (actions : List Action) :
    let r := (Run.new store).acts service actions
    service.AnswersAll store r.asked r.session.store
      ∧ (∀ before d saved between d' saved' after,
        r.history = before ++ .happened (.posted d (.ok saved))
            :: (between ++ .happened (.posted d' (.ok saved')) :: after) →
          (∃ x ∈ between, x.startsDraft = true) ∨ Lingers d between d')
      ∧ ∀ d saved fault store' store'', r.session.snapshot.pane = .compose d →
        service.create d r.session.store = (.ok saved, store') →
        service.list store' = (.error fault, store'') →
        ∃ later, ((r.act service .saveDraft).act service .saveDraft).history
          = (r.act service .saveDraft).history ++ .began .saveDraft
            :: .happened (.posted d (service.create d store'').1) :: later := by
  intro r
  have ht : Taken r.history r.session.snapshot :=
    Run.acts_invariant (P := fun r => Taken r.history r.session.snapshot)
      Taken.new (fun _ _ _ ht c => ht.course c) actions
  refine ⟨Run.asked_answered service store actions, ?_, ?_⟩
  · intro before d saved between d' saved' after heq
    exact ht.again before _ d between _ d' after heq rfl rfl
  · intro d saved fault store' store'' shown posting listing
    exact posted_once_more shown posting listing

/-- A collection that takes drafts and cannot be listed. -/
def Memory.unlisted : Memory where
  failures := fun o => if o = .list then some (.timeout (.ofSecs 30)) else none
  clock := 0

/-- A draft is written. -/
def Action.writing : List Action := [.startDraft, .editDraft fun d => d.withText "a"]

/-- The draft that is written. -/
def Message.written : Message := { text := some "a" }

/-- A draft that is saved twice while the collection cannot be listed lingers between
    the two, and saving posts it once more. -/
theorem taken_again_only_lingering_unlisted :
    (∃ between, Lingers .written between .written ∧ between.length = 4)
      ∧ ∃ saved later, ((((Run.new .unlisted).acts Memory.service Action.writing).act
            Memory.service .saveDraft).act Memory.service .saveDraft).history
          = (((Run.new .unlisted).acts Memory.service Action.writing).act
              Memory.service .saveDraft).history ++ .began .saveDraft
            :: .happened (.posted .written (.ok saved)) :: later := by
  obtain ⟨-, hsaved, -⟩ := taken_again_only_lingering Memory.service .unlisted
    (Action.writing ++ [.saveDraft, .saveDraft])
  obtain ⟨-, -, hwritten⟩ := taken_again_only_lingering Memory.service .unlisted Action.writing
  constructor
  · have hagain := hsaved [_, _, _, _, _, _, _] .written _ [_, _, _, _] .written _ [_, _, _] rfl
    rcases hagain with ⟨x, hx, hstart⟩ | hlingers
    · simp only [List.mem_cons, List.not_mem_nil, or_false] at hx
      rcases hx with rfl | rfl | rfl | rfl
      · exact nomatch hstart
      · exact nomatch hstart
      · exact nomatch hstart
      · exact nomatch hstart
    · exact ⟨_, hlingers, rfl⟩
  · obtain ⟨later, hlater⟩ := hwritten .written _ _ _ _ rfl rfl rfl
    exact ⟨_, later, hlater⟩

/-- **A draft is taken twice.**  The service takes a draft, the reload fails, the save
    ends with that fault, and the next save posts the same draft, which the service
    takes again; no new draft was started between. -/
theorem draft_taken_twice : ∃ before saved between saved' after,
    ((Run.new .unlisted).acts Memory.service
        (Action.writing ++ [.saveDraft, .saveDraft])).history
      = before ++ .happened (.posted .written (.ok saved))
        :: (between ++ .happened (.posted .written (.ok saved')) :: after)
      ∧ .ended (.error (.timeout (.ofSecs 30))) ∈ between
      ∧ ∀ x ∈ between, x.startsDraft = false := by
  refine ⟨[_, _, _, _, _, _, _], _, [_, _, _, _], _, [_, _, _], rfl, ?_, ?_⟩
  · exact .tail _ (.tail _ (.head _))
  · intro x hx
    simp only [List.mem_cons, List.not_mem_nil, or_false] at hx
    rcases hx with rfl | rfl | rfl | rfl
    · rfl
    · rfl
    · rfl
    · rfl

end Postbox
