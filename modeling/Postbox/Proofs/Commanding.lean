import Postbox.Program
import Postbox.Proofs.Reporting

/-! # Commanding — a command does what it says

    A command is a list of actions over a new screen.  What actions ask of the service can
    be said beforehand (`Action.planned`), as long as none of them is refused
    (`Action.fitting`): it depends on the draft that is shown and on nothing else.  The
    service is asked in this order, up to the first call that fails (`Service.Converses`),
    and the actions end as the last answer says (`verdict`); if it is no fault, the pane is
    the one that shows it (`Event.pane?`).

    Each of these facts holds of one action, by its course, and from there of all actions,
    by induction (`Program.runAll_converses`, `Program.runAll_shown`).  A command's actions
    all fit, so none of its runs ends with a refusal (`command_carried_out`). -/

namespace Postbox

variable {σ : Type}

/-! ## Conversations -/

/-- The pane that shows the answer to a call. -/
def Event.pane? : Event → Option Pane
  | listed (.ok ms) => some (.inbox ms)
  | fetched id (.ok m) => some (.detail id (some m))
  | _ => none

/-- A service is asked some calls one after the other, up to the first that fails: the
    calls, the events that tell of them, and the states before and behind. -/
inductive Service.Converses (service : Service σ) : List Call → σ → List Event → σ → Prop
  | done {store : σ} : Converses service [] store [] store
  | goesOn {call : Call} {calls : List Call} {store store' store'' : σ} {e : Event}
      {es : List Event} (told : e.call? = some call) (answered : service.Answers store e store')
      (good : e.fault? = none) (rest : Converses service calls store' es store'') :
      Converses service (call :: calls) store (e :: es) store''
  | stops {call : Call} {calls : List Call} {store store' : σ} {e : Event} {fault : Fault}
      (told : e.call? = some call) (answered : service.Answers store e store')
      (bad : e.fault? = some fault) :
      Converses service (call :: calls) store [e] store'

/-- How actions end that have asked these calls: with the first fault, if there is one. -/
def verdict (asked : List Event) : Except Fault Unit :=
  match asked.findSome? Event.fault? with
  | none => .ok ()
  | some fault => .error fault

/-- Behind a call that was answered well the later ones decide. -/
theorem verdict_good {e : Event} (h : e.fault? = none) (es : List Event) :
    verdict (e :: es) = verdict es := by
  rw [verdict, List.findSome?_cons, h]
  rfl

/-- A call that was answered with a fault decides. -/
theorem verdict_bad {e : Event} {fault : Fault} (h : e.fault? = some fault) (es : List Event) :
    verdict (e :: es) = .error fault := by
  rw [verdict, List.findSome?_cons, h]

/-- Actions end well if and only if none of their calls failed. -/
theorem verdict_eq_ok {es : List Event} : verdict es = .ok () ↔ ∀ e ∈ es, e.fault? = none := by
  rw [verdict, ← List.findSome?_eq_none_iff]
  cases es.findSome? Event.fault? with
  | none => exact ⟨fun _ => rfl, fun _ => rfl⟩
  | some fault => exact ⟨nofun, nofun⟩

/-- Behind calls that were all answered well the later ones decide. -/
theorem verdict_append {es : List Event} (h : verdict es = .ok ()) (es' : List Event) :
    verdict (es ++ es') = verdict es' := by
  induction es with
  | nil => rfl
  | cons e es ih =>
      have hgood := verdict_eq_ok.mp h e List.mem_cons_self
      rw [verdict_good hgood] at h
      rw [List.cons_append, verdict_good hgood, ih h]

/-- Behind calls that were all answered well only the next one can have failed. -/
theorem eq_of_failed {before : List Event} (h : verdict before = .ok ()) {e e' : Event}
    (hmem : e' ∈ before ++ [e]) {fault : Fault} (bad : e'.fault? = some fault) : e' = e := by
  rcases List.mem_append.mp hmem with hbefore | hlast
  · exact nomatch (verdict_eq_ok.mp h e' hbefore).symm.trans bad
  · exact List.mem_singleton.mp hlast

namespace Service.Converses

variable {service : Service σ} {calls : List Call} {store store' : σ} {es : List Event}

/-- A conversation that went well can be continued. -/
theorem append (h : service.Converses calls store es store') (good : verdict es = .ok ())
    {calls' : List Call} {es' : List Event} {store'' : σ}
    (h' : service.Converses calls' store' es' store'') :
    service.Converses (calls ++ calls') store (es ++ es') store'' := by
  induction h with
  | done => exact h'
  | goesOn told answered fine _ ih =>
      rw [verdict_good fine] at good
      exact .goesOn told answered fine (ih good h')
  | stops _ _ bad => exact nomatch (verdict_bad bad []).symm.trans good

/-- A conversation that has failed stays as it is, whatever was to come. -/
theorem append_failed (h : service.Converses calls store es store') {fault : Fault}
    (failed : verdict es = .error fault) (calls' : List Call) :
    service.Converses (calls ++ calls') store es store' := by
  induction h with
  | done => exact nomatch failed
  | goesOn told answered fine _ ih =>
      rw [verdict_good fine] at failed
      exact .goesOn told answered fine (ih failed)
  | stops told answered bad => exact .stops told answered bad

/-- The calls of a conversation are the first of those that were meant. -/
theorem calls_isPrefix (h : service.Converses calls store es store') :
    es.filterMap Event.call? <+: calls := by
  induction h with
  | done => exact List.nil_prefix
  | goesOn told _ _ _ ih =>
      rw [List.filterMap_cons_some told]
      exact (List.prefix_cons_inj _).mpr ih
  | stops told _ _ =>
      rw [List.filterMap_cons_some told]
      exact (List.prefix_cons_inj _).mpr List.nil_prefix

/-- A conversation that went well has all calls. -/
theorem calls_eq (h : service.Converses calls store es store') (good : verdict es = .ok ()) :
    es.filterMap Event.call? = calls := by
  induction h with
  | done => rfl
  | goesOn told _ fine _ ih =>
      rw [verdict_good fine] at good
      rw [List.filterMap_cons_some told, ih good]
  | stops _ _ bad => exact nomatch (verdict_bad bad []).symm.trans good

/-- A conversation that has failed ends with the first call that did. -/
theorem failed (h : service.Converses calls store es store') {fault : Fault}
    (failed : verdict es = .error fault) : ∃ before e, es = before ++ [e] ∧
      e.fault? = some fault ∧ verdict before = .ok () := by
  induction h with
  | done => exact nomatch failed
  | @goesOn _ _ _ _ _ e es _ _ fine _ ih =>
      rw [verdict_good fine] at failed
      obtain ⟨before, last, rfl, hlast, hbefore⟩ := ih failed
      exact ⟨e :: before, last, rfl, hlast, (verdict_good fine before).trans hbefore⟩
  | @stops _ _ _ _ e _ _ _ bad =>
      rw [verdict_bad bad] at failed
      exact ⟨[], e, rfl, bad.trans (congrArg some (Except.error.inj failed)), rfl⟩

end Service.Converses

/-! ## One action -/

namespace Action

/-- The calls of an action that fits, if all go well. -/
def plan (draft : Option Message) : Action → List Call
  | showInbox => [.list]
  | showId id => [.get id]
  | showMessage m => (m.id.map Call.get).toList
  | startDraft | editDraft _ => []
  | saveDraft => (draft.map fun d => [.create d, .list]).getD []

/-- Whether an action is not refused. -/
def fits (draft : Option Message) : Action → Bool
  | showInbox | showId _ | startDraft => true
  | showMessage m => m.id.isSome
  | editDraft _ | saveDraft => draft.isSome

/-- The draft that is shown when an action is completed. -/
def draftAfter (draft : Option Message) : Action → Option Message
  | startDraft => some .empty
  | editDraft f => draft.map f
  | _ => none

/-- Whether an action asks the service, if it fits. -/
def asks : Action → Bool
  | startDraft | editDraft _ => false
  | _ => true

end Action

namespace Course

variable {service : Service σ} {store : σ} {s : Snapshot} {a : Action} {o : Outcome σ}

/-- **An action that fits has the conversation it means to have**, and ends as the last
    answer says. -/
theorem converses (c : Course service store s a o) (fits : a.fits s.pane.draft? = true) :
    service.Converses (a.plan s.pane.draft?) store (o.events.filter Event.isCall) o.store ∧
      o.result = verdict (o.events.filter Event.isCall) := by
  -- a course shows the calls it made; a refusal is none of an action that fits
  cases c with
  | inboxShown listing => exact ⟨.goesOn rfl (.listed listing) rfl .done, rfl⟩
  | inboxFailed listing => exact ⟨.stops rfl (.listed listing) rfl, rfl⟩
  | detailShown target fetching =>
      rcases target with rfl | ⟨m₀, rfl, hid⟩
      · exact ⟨.goesOn rfl (.fetched fetching) rfl .done, rfl⟩
      · rw [Action.plan, hid]
        exact ⟨.goesOn rfl (.fetched fetching) rfl .done, rfl⟩
  | detailFailed target fetching =>
      rcases target with rfl | ⟨m₀, rfl, hid⟩
      · exact ⟨.stops rfl (.fetched fetching) rfl, rfl⟩
      · rw [Action.plan, hid]
        exact ⟨.stops rfl (.fetched fetching) rfl, rfl⟩
  | idMissing missing =>
      rw [Action.fits, missing] at fits
      exact nomatch fits
  | draftStarted => exact ⟨.done, rfl⟩
  | draftEdited _ => exact ⟨.done, rfl⟩
  | editRefused hidden =>
      rw [Action.fits, hidden] at fits
      exact nomatch fits
  | saveRefused hidden =>
      rw [Action.fits, hidden] at fits
      exact nomatch fits
  | saveFailed shown posting =>
      rw [shown]
      exact ⟨.stops rfl (.posted posting) rfl, rfl⟩
  | savedAndShown shown posting listing =>
      rw [shown]
      exact ⟨.goesOn rfl (.posted posting) rfl (.goesOn rfl (.listed listing) rfl .done), rfl⟩
  | savedNotShown shown posting listing =>
      rw [shown]
      exact ⟨.goesOn rfl (.posted posting) rfl (.stops rfl (.listed listing) rfl), rfl⟩

/-- A completed action leaves the draft it is expected to leave, and if it asks the service,
    the pane that shows the last answer. -/
theorem shown (c : Course service store s a o) (hok : o.result = .ok ()) :
    o.snapshot.pane.draft? = a.draftAfter s.pane.draft? ∧
      (a.asks = true → ∃ e, (o.events.filter Event.isCall).getLast? = some e ∧
        e.pane? = some o.snapshot.pane) := by
  cases c with
  | inboxShown _ => exact ⟨rfl, fun _ => ⟨_, rfl, rfl⟩⟩
  | detailShown target _ =>
      rcases target with rfl | ⟨m₀, rfl, -⟩
      · exact ⟨rfl, fun _ => ⟨_, rfl, rfl⟩⟩
      · exact ⟨rfl, fun _ => ⟨_, rfl, rfl⟩⟩
  | draftStarted => exact ⟨rfl, nofun⟩
  | draftEdited shown =>
      rw [shown]
      exact ⟨rfl, nofun⟩
  | savedAndShown _ _ _ => exact ⟨rfl, fun _ => ⟨_, rfl, rfl⟩⟩
  | inboxFailed _ => exact nomatch hok
  | detailFailed _ _ => exact nomatch hok
  | idMissing _ => exact nomatch hok
  | editRefused _ => exact nomatch hok
  | saveRefused _ => exact nomatch hok
  | saveFailed _ _ => exact nomatch hok
  | savedNotShown _ _ _ => exact nomatch hok

end Course

/-! ## All actions -/

namespace Action

/-- The calls of actions that fit, one action after the other. -/
def planned : Option Message → List Action → List Call
  | _, [] => []
  | draft, a :: as => a.plan draft ++ planned (a.draftAfter draft) as

/-- Whether none of the actions is refused, if all before it are completed. -/
def fitting : Option Message → List Action → Bool
  | _, [] => true
  | draft, a :: as => a.fits draft && fitting (a.draftAfter draft) as

end Action

namespace Program

variable (service : Service σ)

/-- Behind an action that is completed the others follow. -/
theorem runAll_cons_ok {a : Action} {store : σ} {s : Snapshot}
    (h : (a.run service store s).result = .ok ()) (as : List Action) :
    let o := a.run service store s
    let later := runAll service as o.store o.snapshot
    runAll service (a :: as) store s = { later with events := o.events ++ later.events } := by
  rw [runAll]
  dsimp only
  rw [h]

/-- Behind an action that fails there is none. -/
theorem runAll_cons_error {a : Action} {store : σ} {s : Snapshot} {fault : Fault}
    (h : (a.run service store s).result = .error fault) (as : List Action) :
    runAll service (a :: as) store s = a.run service store s := by
  rw [runAll]
  dsimp only
  rw [h]

/-- **Actions that fit have the conversation that was planned**, and end as the last answer
    says. -/
theorem runAll_converses (as : List Action) (store : σ) (s : Snapshot)
    (fits : Action.fitting s.pane.draft? as = true) :
    let o := runAll service as store s
    service.Converses (Action.planned s.pane.draft? as) store (o.events.filter Event.isCall)
      o.store ∧ o.result = verdict (o.events.filter Event.isCall) := by
  induction as generalizing store s with
  | nil => exact ⟨.done, rfl⟩
  | cons a as ih =>
      obtain ⟨hfirst, hlater⟩ := Bool.and_eq_true_iff.mp fits
      have c := Action.course_run service a store s
      obtain ⟨hasked, hresult⟩ := c.converses hfirst
      cases hend : (a.run service store s).result with
      | error fault =>
          rw [runAll_cons_error service hend]
          exact ⟨hasked.append_failed (hresult.symm.trans hend) _, hresult⟩
      | ok _ =>
          have hgood := hresult.symm.trans hend
          rw [← (c.shown hend).1] at hlater
          obtain ⟨hasked', hresult'⟩ := ih _ _ hlater
          rw [runAll_cons_ok service hend, Action.planned, ← (c.shown hend).1]
          dsimp only
          rw [List.filter_append, verdict_append hgood]
          exact ⟨hasked.append hgood hasked', hresult'⟩

/-- **Actions that are all completed show what the last one asked for**, and no fault. -/
theorem runAll_shown (as : List Action) (store : σ) (s : Snapshot) (clear : s.lastError = none) :
    let o := runAll service as store s
    o.result = .ok () → o.snapshot.lastError = none ∧
      ∀ a, as.getLast? = some a → a.asks = true →
        ∃ e, (o.events.filter Event.isCall).getLast? = some e ∧
          e.pane? = some o.snapshot.pane := by
  induction as generalizing store s with
  | nil => exact fun _ => ⟨clear, nofun⟩
  | cons a as ih =>
      have c := Action.course_run service a store s
      cases hend : (a.run service store s).result with
      | error fault =>
          rw [runAll_cons_error service hend]
          intro o hok
          exact nomatch hend.symm.trans hok
      | ok _ =>
          have hclear : (a.run service store s).snapshot.lastError = none := by
            rw [(c.completed hend).2, clear, ite_self]
          rw [runAll_cons_ok service hend]
          dsimp only
          intro hok
          obtain ⟨herror, hlast⟩ := ih _ _ hclear hok
          refine ⟨herror, fun b hb hasks => ?_⟩
          rw [List.filter_append, List.getLast?_append]
          -- the last action is this one, or the last of the others
          cases as with
          | nil =>
              obtain rfl := Option.some.inj hb
              exact (c.shown hend).2 hasks
          | cons a' as =>
              obtain ⟨e, he, hpane⟩ := hlast b (List.getLast?_cons_cons.symm.trans hb) hasks
              exact ⟨e, by rw [he, Option.some_or], hpane⟩

end Program

/-! ## Commands -/

/-- The calls of a command, if all go well.  Nothing else of a draft is set than what the
    command says. -/
def Command.calls : Command → List Call
  | .list | .config _ => [.list]
  | .show id => [.list, .get (.ofText id)]
  | .compose text summary => [.list, .create { text := some text, summary := summary }, .list]

/-- How a command ends if all its calls went well: with the inbox as it was listed last, or with
    the message that was asked for.  What a command is to do with the settings is not done
    here. -/
def Command.EndsWell (asked : List Event) (result : Except Failure String) : Command → Prop
  | .list | .compose _ _ => ∃ ms, asked.getLast? = some (.listed (.ok ms)) ∧
      result = .ok (Pane.inbox ms).render
  | .show id => ∃ m, asked.getLast? = some (.fetched (.ofText id) (.ok m)) ∧
      result = .ok (Pane.detail (.ofText id) (some m)).render
  | .config _ => result = .error .needsNoService

/-- A command that ends well has a screen, unless it is one for the settings. -/
theorem Command.EndsWell.screen {command : Command} {asked : List Event}
    {result : Except Failure String} (h : command.EndsWell asked result) :
    ((∃ text, result = .ok text) ∧ ∀ write, command ≠ .config write) ∨
      result = .error .needsNoService ∧ ∃ write, command = .config write := by
  cases command with
  | list =>
      obtain ⟨ms, -, hresult⟩ := h
      exact Or.inl ⟨⟨_, hresult⟩, nofun⟩
  | «show» id =>
      obtain ⟨m, -, hresult⟩ := h
      exact Or.inl ⟨⟨_, hresult⟩, nofun⟩
  | compose text summary =>
      obtain ⟨ms, -, hresult⟩ := h
      exact Or.inl ⟨⟨_, hresult⟩, nofun⟩
  | config write => exact Or.inr ⟨h, write, rfl⟩

namespace Program

variable {service : Service σ} {command : Command} {store : σ}

/-- The actions of a command fit, the last of them asks the service, and the calls that they
    plan are the command's. -/
theorem actions_planned {as : List Action} (h : actions command = some as) :
    Action.planned none (.showInbox :: as) = command.calls ∧
      Action.fitting none (.showInbox :: as) = true ∧
      ∃ a, (Action.showInbox :: as).getLast? = some a ∧ a.asks = true := by
  cases command with
  | list =>
      obtain rfl := Option.some.inj h
      exact ⟨rfl, rfl, _, rfl, rfl⟩
  | «show» id =>
      obtain rfl := Option.some.inj h
      exact ⟨rfl, rfl, _, rfl, rfl⟩
  | compose text summary =>
      obtain rfl := Option.some.inj h
      exact ⟨rfl, rfl, _, rfl, rfl⟩
  | config write => exact nomatch h

/-- A first list that fails is the end of every command. -/
theorem screen_unlisted {fault : Fault} {store' : σ}
    (listing : service.list store = (.error fault, store')) :
    screen service command store = (.error (.loading "inbox" fault),
      [.listed (.error fault), .published (Snapshot.withFault fault {}).bump], store') := by
  rw [screen, ← (Course.inboxFailed (s := {}) listing).eq_run]

/-- Behind a first list that is answered a command goes on with its actions, if it has any. -/
theorem screen_listed {ms : List Message} {store' : σ}
    (listing : service.list store = (.ok ms, store')) : screen service command store
      = match actions command with
        | none => (.error .needsNoService,
            [.listed (.ok ms), .published (Snapshot.withInbox ms {}).bump], store')
        | some as =>
          let o := runAll service (.showInbox :: as) store {}
          ((o.result.mapError .fault).map fun _ => o.snapshot.render, o.events, o.store) := by
  have hrun := (Course.inboxShown (s := {}) listing).eq_run
  have hok : (Action.showInbox.run service store {}).result = .ok () := by rw [← hrun]
  rw [screen, ← hrun]
  cases actions command with
  | none => rfl
  | some as =>
      dsimp only
      rw [runAll_cons_ok service hok, ← hrun]

/-- Actions that begin with a list that is answered have it as their first call. -/
theorem runAll_listed {ms : List Message} {store' : σ}
    (listing : service.list store = (.ok ms, store')) (as : List Action) : ∃ later,
      (runAll service (.showInbox :: as) store {}).events.filter Event.isCall
        = .listed (.ok ms) :: later := by
  have hrun := (Course.inboxShown (s := {}) listing).eq_run
  have hok : (Action.showInbox.run service store {}).result = .ok () := by rw [← hrun]
  rw [runAll_cons_ok service hok, ← hrun]
  exact ⟨_, rfl⟩

/-- Without a fault the screen is its pane. -/
theorem render_clear {s : Snapshot} (h : s.lastError = none) : s.render = s.pane.render := by
  rw [Snapshot.render, h]
  exact String.append_empty

/-- **A command has the conversation that it says**, and its end is that of the conversation:
    the pane that shows the last answer, or the first fault. -/
theorem screen_converses {result : Except Failure String} {events : List Event} {store' : σ}
    (h : screen service command store = (result, events, store')) :
    let asked := events.filter Event.isCall
    service.Converses command.calls store asked store' ∧
    (verdict asked = .ok () →
      match actions command with
      | none => result = .error .needsNoService
      | some _ => ∃ e p, asked.getLast? = some e ∧ e.pane? = some p ∧ result = .ok p.render) ∧
    ∀ fault, verdict asked = .error fault →
      result = .error (if asked.length = 1 then .loading "inbox" fault else .fault fault) := by
  cases hlist : service.list store with
  | mk answer listed =>
      cases answer with
      | error fault =>
          obtain ⟨rfl, rfl, rfl⟩ := (screen_unlisted hlist).symm.trans h
          refine ⟨?_, nofun, fun f hf => ?_⟩
          · cases command with
            | _ => exact .stops rfl (.listed hlist) rfl
          · rw [← Except.error.inj hf]
            rfl
      | ok ms =>
          rw [screen_listed hlist] at h
          cases hactions : actions command with
          | none =>
              rw [hactions] at h
              obtain ⟨rfl, rfl, rfl⟩ := h
              refine ⟨?_, fun _ => rfl, nofun⟩
              cases command with
              | config write => exact .goesOn rfl (.listed hlist) rfl .done
              | _ => exact nomatch hactions
          | some as =>
              rw [hactions] at h
              obtain ⟨rfl, rfl, rfl⟩ := h
              obtain ⟨hplan, hfits, a, hlast, hasks⟩ := actions_planned hactions
              obtain ⟨hasked, hresult⟩ :=
                runAll_converses service (.showInbox :: as) store {} hfits
              have hshown := runAll_shown service (.showInbox :: as) store {} rfl
              rw [← hplan]
              refine ⟨hasked, fun hgood => ?_, fun fault hbad => ?_⟩
              · obtain ⟨hclear, hpane⟩ := hshown (hresult.trans hgood)
                obtain ⟨e, he, hpane⟩ := hpane a hlast hasks
                refine ⟨e, _, he, hpane, ?_⟩
                rw [hresult, hgood, ← render_clear hclear]
                rfl
              · -- the call that failed is not the first one
                obtain ⟨later, hlater⟩ := runAll_listed hlist as
                rw [hresult, hbad, hlater, List.length_cons]
                rw [hlater, verdict_good rfl] at hbad
                cases later with
                | nil => exact nomatch hbad
                | cons e es => rfl

end Program

namespace Event

/-- The answer to a call for the list, if it is no fault, is shown as the inbox. -/
theorem inbox_of_pane {e : Event} {p : Pane} (hcall : e.call? = some .list)
    (hpane : e.pane? = some p) : ∃ ms, e = .listed (.ok ms) ∧ p = .inbox ms := by
  cases e with
  | listed answer =>
      cases answer with
      | ok ms => exact ⟨ms, rfl, (Option.some.inj hpane).symm⟩
      | error fault => exact nomatch hpane
  | fetched id answer => exact nomatch hcall
  | posted draft answer => exact nomatch hcall
  | published s => exact nomatch hcall

/-- The answer to a call for a message, if it is no fault, is shown as the message. -/
theorem detail_of_pane {e : Event} {p : Pane} {id : MessageId} (hcall : e.call? = some (.get id))
    (hpane : e.pane? = some p) : ∃ m, e = .fetched id (.ok m) ∧ p = .detail id (some m) := by
  cases e with
  | fetched id' answer =>
      obtain rfl := Call.get.inj (Option.some.inj hcall)
      cases answer with
      | ok m => exact ⟨m, rfl, (Option.some.inj hpane).symm⟩
      | error fault => exact nomatch hpane
  | listed answer => exact nomatch hcall
  | posted draft answer => exact nomatch hcall
  | published s => exact nomatch hcall

/-- An answer that is shown belongs to a call, the last one if it is the last event. -/
theorem call_of_pane {es : List Event} {e : Event} {p : Pane} (hlast : es.getLast? = some e)
    (hpane : e.pane? = some p) : (es.filterMap Event.call?).getLast? = e.call? := by
  obtain ⟨before, rfl⟩ := List.getLast?_eq_some_iff.mp hlast
  rw [List.filterMap_append]
  cases e with
  | listed answer => exact List.getLast?_concat
  | fetched id answer => exact List.getLast?_concat
  | posted draft answer => exact List.getLast?_concat
  | published s => exact nomatch hpane

end Event

namespace Program

variable {service : Service σ} {command : Command} {store store' : σ}
  {result : Except Failure String} {events : List Event}

/-- **A command whose calls all went well** has made all of them, and ends well. -/
theorem screen_good (h : screen service command store = (result, events, store'))
    (good : verdict (events.filter Event.isCall) = .ok ()) :
    (events.filter Event.isCall).filterMap Event.call? = command.calls ∧
      command.EndsWell (events.filter Event.isCall) result := by
  obtain ⟨hasked, hgood, -⟩ := screen_converses h
  have hcalls := hasked.calls_eq good
  refine ⟨hcalls, ?_⟩
  -- all calls were made, so the last of them is known, and the pane shows its answer
  cases command with
  | list =>
      obtain ⟨e, p, hlast, hpane, hresult⟩ := hgood good
      have hcall := Event.call_of_pane hlast hpane
      rw [hcalls] at hcall
      obtain ⟨ms, rfl, rfl⟩ := Event.inbox_of_pane hcall.symm hpane
      exact ⟨ms, hlast, hresult⟩
  | «show» id =>
      obtain ⟨e, p, hlast, hpane, hresult⟩ := hgood good
      have hcall := Event.call_of_pane hlast hpane
      rw [hcalls] at hcall
      obtain ⟨m, rfl, rfl⟩ := Event.detail_of_pane hcall.symm hpane
      exact ⟨m, hlast, hresult⟩
  | compose text summary =>
      obtain ⟨e, p, hlast, hpane, hresult⟩ := hgood good
      have hcall := Event.call_of_pane hlast hpane
      rw [hcalls] at hcall
      obtain ⟨ms, rfl, rfl⟩ := Event.inbox_of_pane hcall.symm hpane
      exact ⟨ms, hlast, hresult⟩
  | config write => exact hgood good

/-- **A command with a call that failed** has made none behind it, and ends with its fault. -/
theorem screen_bad (h : screen service command store = (result, events, store')) {fault : Fault}
    (bad : verdict (events.filter Event.isCall) = .error fault) :
    ∃ before e, events.filter Event.isCall = before ++ [e] ∧ e.fault? = some fault ∧
      verdict before = .ok () ∧
      result = .error (if before = [] then .loading "inbox" fault else .fault fault) := by
  obtain ⟨hasked, -, hbad⟩ := screen_converses h
  obtain ⟨before, e, heq, hfault, hbefore⟩ := hasked.failed bad
  refine ⟨before, e, heq, hfault, hbefore, ?_⟩
  rw [hbad fault bad, heq]
  cases before with
  | nil => rfl
  | cons e' before => rw [if_neg (by simp), if_neg (by simp)]

/-- The fault that a command ends with, as one of loading the inbox or not. -/
theorem fault_of_screen {first : Prop} [Decidable first] {fault f : Fault}
    (h : (.error (if first then .loading "inbox" fault else .fault fault) : Except Failure String)
        = .error (.fault f) ∨
      ∃ what, (.error (if first then .loading "inbox" fault else .fault fault) :
        Except Failure String) = .error (.loading what f)) : fault = f := by
  rcases h with h | ⟨what, h⟩
  · split at h
    · exact nomatch h
    · exact Failure.fault.inj (Except.error.inj h)
  · split at h
    · exact (Failure.loading.inj (Except.error.inj h)).2
    · exact nomatch h

end Program

/-- **A command does what it says**, over any service.  It asks the service for its calls in
    their order, and stops behind the first that fails.  It succeeds if and only if it is one
    for the service and no call failed; all calls have been made then, and the screen is the
    inbox as it was listed last, or the message that was asked for.  Else it ends with the
    fault of the call that failed, which is told as one of loading the inbox if and only if
    there was no call before it.  No fault is the screen's own, so there is no refusal. -/
theorem command_carried_out (service : Service σ) (command : Command) (store : σ) :
    let ended := Program.screen service command store
    let asked := ended.2.1.filter Event.isCall
    (service.Converses command.calls store asked ended.2.2 ∧
      asked.filterMap Event.call? <+: command.calls) ∧
    ((∃ text, ended.1 = .ok text) ↔
      (∀ write, command ≠ .config write) ∧ ∀ e ∈ asked, e.fault? = none) ∧
    ((∀ e ∈ asked, e.fault? = none) →
      asked.filterMap Event.call? = command.calls ∧ command.EndsWell asked ended.1) ∧
    (∀ e ∈ asked, ∀ fault, e.fault? = some fault → ∃ before, asked = before ++ [e] ∧
      (∀ e' ∈ before, e'.fault? = none) ∧
      ended.1 = .error (if before = [] then .loading "inbox" fault else .fault fault)) ∧
    ∀ fault, (ended.1 = .error (.fault fault) ∨ ∃ what, ended.1 = .error (.loading what fault)) →
      ∃ e ∈ asked, e.fault? = some fault := by
  intro ended asked
  have hended : Program.screen service command store = (ended.1, ended.2.1, ended.2.2) := rfl
  have hasked := (Program.screen_converses hended).1
  refine ⟨⟨hasked, hasked.calls_isPrefix⟩, ?_⟩
  -- no call failed, or the last one did and none before it
  cases hverdict : verdict asked with
  | ok _ =>
      have hgood := verdict_eq_ok.mp hverdict
      have hend := Program.screen_good hended hverdict
      refine ⟨?_, fun _ => hend, ?_, ?_⟩
      · rcases hend.2.screen with ⟨htext, hservice⟩ | ⟨hresult, write, rfl⟩
        · exact ⟨fun _ => ⟨hservice, hgood⟩, fun _ => htext⟩
        · rw [hresult]
          exact ⟨nofun, fun h => absurd rfl (h.1 write)⟩
      · intro e he fault hfault
        exact nomatch (hgood e he).symm.trans hfault
      · rcases hend.2.screen with ⟨⟨text, hresult⟩, -⟩ | ⟨hresult, -⟩
        · rw [hresult]
          exact nofun
        · rw [hresult]
          exact nofun
  | error fault =>
      obtain ⟨before, e, heq, hfault, hbefore, hresult⟩ := Program.screen_bad hended hverdict
      have hgood := verdict_eq_ok.mp hbefore
      have hlast : e ∈ asked := by
        show e ∈ ended.2.1.filter Event.isCall
        rw [heq]
        exact List.mem_append_right before (List.mem_singleton_self e)
      rw [hresult]
      refine ⟨⟨nofun, fun h => ?_⟩, fun h => ?_, fun e' he' fault' hfault' => ?_, fun f hf => ?_⟩
      · exact nomatch (h.2 e hlast).symm.trans hfault
      · exact nomatch (h e hlast).symm.trans hfault
      -- a call that failed is the last one
      · obtain rfl := eq_of_failed hbefore (heq ▸ he' : e' ∈ before ++ [e]) hfault'
        obtain rfl := Option.some.inj (hfault.symm.trans hfault')
        exact ⟨before, heq, hgood, rfl⟩
      · rw [Program.fault_of_screen hf] at hfault
        exact ⟨e, hlast, hfault⟩

/-- A draft that cannot be saved: the list is not asked for again, and the fault is that of the
    post. -/
theorem command_carried_out_unsaved :
    let m : Memory := { clock := 0, failures := fun o =>
      if o = .create then some (.network (.stated "down")) else none }
    let ended := Program.screen Memory.service (.compose "a" none) m
    ended.2.1.filterMap Event.call? = [.list, .create { text := some "a" }] ∧
      ended.1 = .error (.fault (.network (.stated "down"))) := by
  intro m ended
  obtain ⟨-, -, -, hbad, -⟩ := command_carried_out Memory.service (.compose "a" none) m
  obtain ⟨before, heq, -, hresult⟩ :=
    hbad (.posted { text := some "a" } (.error (.network (.stated "down")))) (.tail _ (.head _))
      (.network (.stated "down")) rfl
  refine ⟨rfl, hresult.trans ?_⟩
  cases before with
  | nil => exact nomatch congrArg List.length heq
  | cons e es => rfl

end Postbox
