import Mathlib.Data.List.Forall2
import Postbox.Proofs.Commanding
import Postbox.Proofs.Exchange
import Postbox.Proofs.Persisting

/-! # Confinement — what a run can change

    A run changes the files only where it writes its settings, and it sends requests only
    where it carries out a command on the collection.

    Files: directories are made only where there is nothing (`FileTree.Extends`), whether
    all of them can be made or not, and a file is written at one place.  So one place of a
    tree at most has another file behind a saving (`Settings.save_frame`).

    Requests: a call sends the one request that carries it, or none, and in the latter case
    it fails (`Remote.answer_sent`).  A conversation ends with the first call that fails, so
    what it sends are the requests of the calls asked, but for the last one perhaps
    (`Service.Converses.sent`). -/

namespace Postbox

/-! ## Files -/

namespace FileTree

/-- A tree with directories made: all that there was is there, and else there are
    directories. -/
structure Extends (t t' : FileTree) : Prop where
  current : t'.current = t.current
  nodes : ∀ place, t'.node? place = t.node? place ∨
    t.node? place = none ∧ t'.node? place = some .directory

namespace Extends

variable {t t' t'' : FileTree}

theorem refl (t : FileTree) : t.Extends t := ⟨rfl, fun _ => Or.inl rfl⟩

theorem trans (h : t.Extends t') (h' : t'.Extends t'') : t.Extends t'' where
  current := h'.current.trans h.current
  nodes := by
    intro place
    rcases h.nodes place with hsame | ⟨hnone, hmade⟩
    · rw [← hsame]
      exact h'.nodes place
    · rcases h'.nodes place with hsame' | ⟨hnone', -⟩
      · exact Or.inr ⟨hnone, hsame'.trans hmade⟩
      · exact nomatch hnone'.symm.trans hmade

/-- A directory that is made where there is nothing. -/
theorem put {place : Place} (hnone : t.node? place = none) :
    t.Extends (t.put place .directory) where
  current := rfl
  nodes := by
    have hroot : place ≠ [] := by
      rintro rfl
      exact nomatch hnone
    intro other
    by_cases hother : other = place
    · rw [hother]
      exact Or.inr ⟨hnone, node_put_self t _ hroot⟩
    · exact Or.inl (node_put_other t _ hother)

end Extends

variable {t t' : FileTree}

/-- Directories are made only where there is nothing, also if not all can be made. -/
theorem extends_of_making {place : Place} {names : List String} {result : Except FileProblem Unit}
    (h : t.Making place names result t') : t.Extends t' := by
  induction h with
  | done => exact .refl _
  | stopped => exact .refl _
  | made _ hnone _ ih => exact (Extends.put hnone).trans ih
  | there _ _ _ ih => exact ih

/-- **Making directories** leaves all that there is. -/
theorem makeDirectories_extends {p : Path} {result : Except FileProblem Unit}
    (h : t.makeDirectories p = (result, t')) : t.Extends t' :=
  extends_of_making (making_of_makeDirectories h)

/-- There is no file in an empty tree. -/
theorem node_empty (place : Place) (content : List UInt8) :
    ({} : FileTree).node? place ≠ some (.file content) := by
  intro h
  rw [node?] at h
  split at h
  · cases h
  · rw [show ({} : FileTree).nodes[place]? = none from Std.HashMap.getElem?_empty] at h
    cases h

end FileTree

/-- **Saving changes one file**: what is at a place stays, or a directory was made where
    there was nothing, or the settings have been saved and their path leads there. -/
theorem Settings.save_frame {s : Settings} {path : String} {t t' : FileTree}
    {result : Except SettingsProblem Unit} (h : s.save path t = (result, t'))
    (place : FileTree.Place) :
    t'.node? place = t.node? place ∨
      (t.node? place = none ∧ t'.node? place = some .directory) ∨
      (result = .ok () ∧ t'.place (.ofText path) = .ok place) := by
  have hsaving := save_outcome s path t
  rw [h] at hsaving
  cases hsaving with
  | invalid _ => exact Or.inl rfl
  | unwritten _ _ => exact Or.inl rfl
  | noDirectory _ _ making =>
      exact ((FileTree.makeDirectories_extends making).nodes place).imp_right Or.inl
  | noFile _ _ making _ =>
      exact ((FileTree.makeDirectories_extends making).nodes place).imp_right Or.inl
  | saved _ _ making writing =>
      have hnodes := (FileTree.makeDirectories_extends making).nodes place
      have hkeeps := FileTree.write_keeps writing
      obtain ⟨written, hplace, -, -, rfl⟩ := FileTree.write_eq_ok writing
      by_cases heq : place = written
      · rw [heq]
        exact Or.inr (Or.inr ⟨rfl, hkeeps.leads hplace⟩)
      · rw [FileTree.node_put_other _ _ heq]
        exact hnodes.imp_right Or.inl

/-! ## Requests -/

namespace Remote

variable {r : Remote} {l l' : Http.Link}

/-- A request that is not sent fails. -/
theorem call_sent_or_failed {α : Type} {method : Http.Method} {u : Url} {body : String}
    {broken : ReplyProblem} {read : List UInt8 → Option α} {x : Except Fault α}
    (h : r.call method u body broken read l = (x, l')) :
    l'.sent = l.sent ++ [.to method u r.headers body] ∨
      l'.sent = l.sent ∧ ∃ fault, x = .error fault := by
  cases hq : (Http.Request.to method u r.headers body).isSendable with
  | false =>
      rw [call_unsendable hq] at h
      obtain ⟨rfl, rfl⟩ := Prod.mk.inj h
      exact Or.inr ⟨rfl, _, rfl⟩
  | true =>
      rw [call] at h
      dsimp only at h
      rw [hq, Bool.not_true, if_neg Bool.false_ne_true, Http.Link.exchange] at h
      split at h
      · obtain ⟨-, rfl⟩ := Prod.mk.inj h
        exact Or.inl rfl
      · obtain ⟨rfl, rfl⟩ := Prod.mk.inj h
        exact Or.inr ⟨rfl, _, rfl⟩

/-- **A call sends the request that carries it, or fails.** -/
theorem answer_sent {e : Event} {call : Call} (h : r.service.Answers l e l')
    (told : e.call? = some call) :
    (∃ q, r.Carries call q ∧ l'.sent = l.sent ++ [q]) ∨
      l'.sent = l.sent ∧ ∃ fault, e.fault? = some fault := by
  cases h with
  | listed listing =>
      obtain rfl := Option.some.inj told
      rcases call_sent_or_failed listing with hsent | ⟨hsame, fault, rfl⟩
      · exact Or.inl ⟨_, rfl, hsent⟩
      · exact Or.inr ⟨hsame, fault, rfl⟩
  | @fetched _ id answer fetching =>
      obtain rfl := Option.some.inj told
      have hget : r.get id l = (answer, l') := fetching
      rw [get] at hget
      -- a message that has no address is not asked for
      cases hu : r.messageUrl id with
      | error e =>
          rw [hu] at hget
          obtain ⟨rfl, rfl⟩ := Prod.mk.inj hget
          exact Or.inr ⟨rfl, _, rfl⟩
      | ok u =>
          rw [hu] at hget
          rcases call_sent_or_failed hget with hsent | ⟨hsame, fault, rfl⟩
          · exact Or.inl ⟨_, ⟨u, hu, rfl⟩, hsent⟩
          · exact Or.inr ⟨hsame, fault, rfl⟩
  | @posted _ draft _ posting =>
      obtain rfl := Option.some.inj told
      have hcreate : r.create draft l = (_, l') := posting
      rw [create] at hcreate
      rcases call_sent_or_failed hcreate with hsent | ⟨hsame, fault, rfl⟩
      · exact Or.inl ⟨_, ⟨draft.write, rfl, draft.read_write⟩, hsent⟩
      · exact Or.inr ⟨hsame, fault, rfl⟩

end Remote

/-- **A conversation over HTTP sends what it asks**: a request for each call, in their order, and
    none for the last one only where it failed. -/
theorem Service.Converses.sent {r : Remote} {calls : List Call} {l l' : Http.Link}
    {es : List Event} (h : r.service.Converses calls l es l') : ∃ qs, l'.sent = l.sent ++ qs ∧
      List.Forall₂ r.Carries ((es.filterMap Event.call?).take qs.length) qs ∧
      es.length ≤ qs.length + 1 ∧
      (verdict es = .ok () → List.Forall₂ r.Carries (es.filterMap Event.call?) qs) := by
  induction h with
  | done => exact ⟨[], (List.append_nil _).symm, .nil, Nat.zero_le _, fun _ => .nil⟩
  | goesOn told answered fine _ ih =>
      obtain ⟨qs, hsent, hcarries, hlength, hall⟩ := ih
      rw [List.filterMap_cons_some told, verdict_good fine]
      rcases Remote.answer_sent answered told with ⟨q, hq, hfirst⟩ | ⟨-, fault, bad⟩
      · refine ⟨q :: qs, ?_, .cons hq hcarries, Nat.succ_le_succ hlength, ?_⟩
        · rw [hsent, hfirst, List.append_assoc]
          rfl
        · exact fun good => .cons hq (hall good)
      · exact nomatch fine.symm.trans bad
  | stops told answered bad =>
      rw [List.filterMap_cons_some told, verdict_bad bad]
      rcases Remote.answer_sent answered told with ⟨q, hq, hsent⟩ | ⟨hsame, -⟩
      · exact ⟨[q], hsent, .cons hq .nil, Nat.le_succ _, nofun⟩
      · exact ⟨[], hsame.trans (List.append_nil _).symm, .nil, Nat.le_refl _, nofun⟩

/-! ## The program -/

namespace Program

/-- What a run comes to and leaves: it is refused; it shows its settings or saves them; or it
    has a screen of the collection. -/
inductive Effect (c : CommandLine) (path : Option String) (w : World) :
    Except Failure (String × Settings) → World → Prop
  | refused {f : Failure} : Effect c path w (.error f) w
  | shown {result : Except Failure (String × Settings)}
      (command : c.command = some (.config false)) : Effect c path w result w
  | saved {s : Settings} {p : String} {saved : Except SettingsProblem Unit}
      {files : FileTree} (command : c.command = some (.config true)) (named : path = some p)
      (saving : s.save p w.files = (saved, files)) :
      Effect c path w ((saved.mapError fun e => .fault (.settings e)).map fun _ =>
        ("Configuration written to " ++ p ++ "\n", s))
        { w with files := files }
  | asked {s : Settings} {r : Remote} {text : Except Failure String} {events : List Event}
      {link : Http.Link} (command : ∀ write, c.command ≠ some (.config write))
      (held : settings c path w.files = .ok s) (remote : Remote.ofSettings s = .ok r)
      (shown : screen r.service (c.command.getD .list) w.link = (text, events, link)) :
      Effect c path w (text.map fun output => (output, s)) { w with link := link }

variable {c : CommandLine} {standardPath path : Option String} {s : Settings} {w w' : World}

/-- Settings are shown, or saved where there is a path for them. -/
theorem configure_effect {write : Bool} {result : Except Failure String}
    (hcommand : c.command = some (.config write))
    (h : configure s write path w = (result, w')) :
    Effect c path w (result.map fun output => (output, s)) w' := by
  unfold configure at h
  cases write with
  | false =>
      rw [if_neg Bool.false_ne_true] at h
      obtain ⟨-, rfl⟩ := Prod.mk.inj h
      exact .shown hcommand
  | true =>
      rw [if_pos rfl] at h
      cases path with
      | none =>
          obtain ⟨rfl, rfl⟩ := Prod.mk.inj h
          exact .refused
      | some p =>
          dsimp only at h
          cases hsave : s.save p w.files with
          | mk saved files =>
              rw [hsave] at h
              obtain ⟨rfl, rfl⟩ := Prod.mk.inj h
              cases saved with
              | ok _ => exact .saved hcommand rfl hsave
              | error e => exact .saved hcommand rfl hsave

/-- A command for the collection is refused without one, and else carried out on it. -/
theorem carryOut_eq {command : Command} (hcommand : ∀ write, command ≠ .config write)
    (s : Settings) (path : Option String) (w : World) :
    (∀ e, Remote.ofSettings s = .error e →
      carryOut s path command w = (.error (.fault (.settings e)), w)) ∧
    ∀ r, Remote.ofSettings s = .ok r → carryOut s path command w
      = ((screen r.service command w.link).1,
        { w with link := (screen r.service command w.link).2.2 }) := by
  constructor
  · intro e hremote
    unfold carryOut
    split
    · exact absurd rfl (hcommand _)
    · rw [hremote]
  · intro r hremote
    unfold carryOut
    split
    · exact absurd rfl (hcommand _)
    · rw [hremote]

/-- A command for the collection has the effect of that. -/
theorem carryOut_effect {result : Except Failure String}
    (hcommand : ∀ write, c.command ≠ some (.config write)) (held : settings c path w.files = .ok s)
    (h : carryOut s path (c.command.getD .list) w = (result, w')) :
    Effect c path w (result.map fun output => (output, s)) w' := by
  have hasked : ∀ write, c.command.getD .list ≠ .config write := by
    intro write heq
    cases hc : c.command with
    | none =>
        rw [hc] at heq
        cases heq
    | some command =>
        rw [hc] at heq
        exact hcommand write (hc.trans (congrArg some heq))
  obtain ⟨hrefused, hcarried⟩ := carryOut_eq hasked s path w
  -- settings that make no service are refused before anything is sent
  cases hremote : Remote.ofSettings s with
  | error e =>
      rw [hrefused e hremote] at h
      obtain ⟨rfl, rfl⟩ := Prod.mk.inj h
      exact .refused
  | ok r =>
      rw [hcarried r hremote] at h
      obtain ⟨rfl, rfl⟩ := Prod.mk.inj h
      exact .asked hcommand held hremote rfl

/-- **Every run has one of the listed effects.** -/
theorem run_effect {result : Except Failure (String × Settings)}
    (h : run c standardPath w = (result, w')) :
    Effect c (c.configPath? standardPath) w result w' := by
  rw [run] at h
  dsimp only at h
  cases hs : settings c (c.configPath? standardPath) w.files with
  | error f =>
      rw [hs] at h
      obtain ⟨rfl, rfl⟩ := Prod.mk.inj h
      exact .refused
  | ok s =>
      rw [hs] at h
      obtain ⟨rfl, rfl⟩ := Prod.mk.inj h
      by_cases hcommand : ∃ write, c.command = some (.config write)
      · obtain ⟨write, hcommand⟩ := hcommand
        rw [hcommand]
        exact configure_effect hcommand rfl
      · exact carryOut_effect (not_exists.mp hcommand) hs rfl

/-- **A run changes one file at most.**  What is at a place stays, unless the run is one that
    writes the settings: then directories are made, and if it succeeds their file is written. -/
theorem Effect.files {result : Except Failure (String × Settings)}
    (h : Effect c path w result w') (place : FileTree.Place) :
    w'.files.node? place = w.files.node? place ∨
      c.command = some (.config true) ∧
        ((w.files.node? place = none ∧ w'.files.node? place = some .directory) ∨
          (∃ a, result = .ok a) ∧
            ∃ p, path = some p ∧ w'.files.place (.ofText p) = .ok place) := by
  cases h with
  | refused => exact Or.inl rfl
  | shown _ => exact Or.inl rfl
  | asked _ _ _ _ => exact Or.inl rfl
  | @saved s p saved files command named saving =>
      rcases Settings.save_frame saving place with hsame | hmade | ⟨rfl, hplace⟩
      · exact Or.inl hsame
      · exact Or.inr ⟨command, Or.inl hmade⟩
      · exact Or.inr ⟨command, Or.inr ⟨⟨_, rfl⟩, p, named, hplace⟩⟩

/-- What a run sends: nothing, if its command is one for the settings or it is refused before
    anything is asked; or the requests of its conversation. -/
structure Sends (c : CommandLine) (path : Option String) (w : World) (asked : List Event)
    (qs : List Http.Request) (w' : World) : Prop where
  command : ∀ write, c.command ≠ some (.config write)
  remote : ∃ s r, settings c path w.files = .ok s ∧ Remote.ofSettings s = .ok r ∧
    r.service.Converses (c.command.getD .list).calls w.link asked w'.link ∧
    List.Forall₂ r.Carries ((asked.filterMap Event.call?).take qs.length) qs
  sent : w'.link.sent = w.link.sent ++ qs
  length : asked.length ≤ qs.length + 1

/-- **A run sends what its command asks, and nothing else.** -/
theorem Effect.link {result : Except Failure (String × Settings)}
    (h : Effect c path w result w') :
    w'.link = w.link ∧ ((∃ a, result = .ok a) → ∃ write, c.command = some (.config write)) ∨
      ∃ asked qs, Sends c path w asked qs w' ∧
        ((∃ a, result = .ok a) → qs.length = (c.command.getD .list).calls.length) := by
  cases h with
  | refused => exact Or.inl ⟨rfl, nofun⟩
  | shown command => exact Or.inl ⟨rfl, fun _ => ⟨_, command⟩⟩
  | saved command _ _ => exact Or.inl ⟨rfl, fun _ => ⟨_, command⟩⟩
  | @asked s r text events link command held remote shown =>
      obtain ⟨hconverses, -, hbad⟩ := screen_converses shown
      obtain ⟨qs, hsent, hcarries, hlength, hall⟩ := hconverses.sent
      refine Or.inr ⟨_, qs,
        ⟨command, ⟨s, r, held, remote, hconverses, hcarries⟩, hsent, hlength⟩, ?_⟩
      rintro ⟨a, ha⟩
      -- a run that succeeds has had no fault, so all calls were made and sent
      obtain ⟨output, rfl, -⟩ := map_eq_ok ha
      cases hverdict : verdict (events.filter Event.isCall) with
      | error fault => exact nomatch hbad fault hverdict
      | ok _ => rw [← hconverses.calls_eq hverdict, (hall hverdict).length_eq]

/-- Arguments that are not carried out leave all as it is, and tell nothing if they are wrong. -/
theorem report_refused {args : List String} {u : Usage}
    (hread : CommandLine.read args = .error u) (standardPath : Option String) (w : World) :
    (report args standardPath w).2 = w ∧
      ((report args standardPath w).1.exitCode ≠ 0 →
        (report args standardPath w).1.output = "") := by
  rw [report, hread]
  refine ⟨rfl, fun hfailed => ?_⟩
  cases u with
  | help => exact absurd rfl hfailed
  | version => exact absurd rfl hfailed
  | _ => rfl

/-- Arguments that are carried out leave what their run leaves, and the exit code tells whether
    it has succeeded; nothing is printed if it has not. -/
theorem report_carried_out {args : List String} (hread : CommandLine.read args = .ok c)
    {result : Except Failure (String × Settings)} (hrun : run c standardPath w = (result, w')) :
    (report args standardPath w).2 = w' ∧
      ((report args standardPath w).1.exitCode = 0 → ∃ a, result = .ok a) ∧
      ((∃ a, result = .ok a) → (report args standardPath w).1.exitCode = 0) ∧
      ((report args standardPath w).1.exitCode ≠ 0 →
        (report args standardPath w).1.output = "") := by
  rw [report, hread]
  dsimp only
  rw [hrun]
  cases result with
  | ok a => exact ⟨rfl, fun _ => ⟨a, rfl⟩, fun _ => rfl, fun hfailed => absurd rfl hfailed⟩
  | error f =>
      refine ⟨rfl, fun hexit => absurd hexit Nat.one_ne_zero, ?_, fun _ => rfl⟩
      rintro ⟨a, ha⟩
      cases ha

end Program

/-- **The effects of a run are confined**, for all arguments.  Nothing is printed if it fails.
    Arguments that are not carried out change nothing.  Files stay as they are, but for the
    file of the settings, and that only where `config --write` succeeds; all that can be new
    besides are directories on its way.  Nothing is sent for `config`; for every other command
    the requests carry the calls of the command in their order, up to the first that
    failed. -/
theorem effects_confined (args : List String) (standardPath : Option String)
    (w : Program.World) :
    let report := (Program.report args standardPath w).1
    let w' := (Program.report args standardPath w).2
    (report.exitCode ≠ 0 → report.output = "") ∧
    (∀ u, CommandLine.read args = .error u → w' = w) ∧
    ∀ c, CommandLine.read args = .ok c →
      (∀ place, w'.files.node? place = w.files.node? place ∨
        c.command = some (.config true) ∧
          ((w.files.node? place = none ∧ w'.files.node? place = some .directory) ∨
            report.exitCode = 0 ∧ ∃ path, c.configPath? standardPath = some path ∧
              w'.files.place (.ofText path) = .ok place)) ∧
      (∀ write, c.command = some (.config write) → w'.link = w.link) ∧
      (w'.link = w.link ∧
          (report.exitCode = 0 → ∃ write, c.command = some (.config write)) ∨
        ∃ asked qs, Program.Sends c (c.configPath? standardPath) w asked qs w' ∧
          (report.exitCode = 0 → qs.length = (c.command.getD .list).calls.length)) := by
  intro report w'
  -- arguments that are not understood are answered without a run
  cases hread : CommandLine.read args with
  | error u =>
      obtain ⟨hworld, hsilent⟩ := Program.report_refused hread standardPath w
      refine ⟨hsilent, fun _ _ => hworld, ?_⟩
      intro c hc
      cases hc
  | ok c =>
      obtain ⟨result, left, hrun⟩ : ∃ result left, Program.run c standardPath w = (result, left) :=
        ⟨_, _, rfl⟩
      obtain ⟨hworld, hran, hgood, hsilent⟩ := Program.report_carried_out hread hrun
      have heffect := Program.run_effect hrun
      rw [← hworld] at heffect
      refine ⟨hsilent, nofun, ?_⟩
      rintro _ ⟨⟩
      refine ⟨fun place => ?_, fun write hcommand => ?_, ?_⟩
      · rcases heffect.files place with hsame | ⟨hcommand, hmade | ⟨hok, hplace⟩⟩
        · exact Or.inl hsame
        · exact Or.inr ⟨hcommand, Or.inl hmade⟩
        · exact Or.inr ⟨hcommand, Or.inr ⟨hgood hok, hplace⟩⟩
      · rcases heffect.link with ⟨hlink, -⟩ | ⟨asked, qs, hsends, -⟩
        · exact hlink
        · exact absurd hcommand (hsends.command write)
      · rcases heffect.link with ⟨hlink, hwhich⟩ | ⟨asked, qs, hsends, hall⟩
        · exact Or.inl ⟨hlink, fun hexit => hwhich (hran hexit)⟩
        · exact Or.inr ⟨asked, qs, hsends, fun hexit => hall (hran hexit)⟩

/-- Settings that are written where there is no file yet: theirs is the only one then, and
    nothing is sent. -/
theorem effects_confined_first_file :
    let args := ["--base-url", "http://[::1]/", "config", "--write", "--config", "c.toml"]
    let w' := (Program.report args none {}).2
    (Program.report args none {}).1.exitCode = 0 ∧ w'.link.sent = [] ∧
      ∀ place content, w'.files.node? place = some (.file content) → place = ["c.toml"] := by
  intro args w'
  have hread : CommandLine.read args = .ok firstWriting := rfl
  obtain ⟨bytes, hran⟩ := Program.run_firstWriting
  have hreport := Program.report_of_run hread hran
  obtain ⟨-, -, hconfined⟩ := effects_confined args none {}
  obtain ⟨hfiles, hlink, -⟩ := hconfined _ hread
  refine ⟨by rw [hreport], ?_, fun place content hfile => ?_⟩
  · rw [show w'.link = {} from hlink true rfl]
  · rcases hfiles place with hsame | ⟨-, ⟨-, hmade⟩ | ⟨-, path, hpath, hplace⟩⟩
    · rw [hsame] at hfile
      exact nomatch (FileTree.node_empty place content) hfile
    · exact nomatch hmade.symm.trans hfile
    · obtain rfl := Option.some.inj hpath
      rw [hreport] at hplace
      exact (Except.ok.inj hplace).symm

end Postbox
