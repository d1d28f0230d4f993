import Postbox.Proofs.Arguments
import Postbox.Proofs.Overriding

/-! # Persisting — settings that were written hold from then on

    The settings of a run that writes them are those of the file with the options laid over
    them.  Settings that come from a file always have a timeout (`Settings.load_timeout`), the
    only value that could get lost on the way through a file.  So they are loaded as they
    were written, and with the options already in the file, to lay them over it a second time
    changes nothing (`settings_again`).

    Hence any run that leads to the same file shows the same text from then on, if its options
    change nothing, and the run that wrote the settings can be made again. -/

namespace Postbox

namespace Settings

/-- Settings that were read have a timeout. -/
theorem ofToml_timeout {text : String} {s : Settings} (h : ofToml? text = some s) :
    s.timeoutSecs ≠ none := by
  obtain ⟨es, -, h⟩ := Option.bind_eq_some_iff.mp h
  obtain ⟨baseUrl, -, h⟩ := Option.bind_eq_some_iff.mp h
  obtain ⟨restPath, -, h⟩ := Option.bind_eq_some_iff.mp h
  obtain ⟨timeoutSecs, htimeout, h⟩ := Option.bind_eq_some_iff.mp h
  obtain ⟨userAgent, -, h⟩ := Option.bind_eq_some_iff.mp h
  obtain ⟨csrf, -, h⟩ := Option.bind_eq_some_iff.mp h
  obtain rfl := Option.some.inj h
  -- where there is no timeout the standard one is taken, which is one
  rw [valueOr] at htimeout
  split at htimeout
  · rw [← Option.some.inj htimeout]
    exact nofun
  · obtain ⟨n, -, hn⟩ := Option.map_eq_some_iff.mp htimeout
    rw [← hn]
    exact nofun

/-- **Settings that were loaded have a timeout.** -/
theorem load_timeout {path : String} {t : FileTree} {s : Settings} (h : load path t = .ok s) :
    s.timeoutSecs ≠ none := by
  cases hfound : t.exists? (.ofText path) with
  | false =>
      obtain rfl := Except.ok.inj ((load_absent hfound).symm.trans h)
      exact nofun
  | true =>
      obtain ⟨bytes, -, hheld⟩ := Option.bind_eq_some_iff.mp (inFile_of_load hfound h).1
      obtain ⟨text, -, hsettings⟩ := Option.bind_eq_some_iff.mp hheld
      exact ofToml_timeout hsettings

end Settings

namespace Program

variable {c : CommandLine} {standardPath : Option String} {path text : String} {s : Settings}
  {w w' : World}

/-- Settings that held in a run are loaded as they were saved. -/
theorem load_saved {files t t' : FileTree} (h : settings c (some path) files = .ok s)
    (hsave : s.save path t = (.ok (), t')) : Settings.load path t' = .ok s := by
  obtain ⟨f, hload, -, hs⟩ := settings_eq_ok.mp h
  have htimeout : s.timeoutSecs ≠ none := by
    rw [hs, CommandLine.override_eq]
    exact fun hnone => Settings.load_timeout hload (Option.or_eq_none_iff.mp hnone).2
  rw [Settings.load_of_save hsave, Settings.or_timeout htimeout]

/-- **Settings that were saved hold again**, in every run that leads to their file and whose
    options change nothing. -/
theorem settings_again {files t t' : FileTree} (h : settings c (some path) files = .ok s)
    (hsave : s.save path t = (.ok (), t')) {c' : CommandLine} (hidle : c'.override s = s) :
    settings c' (some path) t' = .ok s := by
  have hvalid := (Settings.save_eq_ok.mp hsave).1
  exact settings_eq_ok.mpr ⟨s, load_saved h hsave, by rw [hidle, hvalid], hidle.symm⟩

/-- A run for the settings shows or writes those that hold. -/
theorem run_config {write : Bool} {result : Except Failure String}
    (hcommand : c.command = some (.config write))
    (hs : settings c (c.configPath? standardPath) w.files = .ok s)
    (h : configure s write (c.configPath? standardPath) w = (result, w')) :
    run c standardPath w = (result.map fun output => (output, s), w') := by
  rw [run]
  dsimp only
  rw [hs, hcommand]
  show ((configure s write _ w).1.map _, (configure s write _ w).2) = _
  rw [h]

/-- A run that shows its settings leaves all as it is. -/
theorem run_show (hcommand : c.command = some (.config false))
    (hs : settings c (c.configPath? standardPath) w.files = .ok s) (htext : s.toToml = .ok text) :
    run c standardPath w = (.ok (text, s), w) := by
  have hshown : configure s false (c.configPath? standardPath) w = (.ok text, w) := by
    unfold configure
    rw [if_neg Bool.false_ne_true, htext]
    rfl
  exact run_config hcommand hs hshown

/-- Settings are written if there is a path to save them by. -/
theorem configure_write {path? : Option String} {output : String} :
    configure s true path? w = (.ok output, w') ↔
      ∃ path, path? = some path ∧ s.save path w.files = (.ok (), w'.files) ∧ w'.link = w.link ∧
        output = "Configuration written to " ++ path ++ "\n" := by
  unfold configure
  rw [if_pos rfl]
  constructor
  · intro h
    cases path? with
    | none => exact nomatch h
    | some path =>
        dsimp only at h
        cases hsave : s.save path w.files with
        | mk result files =>
            rw [hsave] at h
            cases result with
            | error e => exact nomatch h
            | ok _ =>
                obtain ⟨houtput, rfl⟩ := Prod.mk.inj h
                exact ⟨path, rfl, hsave, rfl, (Except.ok.inj houtput).symm⟩
  · rintro ⟨path, rfl, hsave, hlink, rfl⟩
    dsimp only
    rw [hsave, ← hlink]
    rfl

/-- What is needed for a run to write its settings, and what it leaves then. -/
theorem run_write (hcommand : c.command = some (.config true)) {output : String} :
    run c standardPath w = (.ok (output, s), w') ↔
      ∃ path, c.configPath? standardPath = some path ∧ settings c (some path) w.files = .ok s ∧
        s.save path w.files = (.ok (), w'.files) ∧ w'.link = w.link ∧
        output = "Configuration written to " ++ path ++ "\n" := by
  constructor
  · intro h
    -- without settings there is nothing to write, and the run has failed before
    cases hs : settings c (c.configPath? standardPath) w.files with
    | error f =>
        rw [run] at h
        dsimp only at h
        rw [hs] at h
        exact nomatch h
    | ok s' =>
        cases hwritten : configure s' true (c.configPath? standardPath) w with
        | mk result w₁ =>
            rw [run_config hcommand hs hwritten] at h
            obtain ⟨hresult, rfl⟩ := Prod.mk.inj h
            obtain ⟨_, rfl, heq⟩ := map_eq_ok hresult
            obtain ⟨rfl, rfl⟩ := Prod.mk.inj heq
            obtain ⟨path, hpath, hsave, hlink, houtput⟩ := configure_write.mp hwritten
            rw [hpath] at hs
            exact ⟨path, hpath, hs, hsave, hlink, houtput⟩
  · rintro ⟨path, hpath, hs, hsave, hlink, houtput⟩
    rw [← hpath] at hs
    exact run_config hcommand hs (configure_write.mpr ⟨path, hpath, hsave, hlink, houtput⟩)

/-- **A run that wrote its settings can be made again**, and leaves all files as they are. -/
theorem run_write_again (hcommand : c.command = some (.config true)) {output : String}
    (h : run c standardPath w = (.ok (output, s), w')) :
    ∃ w'', run c standardPath w' = (.ok (output, s), w'') ∧ w'.files.Same w''.files := by
  obtain ⟨path, hpath, hs, hsave, -, houtput⟩ := (run_write hcommand).mp h
  obtain ⟨f, -, -, hoverride⟩ := settings_eq_ok.mp hs
  have hidle : c.override s = s := by
    rw [hoverride, CommandLine.override_override]
  obtain ⟨files, hagain, hsame⟩ := Settings.save_again hsave
  exact ⟨{ w' with files := files }, (run_write hcommand).mpr
    ⟨path, hpath, settings_again hs hsave hidle, hagain, rfl, houtput⟩, hsame⟩

/-- A run that succeeds is reported by its output. -/
theorem report_of_run {args : List String} {output : String}
    (hread : CommandLine.read args = .ok c)
    (hrun : run c standardPath w = (.ok (output, s), w')) :
    report args standardPath w = ({ exitCode := 0, output := output }, w') := by
  rw [report, hread]
  dsimp only
  rw [hrun]

end Program

/-- **Settings that were written persist.**  If arguments have the settings written, these are
    loaded from their file afterwards.  The text that is shown for them, by these arguments
    without the switch that has them written, is shown from then on by all arguments that name
    the same file and give no values.  It is the text in the file; and the same arguments write
    it a second time and leave all files as they are. -/
theorem written_settings_persist {args : List String} {c : CommandLine}
    {standardPath : Option String} {s : Settings} {output : String} {w w' : Program.World}
    (parsed : CommandLine.read args = .ok c) (writes : c.command = some (.config true))
    (ran : Program.run c standardPath w = (.ok (output, s), w')) :
    ∃ path text, c.configPath? standardPath = some path ∧
      Settings.load path w'.files = .ok s ∧
      Program.report (args.erase "--write") standardPath w
        = ({ exitCode := 0, output := text }, w) ∧
      Program.report ["--config=" ++ path, "config"] standardPath w'
        = ({ exitCode := 0, output := text }, w') ∧
      (∀ args' c' standardPath', CommandLine.read args' = .ok c' →
        c'.command = some (.config false) → c'.configPath? standardPath' = some path →
        c'.baseUrl = none → c'.timeout = none → c'.csrf? = none →
        Program.report args' standardPath' w' = ({ exitCode := 0, output := text }, w')) ∧
      w'.files.read (.ofText path) = .ok (Text.utf8 text.toList) ∧
      ∃ w'', Program.report args standardPath w' = ({ exitCode := 0, output := output }, w'') ∧
        w'.files.Same w''.files ∧ w''.files.read (.ofText path) = .ok (Text.utf8 text.toList) := by
  obtain ⟨path, hpath, hs, hsave, -, -⟩ := (Program.run_write writes).mp ran
  obtain ⟨-, text, made, htext, -, hwrite⟩ := Settings.save_eq_ok.mp hsave
  have hshow : ∀ args' c' standardPath', CommandLine.read args' = .ok c' →
      c'.command = some (.config false) → c'.configPath? standardPath' = some path →
      c'.baseUrl = none → c'.timeout = none → c'.csrf? = none →
      Program.report args' standardPath' w' = ({ exitCode := 0, output := text }, w') := by
    intro args' c' standardPath' hread hcommand hpath' hbase htimeout hcsrf
    have hs' := Program.settings_again hs hsave
      (CommandLine.override_idle hbase htimeout hcsrf s)
    rw [← hpath'] at hs'
    exact Program.report_of_run hread (Program.run_show hcommand hs' htext)
  -- a file is never written by the empty path
  have hnonempty : path ≠ "" := by
    obtain ⟨place, -, hfile, -⟩ := FileTree.write_eq_ok hwrite
    rintro rfl
    exact nomatch hfile
  refine ⟨path, text, hpath, Program.load_saved hs hsave, ?_, ?_, hshow,
    FileTree.read_write hwrite, ?_⟩
  · refine Program.report_of_run (CommandLine.read_erase_write parsed writes)
      (Program.run_show (c := { c with command := some (.config false) }) rfl ?_ htext)
    rw [← hpath] at hs
    exact hs
  · exact hshow _ _ standardPath (CommandLine.read_at hnonempty) rfl rfl rfl rfl rfl
  · obtain ⟨w'', hran, hsame⟩ := Program.run_write_again writes ran
    refine ⟨w'', Program.report_of_run parsed hran, hsame, ?_⟩
    rw [hsame.read]
    exact FileTree.read_write hwrite

/-- A command line that gives an address, and has the settings written by a path of one name. -/
def firstWriting : CommandLine :=
  { command := some (.config true), configFile := some "c.toml", baseUrl := some "http://[::1]/" }

/-- Where there is no file yet, the settings with this address are written. -/
theorem Program.run_firstWriting : ∃ bytes, Program.run firstWriting none {}
    = (.ok ("Configuration written to c.toml\n", .towards "http://[::1]/"),
        { files := ({} : FileTree).put ["c.toml"] (.file bytes) }) := by
  have hvalid : (Settings.towards "http://[::1]/").validate = .ok () := rfl
  have hs : Program.settings firstWriting (some "c.toml") {} = .ok (.towards "http://[::1]/") :=
    Program.settings_eq_ok.mpr
      ⟨.standard, Settings.load_absent FileTree.exists_first, hvalid, rfl⟩
  obtain ⟨bytes, hsave⟩ : ∃ bytes, Settings.save "c.toml" (.towards "http://[::1]/") {}
      = (.ok (), ({} : FileTree).put ["c.toml"] (.file bytes)) :=
    ⟨_, Settings.save_first hvalid rfl⟩
  exact ⟨bytes, (Program.run_write rfl).mpr ⟨"c.toml", rfl, hs, hsave, rfl, rfl⟩⟩

/-- An address that is given once and written: it is loaded and shown from then on, and the
    same arguments write the same again. -/
theorem written_settings_persist_address :
    let args := ["--base-url", "http://[::1]/", "config", "--write", "--config", "c.toml"]
    let written : Program.Report :=
      { exitCode := 0, output := "Configuration written to c.toml\n" }
    ∃ text w' w'', Program.report args none {} = (written, w') ∧
      Settings.load "c.toml" w'.files = .ok (.towards "http://[::1]/") ∧
      Program.report ["--config=c.toml", "config"] none w'
        = ({ exitCode := 0, output := text }, w') ∧
      Program.report args none w' = (written, w'') ∧ w'.files.Same w''.files := by
  intro args written
  have hread : CommandLine.read args = .ok firstWriting := rfl
  obtain ⟨bytes, hran⟩ := Program.run_firstWriting
  obtain ⟨path, text, hpath, hload, -, hshown, -, -, w'', hagain, hsame, -⟩ :=
    written_settings_persist hread rfl hran
  obtain rfl := Option.some.inj hpath
  exact ⟨text, _, w'', Program.report_of_run hread hran, hload, hshown, hagain, hsame⟩

end Postbox
