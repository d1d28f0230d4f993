import Postbox.Program
import Postbox.Proofs.Validity

/-! # Overriding — the options decide over a valid file

    The settings of a run are those of the file with the options' values laid over them
    (`CommandLine.override`).  What the file says in a value that is overridden does not
    matter to the result (`override_eq_iff`).  But a file is checked by itself when it is
    loaded, before anything is laid over it, and with a file that is not valid the options
    are not looked at any more (`settings_of_inFile`).  Behind this check the options alone
    decide: a valid file adds nothing that could make the result invalid
    (`valid_override`). -/

namespace Postbox

namespace CommandLine

/-! ## Layers -/

/-- Settings that agree in all that the options leave. -/
structure AgreeBelow (c : CommandLine) (s t : Settings) : Prop where
  baseUrl : c.baseUrl = none → s.baseUrl = t.baseUrl
  restPath : s.restPath = t.restPath
  timeout : c.timeout = none → s.timeoutSecs = t.timeoutSecs
  userAgent : s.userAgent = t.userAgent
  csrf : c.csrfHeader = none ∨ c.csrfToken = none → s.csrf = t.csrf

/-- The header that the options give, if they do. -/
def csrf? (c : CommandLine) : Option CsrfToken :=
  c.csrfHeader.bind fun header => c.csrfToken.map fun token => ⟨header, token⟩

/-- The options give no header if one of its two parts is missing. -/
theorem csrf_eq_none {c : CommandLine} :
    c.csrf? = none ↔ c.csrfHeader = none ∨ c.csrfToken = none := by
  rw [csrf?]
  cases c.csrfHeader with
  | none => exact ⟨fun _ => Or.inl rfl, fun _ => rfl⟩
  | some header =>
      cases c.csrfToken with
      | none => exact ⟨fun _ => Or.inr rfl, fun _ => rfl⟩
      | some token => exact ⟨nofun, nofun⟩

/-- Options are laid over settings value by value. -/
theorem override_eq (c : CommandLine) (s : Settings) : c.override s
    = { s with
        baseUrl := c.baseUrl.getD s.baseUrl
        timeoutSecs := c.timeout.or s.timeoutSecs
        csrf := c.csrf?.or s.csrf } := by
  rw [override, csrf?]
  cases c.csrfHeader with
  | none => rfl
  | some header =>
      cases c.csrfToken with
      | none => rfl
      | some token => rfl

/-- **The options' values hide those below them, and nothing else.** -/
theorem override_eq_iff {c : CommandLine} {s t : Settings} :
    c.override s = c.override t ↔ c.AgreeBelow s t := by
  rw [override_eq, override_eq, Settings.mk.injEq]
  constructor
  · rintro ⟨hbase, hrest, htimeout, hagent, hcsrf⟩
    refine ⟨fun hnone => ?_, hrest, fun hnone => ?_, hagent, fun hnone => ?_⟩
    · rwa [hnone] at hbase
    · rwa [hnone] at htimeout
    · rwa [csrf_eq_none.mpr hnone] at hcsrf
  · rintro ⟨hbase, hrest, htimeout, hagent, hcsrf⟩
    refine ⟨?_, hrest, ?_, hagent, ?_⟩
    · cases hc : c.baseUrl with
      | none => exact hbase hc
      | some u => rfl
    · cases hc : c.timeout with
      | none => exact htimeout hc
      | some n => rfl
    · cases hc : c.csrf? with
      | none => exact hcsrf (csrf_eq_none.mp hc)
      | some h => rfl

/-- Options that are laid over settings a second time change nothing. -/
theorem override_override (c : CommandLine) (s : Settings) :
    c.override (c.override s) = c.override s := by
  refine override_eq_iff.mpr ⟨fun h => ?_, rfl, fun h => ?_, rfl, fun h => ?_⟩
  · rw [override_eq, h]
    rfl
  · rw [override_eq, h]
    rfl
  · rw [override_eq, csrf_eq_none.mpr h]
    rfl

/-- Options that give no values are laid over nothing. -/
theorem override_idle {c : CommandLine} (hbase : c.baseUrl = none) (htimeout : c.timeout = none)
    (hcsrf : c.csrf? = none) (s : Settings) : c.override s = s := by
  rw [override_eq, hbase, htimeout, hcsrf]
  rfl

/-! ## Checks -/

/-- The values that the options give pass their checks. -/
structure Valid (c : CommandLine) : Prop where
  baseUrl : ∀ u, c.baseUrl = some u → Settings.checkBaseUrl u = .ok ()
  csrf : Settings.checkCsrf c.csrf? = .ok ()
  timeout : Settings.checkTimeout c.timeout = .ok ()

/-- **Over valid settings the options decide alone**, each by the check of its value. -/
theorem valid_override {c : CommandLine} {s : Settings} (h : s.Valid) :
    (c.override s).Valid ↔ c.Valid := by
  rw [override_eq]
  -- each part is the option's where it is given, and else that of valid settings
  constructor
  · rintro ⟨hbase, -, hcsrf, htimeout⟩
    refine ⟨fun u hc => ?_, ?_, ?_⟩
    · rwa [hc] at hbase
    · cases hc : c.csrf? with
      | none => rfl
      | some token => rwa [hc] at hcsrf
    · cases hc : c.timeout with
      | none => rfl
      | some n => rwa [hc] at htimeout
  · rintro ⟨hbase, hcsrf, htimeout⟩
    refine ⟨?_, h.restPath, ?_, ?_⟩
    · cases hc : c.baseUrl with
      | none => exact h.baseUrl
      | some u => exact hbase u hc
    · cases hc : c.csrf? with
      | none => exact h.csrf
      | some token => rwa [hc] at hcsrf
    · cases hc : c.timeout with
      | none => exact h.timeout
      | some n => rwa [hc] at htimeout

end CommandLine

/-! ## The file below -/

namespace Program

/-- The settings of a run are those that are loaded, and then what the options make of them. -/
theorem settings_eq (c : CommandLine) (path : String) (files : FileTree) :
    settings c (some path) files
      = ((Settings.load path files).mapError fun e => .loading path (.settings e)).bind fun f =>
          ((c.override f).validate.mapError fun e => .fault (.settings e)).map fun _ =>
            c.override f := by
  rw [settings]
  cases Settings.load path files with
  | error e => rfl
  | ok f =>
      dsimp only [bind, Except.bind, Except.mapError]
      cases (c.override f).validate with
      | error e => rfl
      | ok _ => rfl

/-- A run has settings if they can be loaded, and what the options make of them is valid. -/
theorem settings_eq_ok {c : CommandLine} {path : String} {files : FileTree} {s : Settings} :
    settings c (some path) files = .ok s ↔
      ∃ f, Settings.load path files = .ok f ∧ (c.override f).validate = .ok () ∧
        s = c.override f := by
  rw [settings_eq, bind_eq_ok]
  constructor
  · rintro ⟨f, hload, h⟩
    obtain ⟨_, hvalid, heq⟩ := map_eq_ok h
    exact ⟨f, mapError_eq_ok.mp hload, mapError_eq_ok.mp hvalid, heq.symm⟩
  · rintro ⟨f, hload, hvalid, rfl⟩
    refine ⟨f, mapError_eq_ok.mpr hload, ?_⟩
    rw [hvalid]
    rfl

/-- The settings of a run with a file: the file is checked first, and then what the options
    make of it. -/
theorem settings_of_inFile (c : CommandLine) {path : String} {files : FileTree} {f : Settings}
    (h : Settings.inFile? path files = some f) : settings c (some path) files
      = (f.validate.mapError fun e => .loading path (.settings e)).bind fun _ =>
          ((c.override f).validate.mapError fun e => .fault (.settings e)).map fun _ =>
            c.override f := by
  rw [settings_eq, Settings.load_of_inFile h]
  cases f.validate with
  | error e => rfl
  | ok _ => rfl

end Program

/-- **The options decide over a file that is valid.**  A run has settings if and only if those
    of the file are valid and so are those that come of the options, laid over them; and the
    latter are the settings then.  Over valid files the outcome, be it settings or a failure,
    does not depend on the values that are overridden, and whether there are settings depends
    on the options alone.  Of a file that is not valid the first thing that is wrong is
    reported, whatever the options. -/
theorem options_decide_over_file (c : CommandLine) {standardPath : Option String} {path : String}
    {files : FileTree} {f : Settings} (named : c.configPath? standardPath = some path)
    (held : Settings.inFile? path files = some f) :
    let outcome := Program.settings c (c.configPath? standardPath)
    (∀ s, outcome files = .ok s ↔
      f.validate = .ok () ∧ (c.override f).validate = .ok () ∧ s = c.override f) ∧
    (f.validate = .ok () → ((∃ s, outcome files = .ok s) ↔ c.Valid) ∧
      ∀ files' g, Settings.inFile? path files' = some g → g.validate = .ok () →
        c.AgreeBelow f g → outcome files' = outcome files) ∧
    ∀ e, f.validate = .error e → outcome files = .error (.loading path (.settings e)) := by
  rw [named]
  intro outcome
  -- the file is checked before the options are laid over it, and the result once more
  have hok : ∀ s, outcome files = .ok s ↔
      f.validate = .ok () ∧ (c.override f).validate = .ok () ∧ s = c.override f := by
    intro s
    rw [Program.settings_eq_ok, Settings.load_of_inFile held]
    constructor
    · rintro ⟨f', hload, hvalid, rfl⟩
      obtain ⟨_, hfile, rfl⟩ := map_eq_ok hload
      exact ⟨hfile, hvalid, rfl⟩
    · rintro ⟨hfile, hvalid, rfl⟩
      exact ⟨f, by rw [hfile]; rfl, hvalid, rfl⟩
  refine ⟨hok, fun hvalid => ⟨?_, ?_⟩, ?_⟩
  · rw [← CommandLine.valid_override (Settings.validate_eq_ok.mp hvalid),
      ← Settings.validate_eq_ok]
    constructor
    · rintro ⟨s, hs⟩
      exact ((hok s).mp hs).2.1
    · intro hover
      exact ⟨_, (hok _).mpr ⟨hvalid, hover, rfl⟩⟩
  · intro files' g hheld hvalid' hagree
    show Program.settings c (some path) files' = Program.settings c (some path) files
    rw [Program.settings_of_inFile c hheld, Program.settings_of_inFile c held, hvalid, hvalid',
      CommandLine.override_eq_iff.mpr hagree]
  · intro e he
    show Program.settings c (some path) files = _
    rw [Program.settings_of_inFile c held, he]
    rfl

/-- The files of a directory with nothing but the document of settings, which may be valid or
    not. -/
def Settings.stored (s : Settings) : FileTree :=
  ({} : FileTree).put ["c.toml"] (.file (Text.utf8 (s.toToml.toOption.getD "").toList))

/-- Settings with a timeout are held as they were stored. -/
theorem Settings.inFile_stored {s : Settings} {text : String} (h : s.toToml = .ok text)
    (htimeout : s.timeoutSecs ≠ none) : inFile? "c.toml" s.stored = some s := by
  have hwrite := FileTree.write_first (Text.utf8 text.toList)
  rw [stored, h, Except.toOption, Option.getD_some, inFile_of_write hwrite, ofToml_toToml h,
    or_timeout htimeout]

/-- Options that give an address. -/
def CommandLine.towards (baseUrl : String) : CommandLine := { baseUrl := some baseUrl }

/-- Settings with an address, and all else as it is where nothing is said. -/
def Settings.towards (baseUrl : String) : Settings := { baseUrl := baseUrl }

/-- An address that is laid over those of two files hides them. -/
theorem options_decide_over_file_address :
    Program.settings (.towards "http://[::1]/") (some "c.toml")
        (Settings.towards "http://[::1]/app").stored = .ok (.towards "http://[::1]/") ∧
    Program.settings (.towards "http://[::1]/") (some "c.toml")
        (Settings.towards "https://[::2]/").stored
      = Program.settings (.towards "http://[::1]/") (some "c.toml")
          (Settings.towards "http://[::1]/app").stored := by
  have hagree : (CommandLine.towards "http://[::1]/").AgreeBelow
      (.towards "http://[::1]/app") (.towards "https://[::2]/") :=
    ⟨nofun, rfl, fun _ => rfl, rfl, fun _ => rfl⟩
  have hnamed : (CommandLine.towards "http://[::1]/").configPath? (some "c.toml")
      = some "c.toml" := rfl
  have hvalid : (Settings.towards "http://[::1]/app").validate = .ok () := rfl
  have hvalid' : (Settings.towards "https://[::2]/").validate = .ok () := rfl
  have hover : (Settings.towards "http://[::1]/").validate = .ok () := rfl
  obtain ⟨hok, hhidden, -⟩ := options_decide_over_file (.towards "http://[::1]/") hnamed
    (Settings.inFile_stored (s := .towards "http://[::1]/app") rfl nofun)
  exact ⟨(hok _).mpr ⟨hvalid, hover, rfl⟩,
    (hhidden hvalid).2 _ _ (Settings.inFile_stored rfl nofun) hvalid' hagree⟩

/-- **An address that is overridden makes the run fail** if it stands in the file and is none:
    what the options make of the file's settings is valid, but the file is not. -/
theorem hidden_address_decides :
    Settings.inFile? "c.toml" (Settings.towards "bad").stored = some (.towards "bad") ∧
    ((CommandLine.towards "http://[::1]/").override (.towards "bad")).validate = .ok () ∧
    Program.settings (.towards "http://[::1]/") (some "c.toml") (Settings.towards "bad").stored
      = .error (.loading "c.toml" (.settings (.url .relativeWithoutBase))) := by
  have hheld : Settings.inFile? "c.toml" (Settings.towards "bad").stored
      = some (.towards "bad") := Settings.inFile_stored rfl nofun
  refine ⟨hheld, rfl, ?_⟩
  rw [Program.settings_of_inFile _ hheld]
  rfl

end Postbox
