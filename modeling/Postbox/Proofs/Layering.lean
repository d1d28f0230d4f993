import Postbox.Proofs.Overriding
import Postbox.Proofs.Placement
import Postbox.Proofs.Toml.Tables

/-! # Layering — options over the file over the standard settings

    The settings of a run come in three layers: what the options give, what the file gives, and
    the standard settings, which give everything.  Each field has the value of the uppermost
    layer that gives one, and no field looks at another (`Settings.Layered`).

    What a file gives is what its document says under the five keys that mean something
    (`Settings.Layer.SaidBy`).  A document has each key once, so it does not matter where a key
    stands in it, nor what else does (`Settings.ofEntries_congr`). -/

namespace Postbox

namespace Settings

/-! ## Layers -/

/-- Values for some of the settings. -/
structure Layer where
  baseUrl     : Option String := none
  restPath    : Option String := none
  timeoutSecs : Option Nat := none
  userAgent   : Option String := none
  csrf        : Option CsrfToken := none
deriving DecidableEq, Repr

/-- The settings with the values of a layer in place of theirs. -/
def Layer.over (l : Layer) (s : Settings) : Settings where
  baseUrl     := l.baseUrl.getD s.baseUrl
  restPath    := l.restPath.getD s.restPath
  timeoutSecs := l.timeoutSecs.or s.timeoutSecs
  userAgent   := l.userAgent.getD s.userAgent
  csrf        := l.csrf.or s.csrf

/-! ## Documents -/

/-- The keys of a document that mean something. -/
def keys : List String := ["base_url", "rest_path", "request_timeout_secs", "user_agent", "csrf"]

/-- What a document says under a key: the value there, read by `read`, or nothing where the key does
    not stand. -/
def Says (es : Toml.Entries) (key : String) (read : Toml.Value → Option α) : Option α → Prop
  | some x => ∃ v, (key, v) ∈ es ∧ read v = some x
  | none   => ∀ v, (key, v) ∉ es

/-- A layer of what a document says. -/
structure Layer.SaidBy (l : Layer) (es : Toml.Entries) : Prop where
  baseUrl : Says es "base_url" text? l.baseUrl
  restPath : Says es "rest_path" text? l.restPath
  timeoutSecs : Says es "request_timeout_secs" seconds? l.timeoutSecs
  userAgent : Says es "user_agent" text? l.userAgent
  csrf : Says es "csrf" csrf? l.csrf

section

variable {α : Type} {read : Toml.Value → Option α} {key : String} {es : Toml.Entries}

/-- A field is what the document says, or else its default. -/
theorem says_of_valueOr {default x : α} (h : valueOr default read key es = some x) :
    ∃ given, Says es key read given ∧ x = given.getD default := by
  rw [valueOr] at h
  split at h
  · rename_i hnone
    exact ⟨none, Toml.Entries.get_eq_none.mp hnone, (Option.some.inj h).symm⟩
  · rename_i v hv
    exact ⟨some x, ⟨v, Toml.Entries.mem_of_get hv, h⟩, rfl⟩

/-- A field that may be absent is what the document says, or else its default. -/
theorem says_of_valueOr_some {default x : Option α}
    (h : valueOr default (fun v => (read v).map some) key es = some x) :
    ∃ given, Says es key read given ∧ x = given.or default := by
  rw [valueOr] at h
  split at h
  · rename_i hnone
    exact ⟨none, Toml.Entries.get_eq_none.mp hnone, (Option.some.inj h).symm⟩
  · rename_i v hv
    obtain ⟨y, hy, rfl⟩ := Option.map_eq_some_iff.mp h
    exact ⟨some y, ⟨v, Toml.Entries.mem_of_get hv, hy⟩, rfl⟩

end

/-- **The settings that a document holds** are what it says over the standard ones. -/
theorem layer_of_ofEntries {es : Toml.Entries} {s : Settings} (h : ofEntries? es = some s) :
    ∃ l : Layer, l.SaidBy es ∧ s = l.over standard := by
  obtain ⟨baseUrl, hbase, h⟩ := Option.bind_eq_some_iff.mp h
  obtain ⟨restPath, hrest, h⟩ := Option.bind_eq_some_iff.mp h
  obtain ⟨timeoutSecs, htimeout, h⟩ := Option.bind_eq_some_iff.mp h
  obtain ⟨userAgent, hagent, h⟩ := Option.bind_eq_some_iff.mp h
  obtain ⟨csrf, hcsrf, h⟩ := Option.bind_eq_some_iff.mp h
  obtain rfl := Option.some.inj h
  obtain ⟨givenUrl, saidUrl, rfl⟩ := says_of_valueOr hbase
  obtain ⟨givenPath, saidPath, rfl⟩ := says_of_valueOr hrest
  obtain ⟨givenTimeout, saidTimeout, rfl⟩ := says_of_valueOr_some htimeout
  obtain ⟨givenAgent, saidAgent, rfl⟩ := says_of_valueOr hagent
  obtain ⟨givenCsrf, saidCsrf, rfl⟩ := says_of_valueOr_some hcsrf
  exact ⟨⟨givenUrl, givenPath, givenTimeout, givenAgent, givenCsrf⟩,
    ⟨saidUrl, saidPath, saidTimeout, saidAgent, saidCsrf⟩, rfl⟩

/-- Documents that say the same under the five keys hold the same settings: it matters neither where
    a key stands, nor what stands under other keys. -/
theorem ofEntries_congr {es es' : Toml.Entries} (hd : es.Distinct) (hd' : es'.Distinct)
    (h : ∀ key ∈ keys, ∀ v, (key, v) ∈ es ↔ (key, v) ∈ es') : ofEntries? es = ofEntries? es' := by
  have hget : ∀ key ∈ keys, es.get? key = es'.get? key := by
    intro key hkey
    refine Option.ext fun v => ?_
    rw [Toml.Entries.get_eq_some hd, Toml.Entries.get_eq_some hd']
    exact h key hkey v
  have hvalue {α : Type} (default : α) (read : Toml.Value → Option α) :
      ∀ key ∈ keys, valueOr default read key es = valueOr default read key es' := by
    intro key hkey
    rw [valueOr, valueOr, hget key hkey]
  rw [ofEntries?, ofEntries?, hvalue _ _ "base_url" (by decide), hvalue _ _ "rest_path" (by decide),
    hvalue _ _ "request_timeout_secs" (by decide), hvalue _ _ "user_agent" (by decide),
    hvalue _ _ "csrf" (by decide)]

/-! ## Files -/

/-- The document that a file holds. -/
def document? (path : String) (t : FileTree) : Option Toml.Entries :=
  (t.read (.ofText path)).toOption.bind fun bytes => (Text.ofUtf8? bytes).bind Toml.read?

theorem inFile_eq (path : String) (t : FileTree) :
    inFile? path t = (document? path t).bind ofEntries? := by
  rw [inFile?, document?, Option.bind_assoc]
  refine congrArg _ (funext fun bytes => ?_)
  rw [Option.bind_assoc]
  rfl

/-- A document in a file has each key once. -/
theorem document_distinct {path : String} {t : FileTree} {es : Toml.Entries}
    (h : document? path t = some es) : es.Distinct := by
  obtain ⟨bytes, -, h⟩ := Option.bind_eq_some_iff.mp h
  obtain ⟨text, -, h⟩ := Option.bind_eq_some_iff.mp h
  exact Toml.read_distinct h

/-- Where a document is held there is a file. -/
theorem exists_of_document {path : String} {t : FileTree} {es : Toml.Entries}
    (h : document? path t = some es) : t.exists? (.ofText path) = true := by
  obtain ⟨bytes, hbytes, -⟩ := Option.bind_eq_some_iff.mp h
  exact FileTree.exists_of_read (toOption_eq_some.mp hbytes)

/-- The layer that a file gives: what its document says, or nothing where there is no file, or no
    path of one is known. -/
inductive Layer.GivenBy (t : FileTree) : Option String → Layer → Prop
  | unnamed : GivenBy t none {}
  | absent {path : String} (h : t.exists? (.ofText path) = false) : GivenBy t (some path) {}
  | held {path : String} {es : Toml.Entries} {l : Layer} (h : document? path t = some es)
      (said : l.SaidBy es) : GivenBy t (some path) l

/-- **Loaded settings** are the layer of the file over the standard ones. -/
theorem layer_of_load {path : String} {t : FileTree} {s : Settings} (h : load path t = .ok s) :
    ∃ l, Layer.GivenBy t (some path) l ∧ s = l.over standard := by
  cases hexists : t.exists? (.ofText path) with
  | false => exact ⟨{}, .absent hexists, Except.ok.inj (h.symm.trans (load_absent hexists))⟩
  | true =>
      obtain ⟨hfile, -⟩ := inFile_of_load hexists h
      rw [inFile_eq] at hfile
      obtain ⟨es, hdocument, hentries⟩ := Option.bind_eq_some_iff.mp hfile
      obtain ⟨l, hsaid, hs⟩ := layer_of_ofEntries hentries
      exact ⟨l, .held hdocument hsaid, hs⟩

end Settings

/-! ## Options -/

namespace CommandLine

/-- The layer that the options give: nothing for the REST path and the user agent, and a header only
    with its value. -/
def layer (c : CommandLine) : Settings.Layer :=
  { baseUrl := c.baseUrl, timeoutSecs := c.timeout, csrf := c.csrf? }

theorem override_eq_over (c : CommandLine) (s : Settings) : c.override s = c.layer.over s :=
  c.override_eq s

end CommandLine

/-! ## Runs -/

/-- Settings whose fields have each the value of the option, if it was given, else that of the file,
    if it gives one, else the standard one. -/
structure Settings.Layered (s : Settings) (c : CommandLine) (file : Settings.Layer) : Prop where
  baseUrl : s.baseUrl = (c.baseUrl.or file.baseUrl).getD standard.baseUrl
  restPath : s.restPath = file.restPath.getD standard.restPath
  timeoutSecs : s.timeoutSecs = (c.timeout.or file.timeoutSecs).or standard.timeoutSecs
  userAgent : s.userAgent = file.userAgent.getD standard.userAgent
  csrf : s.csrf = (c.csrf?.or file.csrf).or standard.csrf

/-- Options over a file over the standard settings. -/
theorem Settings.layered_over (c : CommandLine) (file : Settings.Layer) :
    (c.override (file.over standard)).Layered c file := by
  rw [CommandLine.override_eq_over]
  refine ⟨?_, rfl, ?_, rfl, ?_⟩
  · show c.baseUrl.getD (file.baseUrl.getD standard.baseUrl) = _
    cases c.baseUrl with
    | none => rfl
    | some u => rfl
  · exact Option.or_assoc.symm
  · exact Option.or_assoc.symm

namespace Program

variable {c : CommandLine} {files : FileTree} {s : Settings}

/-- The settings of a run without a path of a file. -/
theorem settings_unnamed (h : settings c none files = .ok s) :
    (c.override .standard).validate = .ok () ∧ s = c.override .standard := by
  obtain ⟨_, hvalid, h⟩ := bind_eq_ok.mp h
  exact ⟨mapError_eq_ok.mp hvalid, (Except.ok.inj h).symm⟩

/-- **The settings of a run** are valid, and are what the options make of what the file gives over
    the standard settings. -/
theorem layer_of_settings {path : Option String} (h : settings c path files = .ok s) :
    s.validate = .ok () ∧ ∃ file, Settings.Layer.GivenBy files path file ∧
      s = c.override (file.over .standard) := by
  cases path with
  | none =>
      obtain ⟨hvalid, rfl⟩ := settings_unnamed h
      exact ⟨hvalid, {}, .unnamed, rfl⟩
  | some path =>
      obtain ⟨loaded, hload, hvalid, rfl⟩ := settings_eq_ok.mp h
      obtain ⟨file, hgiven, rfl⟩ := Settings.layer_of_load hload
      exact ⟨hvalid, file, hgiven, rfl⟩

/-- A file whose document says the same under the five keys makes the same settings. -/
theorem settings_congr {path : String} {files' : FileTree} {es es' : Toml.Entries}
    (held : Settings.document? path files = some es)
    (held' : Settings.document? path files' = some es')
    (hsame : ∀ key ∈ Settings.keys, ∀ v, (key, v) ∈ es ↔ (key, v) ∈ es')
    (h : settings c (some path) files = .ok s) : settings c (some path) files' = .ok s := by
  obtain ⟨loaded, hload, hvalid, rfl⟩ := settings_eq_ok.mp h
  obtain ⟨hfile, hchecked⟩ := Settings.inFile_of_load (Settings.exists_of_document held) hload
  have hentries := Settings.ofEntries_congr (Settings.document_distinct held)
    (Settings.document_distinct held') hsame
  have hfile' : Settings.inFile? path files' = some loaded := by
    rw [Settings.inFile_eq, held, Option.bind_some] at hfile
    rw [Settings.inFile_eq, held', Option.bind_some, ← hentries, hfile]
  refine settings_eq_ok.mpr ⟨loaded, ?_, hvalid, rfl⟩
  rw [Settings.load_of_inFile hfile', hchecked]
  rfl

end Program

/-- **Settings are layered field by field.**  Whenever a run has settings, they are valid, and each
    field has the value of its option if that was given, else what the file says of it, else the
    standard value, whatever the other fields.  REST path and user agent have no option, and a
    command line that is accepted has both options of the header or none, so that header and value
    are replaced together.  Laid over the settings again, the options change nothing.  Where the
    keys stand in the file, and what it says under others, does not matter. -/
theorem settings_layered {c : CommandLine} {standardPath : Option String} {files : FileTree}
    {s : Settings} (h : Program.settings c (c.configPath? standardPath) files = .ok s) :
    s.validate = .ok () ∧
    (∃ file, Settings.Layer.GivenBy files (c.configPath? standardPath) file ∧ s.Layered c file) ∧
    (∀ args, CommandLine.read args = .ok c → c.csrfHeader.isSome = c.csrfToken.isSome) ∧
    c.override s = s ∧ (∀ t, c.override (c.override t) = c.override t) ∧
    ∀ path files' es es', c.configPath? standardPath = some path →
      Settings.document? path files = some es → Settings.document? path files' = some es' →
      (∀ key ∈ Settings.keys, ∀ v, (key, v) ∈ es ↔ (key, v) ∈ es') →
      Program.settings c (some path) files' = .ok s := by
  obtain ⟨hvalid, file, hgiven, rfl⟩ := Program.layer_of_settings h
  refine ⟨hvalid, ⟨file, hgiven, Settings.layered_over c file⟩,
    fun args hread => CommandLine.read_together hread, c.override_override _, c.override_override,
    ?_⟩
  intro path files' es es' hnamed held held' hsame
  rw [hnamed] at h
  exact Program.settings_congr held held' hsame h

/-- A document with a key that means nothing, and two of the others, the last one first. -/
def Settings.disordered : String :=
  entry "extra" (Toml.quote "x") ++ entry "user_agent" (Toml.quote "agent") ++
    entry "base_url" (Toml.quote "http://[::1]/")

/-- It is read as three entries. -/
theorem Settings.read_disordered : Toml.read? disordered = some
    [("extra", .text "x"), ("user_agent", .text "agent"), ("base_url", .text "http://[::1]/")] := by
  have hextra : Toml.IsBare "extra".toList := ⟨by decide, List.all_eq_true.mp (by decide)⟩
  have htext : disordered.toList = (entry "extra" (Toml.quote "x")).toList ++
      ((entry "user_agent" (Toml.quote "agent")).toList ++
        ((entry "base_url" (Toml.quote "http://[::1]/")).toList ++ [])) := by
    rw [disordered, String.toList_append, String.toList_append, List.append_assoc, List.append_nil]
  rw [read_entry hextra htext, htext, lines_text_new hextra _ rfl,
    lines_text_new (keys_bare _ (by simp)) _ rfl, lines_text_new (keys_bare _ (by simp)) _ rfl,
    Toml.lines?]
  rfl

/-- What the document says over the standard settings, with some timeout. -/
def Settings.ofDisordered (timeoutSecs : Nat) : Settings :=
  { baseUrl := "http://[::1]/", userAgent := "agent", timeoutSecs := some timeoutSecs }

/-- Options that give a timeout. -/
def CommandLine.waiting (seconds : Nat) : CommandLine := { timeout := some seconds }

/-- The agent and the address of the file, the timeout of the option, and the standard path. -/
theorem settings_layered_disordered :
    let files := ({} : FileTree).put ["c.toml"] (.file (Text.utf8 Settings.disordered.toList))
    Program.settings (.waiting 5) (some "c.toml") files = .ok (.ofDisordered 5) ∧
      (Settings.ofDisordered 5).validate = .ok () ∧
      (∃ file, Settings.Layer.GivenBy files (some "c.toml") file ∧
        (Settings.ofDisordered 5).Layered (.waiting 5) file) ∧
      (CommandLine.waiting 5).override (.ofDisordered 5) = .ofDisordered 5 := by
  intro files
  have hfile : Settings.inFile? "c.toml" files = some (.ofDisordered 30) := by
    rw [Settings.inFile_of_write (FileTree.write_first _), Settings.ofToml?,
      Settings.read_disordered]
    rfl
  have hvalid : (Settings.ofDisordered 5).validate = .ok () := rfl
  have h : Program.settings (.waiting 5) (some "c.toml") files = .ok (.ofDisordered 5) := by
    refine Program.settings_eq_ok.mpr ⟨.ofDisordered 30, ?_, hvalid, rfl⟩
    rw [Settings.load_of_inFile hfile]
    rfl
  have hnamed : Program.settings (.waiting 5)
      ((CommandLine.waiting 5).configPath? (some "c.toml")) files = .ok (.ofDisordered 5) := h
  obtain ⟨hvalid, hlayered, -, hagain, -⟩ := settings_layered hnamed
  exact ⟨h, hvalid, hlayered, hagain⟩

end Postbox
