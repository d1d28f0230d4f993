import Postbox.Settings.File
import Postbox.Proofs.FileTree
import Postbox.Proofs.Toml.Documents
import Postbox.Proofs.Utf8

/-! # Saving — saved settings are loaded, but for an absent timeout

    Saved settings are a document of lines, each of which adds one entry
    (`read_toToml`), and the entries give the settings (`ofEntries_entries`).  An
    absent value has no line, and where there is no line the standard value is taken.
    For the CSRF header that is the absent value, too; for the timeout it is not. -/

namespace Postbox.Settings

/-! ## The document -/

/-- The entries of the document of the settings. -/
def entries (s : Settings) : Toml.Entries :=
  [("base_url", .text s.baseUrl), ("rest_path", .text s.restPath)]
    ++ (s.timeoutSecs.map fun n => ("request_timeout_secs", .integer (Int64.ofInt n))).toList
    ++ [("user_agent", .text s.userAgent)]
    ++ (s.csrf.map fun c =>
        ("csrf", .table .header [("header", .text c.header), ("token", .text c.token)])).toList

/-- The characters of a line. -/
theorem entry_toList (key value : String) (rest : List Char) : (entry key value).toList ++ rest
    = key.toList ++ ' ' :: '=' :: ' ' :: (value.toList ++ '\n' :: rest) := by
  rw [entry]
  simp

/-- Numbers of a document are words. -/
theorem word_maxInteger {n : Nat} (h : n ≤ maxInteger) :
    Decimal.word? n = some (Int64.ofInt n) ∧ (Int64.ofInt n).toInt = n := by
  have hmax : n ≤ 2 ^ 63 - 1 := h
  have hvalue : (Int64.ofInt n).toInt = n := Int64.toInt_ofInt_of_le (by omega) (by omega)
  refine ⟨?_, hvalue⟩
  conv => lhs; rw [← hvalue]
  exact Json.word_toInt _

section

variable {key : String} (hkey : Toml.IsBare key.toList) {root : Toml.Entries} (rest : List Char)

include hkey

/-- A line with a text is read. -/
theorem lines_text (current : List String) (s : String) :
    Toml.lines? current root ((entry key (Toml.quote s)).toList ++ rest)
      = (Toml.insert? current [] key (.text s) root).bind fun root =>
          Toml.lines? current root rest := by
  have hread : Toml.text? ((Toml.quote s).toList ++ '\n' :: rest) = some (s, '\n' :: rest) :=
    Toml.text_quote (by simp) (by simp) s
  rw [entry_toList, Toml.lines_entry hkey (Toml.skipSpaces_text hread)
    (Toml.value_text hread _), String.ofList_toList]

/-- A line with a text adds to the document, if the key is new. -/
theorem lines_text_new (hnew : root.get? key = none) (s : String) :
    Toml.lines? [] root ((entry key (Toml.quote s)).toList ++ rest)
      = Toml.lines? [] (root ++ [(key, .text s)]) rest := by
  rw [lines_text hkey, Toml.insert_new hnew]
  rfl

/-- A line with a number adds to the document, if the key is new. -/
theorem lines_number_new (hnew : root.get? key = none) {n : Nat} (hn : n ≤ maxInteger) :
    Toml.lines? [] root ((entry key (toString n)).toList ++ rest)
      = Toml.lines? [] (root ++ [(key, .integer (Int64.ofInt n))]) rest := by
  rw [entry_toList, show toString n = Nat.repr n from rfl, Nat.toList_repr,
    Toml.lines_entry hkey (Toml.skipSpaces_number n rest)
      (Toml.value_number n rest _ (word_maxInteger hn).1),
    String.ofList_toList, Toml.insert_new hnew]
  rfl

end

/-- The keys of the settings need no quotes. -/
theorem keys_bare : ∀ key ∈ ["base_url", "rest_path", "request_timeout_secs", "user_agent",
    "csrf", "header", "token"], Toml.IsBare key.toList := by
  intro key hkey
  have hall : (["base_url", "rest_path", "request_timeout_secs", "user_agent", "csrf", "header",
      "token"].all fun key => !key.toList.isEmpty && key.toList.all Toml.isKeyChar) = true := by
    decide
  obtain ⟨hsome, hchars⟩ := Bool.and_eq_true_iff.mp (List.all_eq_true.mp hall key hkey)
  exact ⟨by simpa using hsome, List.all_eq_true.mp hchars⟩

/-- The lines of the header are read as a table, the last entry. -/
theorem lines_csrf {root : Toml.Entries} (hnew : root.get? "csrf" = none) (c : CsrfToken) :
    Toml.lines? [] root ("\n[csrf]\n" ++ entry "header" (Toml.quote c.header)
        ++ entry "token" (Toml.quote c.token)).toList
      = some (root ++ [("csrf", .table .header
          [("header", .text c.header), ("token", .text c.token)])]) := by
  have hbare := keys_bare "csrf" (by simp)
  have hheader := keys_bare "header" (by simp)
  have htoken := keys_bare "token" (by simp)
  -- the entries go below the table that its header has begun at the end
  have hfirst : Toml.insert? ["csrf"] [] "header" (.text c.header)
      (root ++ [("csrf", .table .header [])])
        = some (root ++ [("csrf", .table .header [("header", .text c.header)])]) := by
    rw [Toml.insert_below (Toml.get_last hnew) rfl, Toml.set_last hnew]
    rfl
  have hsecond : Toml.insert? ["csrf"] [] "token" (.text c.token)
      (root ++ [("csrf", .table .header [("header", .text c.header)])])
        = some (root ++ [("csrf", .table .header
            [("header", .text c.header), ("token", .text c.token)])]) := by
    rw [Toml.insert_below (Toml.get_last hnew) (by rfl), Toml.set_last hnew]
    rfl
  have htext : ("\n[csrf]\n" ++ entry "header" (Toml.quote c.header)
      ++ entry "token" (Toml.quote c.token)).toList
        = '\n' :: '[' :: ("csrf".toList ++ ']' :: '\n' ::
            ((entry "header" (Toml.quote c.header)).toList
              ++ ((entry "token" (Toml.quote c.token)).toList ++ []))) := by
    simp
  rw [htext, Toml.lines_empty, Toml.lines_header hbare, String.ofList_toList,
    Toml.header_new hnew]
  show Toml.lines? ["csrf"] (root ++ [("csrf", .table .header [])]) _ = _
  rw [lines_text hheader, hfirst]
  show Toml.lines? ["csrf"] _ _ = _
  rw [lines_text htoken, hsecond]
  show Toml.lines? ["csrf"] _ [] = _
  rw [Toml.lines?]
  rfl

/-- Only timeouts that are numbers of a document are written. -/
theorem timeout_le {s : Settings} {text : String} (h : s.toToml = .ok text) {n : Nat}
    (hn : s.timeoutSecs = some n) : n ≤ maxInteger := by
  rw [toToml, hn] at h
  split at h
  · exact nomatch h
  · rename_i hsmall
    simpa using hsmall

section

variable {root : Toml.Entries}

/-- The line of a timeout adds to the document, and so does none for an absent one. -/
theorem lines_timeout {timeoutSecs : Option Nat} (h : ∀ n, timeoutSecs = some n → n ≤ maxInteger)
    (hnew : root.get? "request_timeout_secs" = none) (rest : List Char) :
    Toml.lines? [] root
        (((timeoutSecs.map fun n => entry "request_timeout_secs" (toString n)).getD "").toList
          ++ rest)
      = Toml.lines? [] (root ++ (timeoutSecs.map fun n =>
          ("request_timeout_secs", .integer (Int64.ofInt n))).toList) rest := by
  cases timeoutSecs with
  | none =>
      show Toml.lines? [] root rest = Toml.lines? [] (root ++ []) rest
      rw [List.append_nil]
  | some n => exact lines_number_new (keys_bare _ (by simp)) rest hnew (h n rfl)

/-- The lines of a header end the document, and so do none for an absent one. -/
theorem lines_end (csrf : Option CsrfToken) (hnew : root.get? "csrf" = none) :
    Toml.lines? [] root ((csrf.map fun c => "\n[csrf]\n" ++ entry "header" (Toml.quote c.header)
        ++ entry "token" (Toml.quote c.token)).getD "").toList
      = some (root ++ (csrf.map fun c => ("csrf", .table .header
          [("header", .text c.header), ("token", .text c.token)])).toList) := by
  cases csrf with
  | some c => exact lines_csrf hnew c
  | none =>
      show Toml.lines? [] root [] = some (root ++ [])
      rw [Toml.lines?, List.append_nil]
      rfl

end

/-- A document that begins with a line has no byte order mark. -/
theorem read_entry {key value text : String} (hkey : Toml.IsBare key.toList) {rest : List Char}
    (h : text.toList = (entry key value).toList ++ rest) :
    Toml.read? text = Toml.lines? [] [] text.toList := by
  rw [Toml.read?]
  split
  · rename_i heq
    rw [h, entry_toList] at heq
    exact absurd heq (hkey.ne_cons (by decide) _ _)
  · rfl

/-- **The document of settings is read as their entries.** -/
theorem read_toToml {s : Settings} {text : String} (h : s.toToml = .ok text) :
    Toml.read? text = some s.entries := by
  have hsmall := fun n => timeout_le h (n := n)
  obtain ⟨baseUrl, restPath, timeoutSecs, userAgent, csrf⟩ := s
  have htext : text.toList = (entry "base_url" (Toml.quote baseUrl)).toList ++
      ((entry "rest_path" (Toml.quote restPath)).toList ++
        (((timeoutSecs.map fun n => entry "request_timeout_secs" (toString n)).getD "").toList ++
          ((entry "user_agent" (Toml.quote userAgent)).toList ++
            ((csrf.map fun c => "\n[csrf]\n" ++ entry "header" (Toml.quote c.header)
              ++ entry "token" (Toml.quote c.token)).getD "").toList))) := by
    rw [toToml] at h
    split at h
    · exact nomatch h
    · rw [← Except.ok.inj h]
      simp only [String.toList_append, List.append_assoc]
  -- line by line: each adds one entry, whose key is none of those before it
  rw [read_entry (keys_bare _ (by simp)) htext, htext,
    lines_text_new (keys_bare _ (by simp)) _ (by rfl),
    lines_text_new (keys_bare _ (by simp)) _ (by rfl), lines_timeout hsmall (by rfl),
    lines_text_new (keys_bare _ (by simp)), lines_end]
  · rfl
  · cases timeoutSecs with
    | none => rfl
    | some n => rfl
  · cases timeoutSecs with
    | none => rfl
    | some n => rfl

/-- **The entries of settings give them back**, with the standard timeout in place of an
    absent one. -/
theorem ofEntries_entries {s : Settings} (h : ∀ n, s.timeoutSecs = some n → n ≤ maxInteger) :
    ofEntries? s.entries
      = some { s with timeoutSecs := s.timeoutSecs.or standard.timeoutSecs } := by
  obtain ⟨baseUrl, restPath, timeoutSecs, userAgent, csrf⟩ := s
  cases timeoutSecs with
  | none =>
      cases csrf with
      | none => rfl
      | some c => rfl
  | some n =>
      have hn : seconds? (.integer (Int64.ofInt n)) = some n := by
        rw [seconds?, (word_maxInteger (h n rfl)).2, if_neg (by omega), Int.toNat_natCast]
      -- all other values are found as they stand
      cases csrf with
      | none =>
          show ((seconds? (.integer (Int64.ofInt n))).map some).bind
            (fun t => some (Settings.mk baseUrl restPath t userAgent none)) = _
          rw [hn]
          rfl
      | some c =>
          show ((seconds? (.integer (Int64.ofInt n))).map some).bind
            (fun t => some (Settings.mk baseUrl restPath t userAgent (some c))) = _
          rw [hn]
          rfl

/-- **The document of settings gives them back**, with the standard timeout in place of an
    absent one. -/
theorem ofToml_toToml {s : Settings} {text : String} (h : s.toToml = .ok text) :
    ofToml? text = some { s with timeoutSecs := s.timeoutSecs.or standard.timeoutSecs } := by
  rw [ofToml?, read_toToml h]
  exact ofEntries_entries fun n => timeout_le h

/-! ## The file -/

/-- The settings that a file holds, valid or not. -/
def inFile? (path : String) (t : FileTree) : Option Settings :=
  (t.read (.ofText path)).toOption.bind fun bytes => (Text.ofUtf8? bytes).bind ofToml?

/-- What a file holds that was written. -/
theorem inFile_of_write {path text : String} {t t' : FileTree}
    (h : t.write (.ofText path) (Text.utf8 text.toList) = .ok t') :
    inFile? path t' = ofToml? text := by
  rw [inFile?, FileTree.read_write h, Except.toOption, Option.bind_some, Text.ofUtf8_text,
    Option.bind_some]

/-- **The settings that a file holds are loaded if they are valid.** -/
theorem load_of_inFile {s : Settings} {path : String} {t : FileTree}
    (h : inFile? path t = some s) : load path t = s.validate.map fun _ => s := by
  obtain ⟨bytes, hbytes, h⟩ := Option.bind_eq_some_iff.mp h
  obtain ⟨text, htext, hsettings⟩ := Option.bind_eq_some_iff.mp h
  have hread : t.read (.ofText path) = .ok bytes := toOption_eq_some.mp hbytes
  rw [load, FileTree.exists_of_read hread, hread]
  dsimp only [bind, Except.bind, Except.mapError]
  rw [htext]
  dsimp only
  rw [hsettings]
  dsimp only
  cases s.validate with
  | error p => rfl
  | ok _ => rfl

/-- Where there is no file the standard settings are loaded. -/
theorem load_absent {path : String} {t : FileTree} (h : t.exists? (.ofText path) = false) :
    load path t = .ok standard := by
  rw [load, h]
  rfl

/-- A path without text leads to no file, whatever there is. -/
example (t : FileTree) : load "" t = .ok standard := load_absent rfl

/-- What was loaded from a file stands in it, and is valid. -/
theorem inFile_of_load {s : Settings} {path : String} {t : FileTree}
    (found : t.exists? (.ofText path) = true) (h : load path t = .ok s) :
    inFile? path t = some s ∧ s.validate = .ok () := by
  rw [load, found] at h
  obtain ⟨bytes, hread, h⟩ := bind_eq_ok.mp h
  rw [inFile?, mapError_eq_ok.mp hread, Except.toOption, Option.bind_some]
  cases htext : Text.ofUtf8? bytes with
  | none =>
      rw [htext] at h
      exact nomatch h
  | some text =>
      rw [htext] at h
      rw [Option.bind_some]
      dsimp only at h
      cases hsettings : ofToml? text with
      | none =>
          rw [hsettings] at h
          exact nomatch h
      | some loaded =>
          rw [hsettings] at h
          obtain ⟨_, hvalid, h⟩ := bind_eq_ok.mp h
          obtain rfl := Except.ok.inj h
          exact ⟨rfl, hvalid⟩

/-- Settings with a timeout do not need the standard one. -/
theorem or_timeout {s : Settings} (h : s.timeoutSecs ≠ none) :
    ({ s with timeoutSecs := s.timeoutSecs.or standard.timeoutSecs } : Settings) = s := by
  obtain ⟨baseUrl, restPath, timeoutSecs, userAgent, csrf⟩ := s
  cases timeoutSecs with
  | none => exact absurd rfl h
  | some n => rfl

/-- Settings are as valid with the standard timeout as without any. -/
theorem validate_or (s : Settings) :
    ({ s with timeoutSecs := s.timeoutSecs.or standard.timeoutSecs } : Settings).validate
      = s.validate := by
  obtain ⟨baseUrl, restPath, timeoutSecs, userAgent, csrf⟩ := s
  cases timeoutSecs with
  | none => rfl
  | some n => rfl

/-- What a saving comes to and leaves: the settings are refused; or something fails on the way to
    the file, or at the file; or the file is written. -/
inductive Saving (s : Settings) (p : FileTree.Path) (t : FileTree) :
    Except SettingsProblem Unit → FileTree → Prop
  | invalid {e : SettingsProblem} (wrong : s.validate = .error e) : Saving s p t (.error e) t
  | unwritten {e : SettingsProblem} (valid : s.validate = .ok ()) (wrong : s.toToml = .error e) :
      Saving s p t (.error e) t
  | noDirectory {text : String} {e : FileProblem} {t' : FileTree} (valid : s.validate = .ok ())
      (written : s.toToml = .ok text) (making : t.makeDirectories p.parent = (.error e, t')) :
      Saving s p t (.error (.directory e)) t'
  | noFile {text : String} {e : FileProblem} {t' : FileTree} (valid : s.validate = .ok ())
      (written : s.toToml = .ok text) (making : t.makeDirectories p.parent = (.ok (), t'))
      (writing : t'.write p (Text.utf8 text.toList) = .error e) :
      Saving s p t (.error (.unwritable e)) t'
  | saved {text : String} {made t' : FileTree} (valid : s.validate = .ok ())
      (written : s.toToml = .ok text) (making : t.makeDirectories p.parent = (.ok (), made))
      (writing : made.write p (Text.utf8 text.toList) = .ok t') : Saving s p t (.ok ()) t'

/-- **Every saving has one of the listed outcomes.** -/
theorem save_outcome (s : Settings) (path : String) (t : FileTree) :
    Saving s (.ofText path) t (s.save path t).1 (s.save path t).2 := by
  delta save
  dsimp only
  cases hvalid : s.validate with
  | error e => exact .invalid hvalid
  | ok _ =>
      cases htext : s.toToml with
      | error e => exact .unwritten hvalid htext
      | ok text =>
          dsimp only [bind, Except.bind]
          cases hmaking : t.makeDirectories (FileTree.Path.ofText path).parent with
          | mk result made =>
              cases result with
              | error e => exact .noDirectory hvalid htext hmaking
              | ok _ =>
                  dsimp only
                  cases hwriting : made.write (.ofText path) (Text.utf8 text.toList) with
                  | error e => exact .noFile hvalid htext hmaking hwriting
                  | ok t' => exact .saved hvalid htext hmaking hwriting

/-- What is needed to save settings, and what is written then. -/
theorem save_eq_ok {s : Settings} {path : String} {t t' : FileTree} :
    s.save path t = (.ok (), t') ↔ s.validate = .ok () ∧ ∃ text, ∃ made : FileTree,
      s.toToml = .ok text ∧ t.makeDirectories (FileTree.Path.ofText path).parent = (.ok (), made)
        ∧ made.write (.ofText path) (Text.utf8 text.toList) = .ok t' := by
  constructor
  · intro h
    have hsaving := save_outcome s path t
    rw [h] at hsaving
    cases hsaving with
    | saved valid written making writing => exact ⟨valid, _, _, written, making, writing⟩
  · rintro ⟨hvalid, text, made, htext, hmade, hwrite⟩
    delta save
    dsimp only
    rw [hvalid, htext]
    dsimp only [bind, Except.bind]
    rw [hmade]
    dsimp only
    rw [hwrite]

/-- **Saved settings are loaded with the standard timeout in place of an absent one.** -/
theorem load_of_save {s : Settings} {path : String} {t t' : FileTree}
    (h : s.save path t = (.ok (), t')) :
    load path t' = .ok { s with timeoutSecs := s.timeoutSecs.or standard.timeoutSecs } := by
  obtain ⟨hvalid, text, made, htext, -, hwrite⟩ := save_eq_ok.mp h
  rw [load_of_inFile ((inFile_of_write hwrite).trans (ofToml_toToml htext)), validate_or, hvalid]
  rfl

/-- **What is saved is loaded, but for an absent timeout**: settings that were saved are
    loaded, and they are the same if and only if they have a timeout; without one they
    are loaded with the standard timeout. -/
theorem loaded_as_saved {s : Settings} {path : String} {t t' : FileTree}
    (saved : s.save path t = (.ok (), t')) :
    load path t' = .ok { s with timeoutSecs := s.timeoutSecs.or standard.timeoutSecs }
      ∧ (load path t' = .ok s ↔ s.timeoutSecs ≠ none) := by
  have hload := load_of_save saved
  refine ⟨hload, ?_⟩
  rw [hload]
  obtain ⟨baseUrl, restPath, timeoutSecs, userAgent, csrf⟩ := s
  cases timeoutSecs with
  | none =>
      refine ⟨fun heq => ?_, fun hne => absurd rfl hne⟩
      exact nomatch congrArg Settings.timeoutSecs (Except.ok.inj heq)
  | some n => exact ⟨fun _ => Option.some_ne_none n, fun _ => rfl⟩

/-- **Settings that are saved again leave all files as they are.** -/
theorem save_again {s : Settings} {path : String} {t t' : FileTree}
    (h : s.save path t = (.ok (), t')) :
    ∃ t'', s.save path t' = (.ok (), t'') ∧ t'.Same t'' := by
  obtain ⟨hvalid, text, made, htext, hmade, hwrite⟩ := save_eq_ok.mp h
  obtain ⟨t'', hagain, hsame⟩ := FileTree.write_again hwrite
  have hmade' := FileTree.makeDirectories_again hmade (FileTree.write_keeps hwrite)
  exact ⟨t'', save_eq_ok.mpr ⟨hvalid, text, _, htext, hmade', hagain⟩, hsame⟩

/-- A file in the working directory is saved where there is nothing yet. -/
theorem save_first {s : Settings} {text : String} (hvalid : s.validate = .ok ())
    (htext : s.toToml = .ok text) : s.save "c.toml" {}
      = (.ok (), ({} : FileTree).put ["c.toml"] (.file (Text.utf8 text.toList))) :=
  save_eq_ok.mpr ⟨hvalid, text, {}, htext, rfl, FileTree.write_first _⟩

/-- Settings that differ from the standard ones in their address and have a header. -/
def withHeader : Settings := { baseUrl := "http://[::1]/", csrf := some ⟨"X-T", "a\"b"⟩ }

/-- Settings with a timeout and a header are loaded as they were saved. -/
theorem loaded_as_saved_header :
    ∃ t', withHeader.save "c.toml" {} = (.ok (), t') ∧ load "c.toml" t' = .ok withHeader := by
  have hsave := save_first (s := withHeader) rfl rfl
  exact ⟨_, hsave, (loaded_as_saved hsave).2.mpr (by decide)⟩

/-- Settings by which a request waits for ever. -/
def patient : Settings := { baseUrl := "http://[::1]/", timeoutSecs := none }

/-- **A timeout that was taken away is back** after settings were saved and loaded. -/
theorem loaded_other_than_saved :
    ∃ t', patient.save "c.toml" {} = (.ok (), t')
      ∧ load "c.toml" t' = .ok { patient with timeoutSecs := some 30 }
      ∧ load "c.toml" t' ≠ .ok patient := by
  have hsave := save_first (s := patient) rfl rfl
  have hload := load_of_save hsave
  refine ⟨_, hsave, hload, ?_⟩
  rw [hload]
  intro heq
  exact nomatch congrArg Settings.timeoutSecs (Except.ok.inj heq)

end Postbox.Settings
