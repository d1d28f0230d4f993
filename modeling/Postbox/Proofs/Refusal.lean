import Mathlib.Data.List.DropRight
import Postbox.Proofs.Confinement

/-! # Refusal — a saving that fails loses nothing

    Settings are checked, and their document is made, before a file or a directory is
    touched.  Then directories are made on the way to the file, and the file is written
    last.  So settings that are refused leave the tree as it is, and whatever fails behind
    that has made directories at most (`Saving.failed`).

    The directories on the way are those above the end of the path: the steps to its parent
    are its own steps but the last (`Path.steps_parent`), and a directory is made only where
    these lead (`Making.onWay`).  A path that ends at a directory, or leads through a file,
    is none by which a file can be written (`write_free`). -/

namespace Postbox

namespace FileTree

/-! ## The parent of a path -/

namespace Path

/-- Without the idle parts at the end there is nothing, or a part that leads somewhere comes
    last. -/
theorem trim_cases (parts : List String) : trim parts = [] ∨
    ∃ front last idle, parts = front ++ last :: idle ∧ isIdle last = false ∧
      (∀ part ∈ idle, isIdle part = true) ∧ trim parts = front ++ [last] := by
  induction parts using List.reverseRecOn with
  | nil => exact Or.inl rfl
  | append_singleton parts part ih =>
      have htrim : ∀ parts, trim parts = parts.rdropWhile isIdle := fun _ => rfl
      rw [htrim] at ih ⊢
      cases hidle : isIdle part with
      | false =>
          rw [List.rdropWhile_concat_neg _ _ _ (by simp [hidle])]
          exact Or.inr ⟨parts, part, [], rfl, hidle, List.forall_mem_nil _, rfl⟩
      | true =>
          rw [List.rdropWhile_concat_pos _ _ _ hidle]
          rcases ih with hnone | ⟨front, last, idle, rfl, hlast, hall, htrimmed⟩
          · exact Or.inl hnone
          · refine Or.inr ⟨front, last, idle ++ [part], ?_, hlast, ?_, htrimmed⟩
            · rw [List.append_assoc, List.cons_append]
            · rintro other hmem
              rcases List.mem_append.mp hmem with hmem | hmem
              · exact hall other hmem
              · rw [List.mem_singleton.mp hmem]
                exact hidle

/-- The steps of a path whose last part leads somewhere. -/
theorem steps_concat (front : List String) {last : String} (hlast : isIdle last = false) :
    steps ⟨front ++ [last]⟩ = front.filter (fun s => !isIdle s) ++ [last] := by
  have hnonempty : last ≠ "" := by
    rintro rfl
    exact nomatch hlast
  rw [steps, List.dropLast_concat, List.getLast?_concat]
  simp [hnonempty]

/-- The steps of a path go along its parts that lead somewhere. -/
theorem steps_append (front rest : List String) {last : String} (hlast : isIdle last = false) :
    ∃ names, steps ⟨front ++ last :: rest⟩
      = front.filter (fun s => !isIdle s) ++ last :: names := by
  cases rest with
  | nil => exact ⟨[], steps_concat front hlast⟩
  | cons next rest =>
      rw [steps, List.dropLast_append_of_ne_nil (List.cons_ne_nil _ _), List.dropLast_cons_cons,
        List.filter_append, List.filter_cons_of_pos (by rw [hlast]; rfl), List.append_assoc]
      exact ⟨_, rfl⟩

/-- What a parent is: the working directory or the root, or else the parts in front of the last
    one that leads somewhere. -/
theorem parent_cases (p : Path) : p.parent = ⟨if p.isAbsolute then ["", ""] else []⟩ ∨
    ∃ front above idle last rest, p.parts = front ++ above :: idle ++ last :: rest ∧
      isIdle above = false ∧ (∀ part ∈ idle, isIdle part = true) ∧ isIdle last = false ∧
      p.parent = ⟨front ++ [above]⟩ := by
  have hnone : trim (trim p.parts).dropLast = [] →
      p.parent = ⟨if p.isAbsolute then ["", ""] else []⟩ := by
    intro h
    rw [parent, h]
    simp
  rcases trim_cases p.parts with h | ⟨front, last, rest, hparts, hlast, -, h⟩
  · refine Or.inl (hnone ?_)
    rw [h]
    rfl
  · rw [h, List.dropLast_concat] at hnone
    rcases trim_cases front with h' | ⟨first, above, idle, rfl, habove, hidle, h'⟩
    · exact Or.inl (hnone h')
    · refine Or.inr ⟨first, above, idle, last, rest, hparts, habove, hidle, hlast, ?_⟩
      rw [parent, h, List.dropLast_concat, h']
      simp

/-- **The steps to the parent are the steps of the path but the last.** -/
theorem steps_parent (p : Path) :
    p.parent.steps = [] ∨ ∃ name rest, p.steps = p.parent.steps ++ name :: rest := by
  rcases parent_cases p with h | ⟨front, above, idle, last, rest, hparts, habove, hidle, hlast, h⟩
  · refine Or.inl ?_
    rw [h]
    cases p.isAbsolute with
    | true => rfl
    | false => rfl
  · have hfilter : (front ++ above :: idle).filter (fun s => !isIdle s)
        = front.filter (fun s => !isIdle s) ++ [above] := by
      have hnone : idle.filter (fun s => !isIdle s) = [] := by
        rw [List.filter_eq_nil_iff]
        intro part hmem
        simp [hidle part hmem]
      rw [List.filter_append, List.filter_cons_of_pos (by rw [habove]; rfl), hnone]
    obtain ⟨names, hsteps⟩ := steps_append (front ++ above :: idle) rest hlast
    refine Or.inr ⟨last, names, ?_⟩
    rw [h, steps_concat front habove, ← hfilter, ← hsteps, ← hparts]

/-- A path and its parent start at the same place. -/
theorem isAbsolute_parent (p : Path) : p.parent.isAbsolute = p.isAbsolute := by
  rcases parent_cases p with h | ⟨front, above, idle, last, rest, hparts, habove, -, -, h⟩
  · rw [h]
    cases p.isAbsolute with
    | true => rfl
    | false => rfl
  · rw [h, isAbsolute, isAbsolute, hparts]
    cases front with
    | nil =>
        have hnonempty : above ≠ "" := by
          rintro rfl
          exact nomatch habove
        simp [hnonempty]
    | cons first front =>
        have hlong : 0 < front.length + (idle.length + (rest.length + 1) + 1) := by omega
        simp [hlong]

end Path

/-! ## Directories on the way -/

variable {p : Path} {t t' : FileTree} {place : Place} {result : Except FileProblem Unit}

/-- Directories that are made leave those that there are. -/
theorem Extends.keeps (h : t.Extends t') : t.Keeps t' where
  current := h.current
  directories place hplace := by
    rcases h.nodes place with hsame | ⟨hnone, -⟩
    · exact hsame.trans hplace
    · exact nomatch hnone.symm.trans hplace

/-- What is at a place is as it was, or there was nothing and a directory has been made, as it is
    only where it may be. -/
def KeptOrMade (t t' : FileTree) (mayBe : Place → Prop) (place : Place) : Prop :=
  t'.node? place = t.node? place ∨
    t.node? place = none ∧ t'.node? place = some .directory ∧ mayBe place

theorem KeptOrMade.mono {mayBe mayBe' : Place → Prop} (h : t.KeptOrMade t' mayBe place)
    (hmay : mayBe place → mayBe' place) : t.KeptOrMade t' mayBe' place := by
  rcases h with hsame | ⟨hnone, hmade, hplace⟩
  · exact Or.inl hsame
  · exact Or.inr ⟨hnone, hmade, hmay hplace⟩

/-- A place on the way: some of the steps lead there, one of them at least. -/
def OnWay (t : FileTree) (start : Place) (names : List String) (place : Place) : Prop :=
  ∃ front, front <+: names ∧ front ≠ [] ∧ front.foldlM t.step start = .ok place

namespace OnWay

variable {start next : Place} {name : String} {rest : List String}

theorem first (hstep : t.step start name = .ok next) : t.OnWay start (name :: rest) next := by
  refine ⟨[name], List.cons_prefix_cons.mpr ⟨rfl, List.nil_prefix⟩, List.cons_ne_nil _ _, ?_⟩
  rw [List.foldlM_cons, hstep]
  rfl

theorem cons (hstep : t.step start name = .ok next) (h : t.OnWay next rest place) :
    t.OnWay start (name :: rest) place := by
  obtain ⟨front, hprefix, -, hfront⟩ := h
  refine ⟨name :: front, List.cons_prefix_cons.mpr ⟨rfl, hprefix⟩, List.cons_ne_nil _ _, ?_⟩
  rw [List.foldlM_cons, hstep]
  exact hfront

end OnWay

/-- **Directories are made on the way alone.** -/
theorem Making.onWay {names : List String} {start : Place}
    (h : t.Making start names result t') (place : Place) :
    t.KeptOrMade t' (t'.OnWay start names) place := by
  induction h with
  | done => exact Or.inl rfl
  | stopped => exact Or.inl rfl
  | @made t t' _ next _ _ _ hstep hnone hrest ih =>
      -- the steps that could be made before are made in the last tree as well
      have hstep' := (made hstep hnone hrest).keeps.step hstep
      by_cases hplace : place = next
      · have hroot : next ≠ [] := by
          rintro rfl
          cases hnone
        rw [hplace]
        exact Or.inr ⟨hnone, hrest.keeps.directories next (node_put_self t _ hroot), .first hstep'⟩
      · rw [KeptOrMade, node_put_other t _ hplace] at ih
        exact KeptOrMade.mono ih (.cons hstep')
  | there hstep _ hrest ih => exact ih.mono (.cons (hrest.keeps.step hstep))

/-- A place above the end of a path: some of its steps lead there, but not all. -/
def Above (t : FileTree) (p : Path) (place : Place) : Prop :=
  ∃ front name rest, p.steps = front ++ name :: rest ∧
    front.foldlM t.step (t.start p) = .ok place

/-- What is above the end of a path stays there while the directories are kept. -/
theorem Above.keeps (hkeeps : t.Keeps t') (h : t.Above p place) : t'.Above p place := by
  obtain ⟨front, name, rest, hsteps, hfront⟩ := h
  refine ⟨front, name, rest, hsteps, ?_⟩
  rw [hkeeps.start]
  exact hkeeps.steps hfront

/-- What is on the way to the parent of a path is above the end of the path. -/
theorem OnWay.above (h : t.OnWay (t.start p.parent) p.parent.steps place) : t.Above p place := by
  obtain ⟨front, ⟨more, hmore⟩, hnonempty, hfront⟩ := h
  rw [start, Path.isAbsolute_parent] at hfront
  rcases Path.steps_parent p with hnil | ⟨name, rest, hsteps⟩
  · rw [hnil] at hmore
    exact absurd (List.append_eq_nil_iff.mp hmore).1 hnonempty
  · rw [← hmore, List.append_assoc] at hsteps
    cases more with
    | nil => exact ⟨front, name, rest, hsteps, hfront⟩
    | cons second more => exact ⟨front, second, more ++ name :: rest, hsteps, hfront⟩

/-- **The directories that are made for a file are above the end of its path.** -/
theorem makeDirectories_above (h : t.makeDirectories p.parent = (result, t')) (place : Place) :
    t.KeptOrMade t' (t'.Above p) place := by
  have hmaking := making_of_makeDirectories h
  refine (hmaking.onWay place).mono fun hway => ?_
  rw [← hmaking.keeps.start] at hway
  exact hway.above

/-! ## Files on the way -/

/-- A path that leads to a place does so step by step. -/
theorem steps_of_place (h : t.place p = .ok place) :
    p.steps.foldlM t.step (t.start p) = .ok place := by
  rw [FileTree.place] at h
  cases hproblem : p.problem? with
  | some e =>
      rw [hproblem] at h
      cases h
  | none =>
      rw [hproblem] at h
      exact h

/-- A directory that is found is at the place that its path leads to. -/
theorem place_of_find (h : t.find p = .ok .directory) :
    ∃ place, t.place p = .ok place ∧ t.node? place = some .directory := by
  rw [find] at h
  obtain ⟨place, hplace, h⟩ := bind_eq_ok.mp h
  refine ⟨place, hplace, ?_⟩
  cases hnode : t.node? place with
  | none =>
      rw [hnode] at h
      cases h
  | some found =>
      cases found with
      | directory => rfl
      | file bs =>
          rw [hnode] at h
          dsimp only at h
          split at h
          · cases h
          · cases Except.ok.inj h

/-- **A path by which a file is written is free**: it does not end at a directory, and no place
    above its end is that of a file. -/
theorem write_free {content : List UInt8} {t'' : FileTree} (hextends : t.Extends t')
    (h : t'.write p content = .ok t'') : t.find p ≠ .ok .directory ∧
      ∀ place, t.Above p place → ∀ bytes, t.node? place ≠ some (.file bytes) := by
  obtain ⟨written, hwritten, -, hfree, -⟩ := write_eq_ok h
  have hkeeps := hextends.keeps
  constructor
  · intro hfind
    obtain ⟨place, hplace, hnode⟩ := place_of_find hfind
    obtain rfl := Except.ok.inj ((hkeeps.leads hplace).symm.trans hwritten)
    exact hfree (hkeeps.directories place hnode)
  · rintro place ⟨front, name, rest, hsteps, hfront⟩ bytes hfile
    have hall := steps_of_place hwritten
    rw [hsteps, List.foldlM_append, hkeeps.start, hkeeps.steps hfront] at hall
    have hrest : (name :: rest).foldlM t'.step place = .ok written := hall
    rw [List.foldlM_cons] at hrest
    obtain ⟨next, hstep, -⟩ := bind_eq_ok.mp hrest
    rcases hextends.nodes place with hsame | ⟨hnone, -⟩
    · exact nomatch (directory_of_step hstep).symm.trans (hsame.trans hfile)
    · exact nomatch hnone.symm.trans hfile

end FileTree

/-! ## Saving -/

namespace Settings

namespace Saving

variable {s : Settings} {p : FileTree.Path} {t t' : FileTree} {result : Except SettingsProblem Unit}

/-- Settings that are refused leave the tree as it is. -/
theorem refused {e : SettingsProblem} (h : Saving s p t result t')
    (wrong : (s.validate.bind fun _ => s.toToml) = .error e) : (result, t') = (.error e, t) := by
  cases h with
  | invalid hwrong =>
      rw [hwrong] at wrong
      rw [Except.error.inj wrong]
  | unwritten valid hwrong =>
      rw [valid] at wrong
      rw [Except.error.inj (hwrong.symm.trans wrong)]
  | noDirectory valid written _ =>
      rw [valid] at wrong
      exact nomatch written.symm.trans wrong
  | noFile valid written _ _ =>
      rw [valid] at wrong
      exact nomatch written.symm.trans wrong
  | saved valid written _ _ =>
      rw [valid] at wrong
      exact nomatch written.symm.trans wrong

/-- What goes wrong with settings that are not refused is with a directory or with the file. -/
theorem problem {e : SettingsProblem} {text : String} (h : Saving s p t (.error e) t')
    (valid : s.validate = .ok ()) (written : s.toToml = .ok text) :
    ∃ problem, e = .directory problem ∨ e = .unwritable problem := by
  cases h with
  | invalid wrong => exact nomatch valid.symm.trans wrong
  | unwritten _ wrong => exact nomatch written.symm.trans wrong
  | noDirectory _ _ _ => exact ⟨_, Or.inl rfl⟩
  | noFile _ _ _ _ => exact ⟨_, Or.inr rfl⟩

/-- A saving that fails has made directories above the end of its path, if anything. -/
theorem failed {e : SettingsProblem} (h : Saving s p t (.error e) t') (place : FileTree.Place) :
    t.KeptOrMade t' (t'.Above p) place := by
  cases h with
  | invalid _ => exact Or.inl rfl
  | unwritten _ _ => exact Or.inl rfl
  | noDirectory _ _ making => exact FileTree.makeDirectories_above making place
  | noFile _ _ making _ => exact FileTree.makeDirectories_above making place

/-- A saving that succeeds has written one file besides, with the document of the settings. -/
theorem succeeded (h : Saving s p t (.ok ()) t') :
    ∃ text place, s.toToml = .ok text ∧ t'.read p = .ok (Text.utf8 text.toList) ∧
      t'.place p = .ok place ∧ ∀ other, other ≠ place → t.KeptOrMade t' (t'.Above p) other := by
  cases h with
  | @saved text made _ valid written making writing =>
      have hkeeps := FileTree.write_keeps writing
      obtain ⟨place, hplace, -, -, hput⟩ := FileTree.write_eq_ok writing
      refine ⟨text, place, written, FileTree.read_write writing, hkeeps.leads hplace, ?_⟩
      intro other hother
      have hmade := FileTree.makeDirectories_above making other
      have hnode : t'.node? other = made.node? other := by
        rw [hput, FileTree.node_put_other _ _ hother]
      rw [FileTree.KeptOrMade, ← hnode] at hmade
      exact FileTree.KeptOrMade.mono hmade (.keeps hkeeps)

/-- A saving succeeds only by a path that is free. -/
theorem free (h : Saving s p t (.ok ()) t') : t.find p ≠ .ok .directory ∧
    ∀ place, t.Above p place → ∀ content, t.node? place ≠ some (.file content) := by
  cases h with
  | saved _ _ making writing =>
      exact FileTree.write_free (FileTree.makeDirectories_extends making) writing

end Saving

/-- A timeout that does not fit into 63 bits cannot be written. -/
theorem toToml_timeout {s : Settings} {n : Nat} (h : s.timeoutSecs = some n)
    (hlarge : maxInteger < n) : s.toToml = .error .timeoutTooLarge := by
  rw [toToml, h, if_pos (by simpa using hlarge)]

end Settings

/-- **A saving that is refused touches nothing, and one that fails loses nothing.**  Settings that
    are not valid, or have no document, as those with a timeout of 2 ^ 63 seconds and more, leave
    the whole tree as it is.  If something else goes wrong it is with a directory or with the
    file, as it does if the path ends at a directory or leads through a file; then every file is
    as it was, and directories may have been made above the end of the path where there was
    nothing.  If the saving succeeds the path leads to a file with the document of the settings,
    and at all other places there is what there was, but for such directories. -/
theorem refused_saving_spares (s : Settings) (path : String) (t : FileTree) :
    let p := FileTree.Path.ofText path
    let result := (s.save path t).1
    let t' := (s.save path t).2
    (∀ e, s.validate = .error e → s.save path t = (.error e, t)) ∧
    (∀ e, s.validate = .ok () → s.toToml = .error e → s.save path t = (.error e, t)) ∧
    (∀ n, s.timeoutSecs = some n → Settings.maxInteger < n →
      s.toToml = .error .timeoutTooLarge) ∧
    (t.find p = .ok .directory ∨
        (∃ place content, t.Above p place ∧ t.node? place = some (.file content)) →
      ∃ e, result = .error e) ∧
    (∀ e text, result = .error e → s.validate = .ok () → s.toToml = .ok text →
      ∃ problem, e = .directory problem ∨ e = .unwritable problem) ∧
    (∀ e, result = .error e → ∀ place, t.KeptOrMade t' (t'.Above p) place ∧
      ∀ content, t.node? place = some (.file content) →
        t'.node? place = some (.file content)) ∧
    (result = .ok () → ∃ text place, s.toToml = .ok text ∧
      t'.read p = .ok (Text.utf8 text.toList) ∧ t'.place p = .ok place ∧
      ∀ other, other ≠ place → t.KeptOrMade t' (t'.Above p) other) := by
  intro p result t'
  have hsaving : Settings.Saving s p t result t' := Settings.save_outcome s path t
  refine ⟨?_, ?_, fun n h hlarge => Settings.toToml_timeout h hlarge, ?_, ?_, ?_, ?_⟩
  · intro e hwrong
    exact hsaving.refused (by rw [hwrong]; rfl)
  · intro e hvalid hwrong
    exact hsaving.refused (by rw [hvalid]; exact hwrong)
  -- a saving that succeeds has found its path free
  · intro hoccupied
    cases hresult : result with
    | error e => exact ⟨e, rfl⟩
    | ok _ =>
        rw [hresult] at hsaving
        obtain ⟨hfind, habove⟩ := hsaving.free
        rcases hoccupied with hdirectory | ⟨place, content, hplace, hfile⟩
        · exact absurd hdirectory hfind
        · exact absurd hfile (habove place hplace content)
  · intro e text hresult hvalid htext
    rw [hresult] at hsaving
    exact hsaving.problem hvalid htext
  · intro e hresult place
    rw [hresult] at hsaving
    have hkept := hsaving.failed place
    -- where a directory was made there was nothing, so no file
    refine ⟨hkept, fun content hfile => ?_⟩
    rcases hkept with hsame | ⟨hnone, -⟩
    · exact hsame.trans hfile
    · exact nomatch hnone.symm.trans hfile
  · intro hresult
    rw [hresult] at hsaving
    exact hsaving.succeeded

/-- A path through a file: nothing is saved by it, and the file is as it was. -/
theorem refused_saving_spares_file :
    let content : List UInt8 := [0x78]
    let t := ({} : FileTree).put ["c.toml"] (.file content)
    (∃ e, (Settings.standard.save "c.toml/d.toml" t).1 = .error e) ∧
      (Settings.standard.save "c.toml/d.toml" t).2.node? ["c.toml"] = some (.file content) := by
  intro content t
  have hfile : t.node? ["c.toml"] = some (.file content) :=
    FileTree.node_put_self _ _ (List.cons_ne_nil _ _)
  have habove : t.Above (.ofText "c.toml/d.toml") ["c.toml"] :=
    ⟨["c.toml"], "d.toml", [], rfl, rfl⟩
  obtain ⟨-, -, -, hoccupied, -, hkept, -⟩ :=
    refused_saving_spares .standard "c.toml/d.toml" t
  obtain ⟨e, he⟩ := hoccupied (Or.inr ⟨_, content, habove, hfile⟩)
  exact ⟨⟨e, he⟩, (hkept e he _).2 content hfile⟩

end Postbox
