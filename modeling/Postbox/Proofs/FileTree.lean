import Postbox.FileTree
import Postbox.Proofs.Steps

/-! # Files — what is written is found

    A path is followed through directories.  A file is written only at a place that is
    none, so no path goes on from there, and a path that could be followed before the
    file was written leads to the same place afterwards (`Keeps.leads`).  The path by
    which a file is written therefore leads to it (`find_write`).

    Directories are made one after the other, where there is nothing (`Making`): what can be
    said of them is shown along such a course, as that those which were there are kept.  So
    the directories that were made on the way to a file are there when they are to be made
    again (`makeDirectories_again`), and to write the file a second time changes nothing
    (`write_again`). -/

namespace Postbox.FileTree

variable {t t' : FileTree} {place : Place} {node : Node}

/-! ## One place -/

/-- What is put at a place is there, if it is not the root. -/
theorem node_put_self (t : FileTree) (node : Node) (h : place ≠ []) :
    (t.put place node).node? place = some node := by
  rw [node?, List.isEmpty_eq_false_iff.mpr h, put]
  exact Std.HashMap.getElem?_insert_self

/-- What is put at a place leaves all others. -/
theorem node_put_other (t : FileTree) (node : Node) {other : Place} (h : other ≠ place) :
    (t.put place node).node? other = t.node? other := by
  have hput : (t.nodes.insert place node)[other]? = t.nodes[other]? := by
    rw [Std.HashMap.getElem?_insert, if_neg (by simpa using Ne.symm h)]
  rw [node?, node?, put, hput]

/-! ## Following paths -/

/-- Steps start at directories. -/
theorem directory_of_step {start next : Place} {name : String} (h : t.step start name = .ok next) :
    t.node? start = some .directory := by
  rw [step] at h
  cases hnode : t.node? start with
  | none =>
      rw [hnode] at h
      exact nomatch h
  | some found =>
      cases found with
      | directory => rfl
      | file bs =>
          rw [hnode] at h
          exact nomatch h

/-- Another tree has all directories of a tree, and the same working directory. -/
structure Keeps (t t' : FileTree) : Prop where
  current : t'.current = t.current
  directories : ∀ place, t.node? place = some .directory → t'.node? place = some .directory

/-- What is put at a place that is no directory leaves the directories. -/
theorem keeps_put (hplace : t.node? place ≠ some .directory) : t.Keeps (t.put place node) where
  current := rfl
  directories := by
    intro other hother
    rw [node_put_other t node]
    · exact hother
    · rintro rfl
      exact hplace hother

namespace Keeps

theorem trans {t₁ t₂ t₃ : FileTree} (h : t₁.Keeps t₂) (h' : t₂.Keeps t₃) : t₁.Keeps t₃ where
  current := h'.current.trans h.current
  directories place hplace := h'.directories place (h.directories place hplace)

/-- A step that could be made is made the same way while the directories are kept. -/
theorem step (h : t.Keeps t') {start next : Place} {name : String}
    (hstep : t.step start name = .ok next) : t'.step start name = .ok next := by
  have hstart := directory_of_step hstep
  rw [FileTree.step, hstart] at hstep
  rw [FileTree.step, h.directories start hstart]
  exact hstep

/-- Steps that could be made one after the other are made the same way. -/
theorem steps (h : t.Keeps t') {names : List String} {start last : Place}
    (hsteps : names.foldlM t.step start = .ok last) : names.foldlM t'.step start = .ok last := by
  induction names generalizing start with
  | nil => exact hsteps
  | cons name names ih =>
      rw [List.foldlM_cons] at hsteps ⊢
      obtain ⟨next, hstep, hrest⟩ := bind_eq_ok.mp hsteps
      rw [h.step hstep]
      exact ih hrest

/-- A path starts where it started. -/
theorem start (h : t.Keeps t') (p : Path) : t'.start p = t.start p := by
  rw [FileTree.start, FileTree.start, h.current]

/-- **A path leads where it led before**, while the directories are kept. -/
theorem leads (h : t.Keeps t') {p : Path} {last : Place} (hlast : t.place p = .ok last) :
    t'.place p = .ok last := by
  rw [FileTree.place] at hlast ⊢
  cases hproblem : p.problem? with
  | some e =>
      rw [hproblem] at hlast
      exact nomatch hlast
  | none =>
      rw [hproblem] at hlast
      rw [h.start]
      exact h.steps hlast

end Keeps

/-! ## Writing -/

/-- What is needed to write a file, and what is done then. -/
theorem write_eq_ok {p : Path} {content : List UInt8} (h : t.write p content = .ok t') :
    ∃ place, t.place p = .ok place ∧ p.isDirectory = false ∧ t.node? place ≠ some .directory
      ∧ t' = t.put place (.file content) := by
  rw [write] at h
  obtain ⟨place, hplace, h⟩ := bind_eq_ok.mp h
  refine ⟨place, hplace, ?_⟩
  split at h
  · exact nomatch h
  · rename_i hfree
    rw [Bool.or_eq_true, not_or, Bool.not_eq_true, beq_iff_eq] at hfree
    exact ⟨hfree.1, hfree.2, (Except.ok.inj h).symm⟩

/-- Writing a file keeps the directories. -/
theorem write_keeps {p : Path} {content : List UInt8} (h : t.write p content = .ok t') :
    t.Keeps t' := by
  obtain ⟨place, -, -, hfree, rfl⟩ := write_eq_ok h
  exact keeps_put hfree

/-- **The path by which a file is written leads to it.** -/
theorem find_write {p : Path} {content : List UInt8} (h : t.write p content = .ok t') :
    t'.find p = .ok (.file content) := by
  obtain ⟨place, hplace, hfile, hfree, rfl⟩ := write_eq_ok h
  have hroot : place ≠ [] := by
    rintro rfl
    exact hfree rfl
  rw [find, (write_keeps h).leads hplace]
  dsimp only [bind, Except.bind]
  rw [node_put_self t _ hroot]
  dsimp only
  rw [hfile]
  rfl

/-- A file is read as it was written. -/
theorem read_write {p : Path} {content : List UInt8} (h : t.write p content = .ok t') :
    t'.read p = .ok content := by
  rw [read, find_write h]
  rfl

/-- A file that is read is there. -/
theorem exists_of_read {p : Path} {content : List UInt8} (h : t.read p = .ok content) :
    t.exists? p = true := by
  rw [read] at h
  obtain ⟨node, hfind, -⟩ := bind_eq_ok.mp h
  rw [exists?, hfind]
  rfl

/-! ## Making directories -/

/-- Some steps lead from directory to directory. -/
def Walks (t : FileTree) : Place → List String → Prop
  | _, [] => True
  | place, name :: rest =>
    ∃ next, t.step place name = .ok next ∧ t.node? next = some .directory ∧ t.Walks next rest

/-- Steps lead from directory to directory while the directories are kept. -/
theorem Keeps.walks (h : t.Keeps t') {names : List String} (hwalks : t.Walks place names) :
    t'.Walks place names := by
  induction names generalizing place with
  | nil => trivial
  | cons name rest ih =>
      obtain ⟨next, hstep, hnext, hrest⟩ := hwalks
      exact ⟨next, h.step hstep, h.directories next hnext, ih hrest⟩

/-- How the directories that some steps lead through are made, one after the other: a step leads to
    where there is nothing, and a directory is made, or to a directory. What cannot be done ends
    it, and all that has been made by then stays. -/
inductive Making : FileTree → Place → List String → Except FileProblem Unit → FileTree → Prop
  | done (t : FileTree) (place : Place) : Making t place [] (.ok ()) t
  | stopped (t : FileTree) (place : Place) (names : List String) (e : FileProblem) :
      Making t place names (.error e) t
  | made {t t' : FileTree} {place next : Place} {name : String} {names : List String}
      {result : Except FileProblem Unit} (hstep : t.step place name = .ok next)
      (hnone : t.node? next = none) (hrest : Making (t.put next .directory) next names result t') :
      Making t place (name :: names) result t'
  | there {t t' : FileTree} {place next : Place} {name : String} {names : List String}
      {result : Except FileProblem Unit} (hstep : t.step place name = .ok next)
      (hnode : t.node? next = some .directory) (hrest : Making t next names result t') :
      Making t place (name :: names) result t'

/-- Directories are made in this way. -/
theorem making_of_makeFrom {hasMade : Bool} {names : List String}
    {result : Except FileProblem Unit} (h : makeFrom place hasMade names t = (result, t')) :
    t.Making place names result t' := by
  induction names generalizing place hasMade t with
  | nil =>
      obtain ⟨rfl, rfl⟩ := Prod.mk.inj h
      exact .done t place
  | cons name rest ih =>
      rw [makeFrom] at h
      cases hstep : t.step place name with
      | error e =>
          rw [hstep] at h
          obtain ⟨rfl, rfl⟩ := Prod.mk.inj h
          exact .stopped t place _ e
      | ok next =>
          rw [hstep] at h
          dsimp only at h
          cases hnode : t.node? next with
          | none =>
              rw [hnode] at h
              exact .made hstep hnode (ih h)
          | some found =>
              rw [hnode] at h
              cases found with
              | directory => exact .there hstep hnode (ih h)
              | file bs =>
                  dsimp only at h
                  split at h
                  · obtain ⟨rfl, rfl⟩ := Prod.mk.inj h
                    exact .stopped t place _ .alreadyExists
                  · -- a file in the way is passed over, but there is no step from it
                    rename_i hpassed
                    cases rest with
                    | nil => exact absurd (by simp) hpassed
                    | cons second rest =>
                        rw [makeFrom, step, hnode] at h
                        obtain ⟨rfl, rfl⟩ := Prod.mk.inj h
                        exact .stopped t place _ .notADirectory

/-- The directories of a path are made in this way. -/
theorem making_of_makeDirectories {p : Path} {result : Except FileProblem Unit}
    (h : t.makeDirectories p = (result, t')) : t.Making (t.start p) p.steps result t' := by
  rw [makeDirectories] at h
  cases hproblem : p.problem? with
  | some e =>
      rw [hproblem] at h
      obtain ⟨rfl, rfl⟩ := Prod.mk.inj h
      exact .stopped t _ _ e
  | none =>
      rw [hproblem] at h
      exact making_of_makeFrom h

namespace Making

variable {names : List String} {result : Except FileProblem Unit}

/-- Directories that are there are kept. -/
theorem keeps (h : t.Making place names result t') : t.Keeps t' := by
  induction h with
  | done => exact ⟨rfl, fun _ hplace => hplace⟩
  | stopped => exact ⟨rfl, fun _ hplace => hplace⟩
  | made _ hnone _ ih =>
      refine (keeps_put ?_).trans ih
      rw [hnone]
      exact nofun
  | there _ _ _ ih => exact ih

/-- **Directories that were made are there**, all along the way. -/
theorem walks (h : t.Making place names (.ok ()) t') : t'.Walks place names := by
  generalize hresult : (Except.ok () : Except FileProblem Unit) = result at h
  induction h with
  | done => trivial
  | stopped => exact nomatch hresult
  | @made t _ _ next _ _ _ hstep hnone hrest ih =>
      have hroot : next ≠ [] := by
        rintro rfl
        exact nomatch hnone
      exact ⟨next, (made hstep hnone hrest).keeps.step hstep,
        hrest.keeps.directories next (node_put_self t .directory hroot), ih hresult⟩
  | @there _ _ _ next _ _ _ hstep hnode hrest ih =>
      exact ⟨next, hrest.keeps.step hstep, hrest.keeps.directories next hnode, ih hresult⟩

end Making

/-- Where the directories are there already, none is made. -/
theorem makeFrom_again {names : List String} (h : t.Walks place names) (hasMade : Bool) :
    makeFrom place hasMade names t = (.ok (), t) := by
  induction names generalizing place with
  | nil => rfl
  | cons name rest ih =>
      obtain ⟨next, hstep, hnext, hrest⟩ := h
      rw [makeFrom, hstep]
      dsimp only
      rw [hnext]
      exact ih hrest

/-- **Directories that were made are not made again**, as long as they are kept. -/
theorem makeDirectories_again {p : Path} {made : FileTree}
    (h : t.makeDirectories p = (.ok (), made)) (hkeeps : made.Keeps t') :
    t'.makeDirectories p = (.ok (), t') := by
  have hmaking := making_of_makeDirectories h
  rw [makeDirectories] at h ⊢
  cases hproblem : p.problem? with
  | some e =>
      rw [hproblem] at h
      exact nomatch h
  | none =>
      rw [(hmaking.keeps.trans hkeeps).start]
      exact makeFrom_again (hkeeps.walks hmaking.walks) false

/-! ## Writing again -/

/-- Two trees have the same at all places, and the same working directory. -/
structure Same (t t' : FileTree) : Prop where
  current : t'.current = t.current
  nodes : ∀ place, t'.node? place = t.node? place

/-- A path leads to the same in both trees. -/
theorem Same.find (h : t.Same t') (p : Path) : t'.find p = t.find p := by
  have hstep : t'.step = t.step := by
    funext place name
    rw [step, step, h.nodes]
  have hplace : t'.place p = t.place p := by
    rw [place, place, start, start, h.current, hstep]
  rw [FileTree.find, FileTree.find, hplace]
  cases t.place p with
  | error e => rfl
  | ok place =>
      dsimp only [bind, Except.bind]
      rw [h.nodes]

/-- The same is read in both trees. -/
theorem Same.read (h : t.Same t') (p : Path) : t'.read p = t.read p := by
  rw [FileTree.read, FileTree.read, h.find]

/-- **A file that is written a second time is the same**, and so is all the rest. -/
theorem write_again {p : Path} {content : List UInt8} (h : t.write p content = .ok t') :
    ∃ t'', t'.write p content = .ok t'' ∧ t'.Same t'' := by
  obtain ⟨place, hplace, hfile, hfree, rfl⟩ := write_eq_ok h
  have hroot : place ≠ [] := by
    rintro rfl
    exact hfree rfl
  have hnode := node_put_self t (.file content) hroot
  refine ⟨(t.put place (.file content)).put place (.file content), ?_, rfl, fun other => ?_⟩
  · rw [write, (write_keeps h).leads hplace]
    dsimp only [bind, Except.bind]
    rw [hfile, hnode]
    rfl
  · by_cases hother : other = place
    · rw [hother, node_put_self _ _ hroot, node_put_self _ _ hroot]
    · rw [node_put_other _ _ hother]

/-! ## A first file -/

/-- A place in the working directory where there is nothing yet. -/
theorem place_first : ({} : FileTree).place (.ofText "c.toml") = .ok ["c.toml"] ∧
    ({} : FileTree).node? ["c.toml"] = none :=
  ⟨rfl, Std.HashMap.getElem?_empty⟩

/-- There is no file yet. -/
theorem exists_first : ({} : FileTree).exists? (.ofText "c.toml") = false := by
  rw [exists?, find, place_first.1]
  dsimp only [bind, Except.bind]
  rw [place_first.2]
  rfl

/-- A file in the working directory is written where there is nothing yet. -/
theorem write_first (content : List UInt8) :
    ({} : FileTree).write (.ofText "c.toml") content
      = .ok (({} : FileTree).put ["c.toml"] (.file content)) := by
  rw [write, place_first.1]
  dsimp only [bind, Except.bind]
  rw [place_first.2]
  rfl

end Postbox.FileTree
