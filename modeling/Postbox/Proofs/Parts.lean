import Postbox.Proofs.Items

/-! # Parts — the arguments before a command and behind it

    A command line is made of two levels, and each takes items (`Level.whole_eq_ok`): those
    before the command are general, those behind it are general or the command's own.  What is
    read depends on the two levels as wholes alone (`read_alone`, `read_command`). -/

namespace Postbox.CommandLine

variable {c : CommandLine} {g g₁ before behind : Given}

/-! ## The two levels -/

/-- The names of the level before a command can be told apart. -/
theorem outer_proper : outer.Proper where
  names := by
    have hall : ∀ name ∈ outer.switches ++ outer.options, name ≠ "" ∧ '=' ∉ name.toList := by
      decide
    exact fun name h => hall name (List.mem_append.mpr h)
  switches := by decide
  commands := by
    intro name h
    simp only [outer, List.mem_cons, List.not_mem_nil, or_false] at h
    rcases h with rfl | rfl | rfl | rfl | rfl
    · rfl
    · rfl
    · rfl
    · rfl
    · rfl

/-- The switches behind a command are the general ones, and the command's own. -/
theorem mem_switches {command name : String} : name ∈ (inner command).switches ↔
    name ∈ generalSwitches ∨ command = "config" ∧ name = "write" := by
  show name ∈ generalSwitches ++ _ ↔ _
  rw [List.mem_append]
  split
  · rename_i hcommand
    simp [eq_of_beq hcommand]
  · rename_i hcommand
    simp [show command ≠ "config" by simpa using hcommand]

/-- The options behind a command are the general ones, and the command's own. -/
theorem mem_options {command name : String} : name ∈ (inner command).options ↔
    name ∈ generalOptions ∨ command = "compose" ∧ (name = "text" ∨ name = "summary") := by
  show name ∈ generalOptions ++ _ ↔ _
  rw [List.mem_append]
  split
  · rename_i hcommand
    simp [eq_of_beq hcommand]
  · rename_i hcommand
    simp [show command ≠ "compose" by simpa using hcommand]

/-- The names of the level behind a command can be told apart. -/
theorem inner_proper (command : String) : (inner command).Proper where
  names := by
    have hall : ∀ name ∈ generalSwitches ++ ["write"] ++ generalOptions ++ ["text", "summary"],
        name ≠ "" ∧ '=' ∉ name.toList := by decide
    intro name h
    rw [mem_switches, mem_options] at h
    refine hall name ?_
    rcases h with (h | ⟨-, rfl⟩) | h | ⟨-, rfl | rfl⟩
    · simp [h]
    · simp
    · simp [h]
    · simp
    · simp
  switches := by
    have hall : ∀ name ∈ generalSwitches ++ ["write"],
        name ∉ generalOptions ++ ["text", "summary"] ∧ name ≠ "help" ∧ name ≠ "version" := by
      decide
    intro name h
    have hname : name ∈ generalSwitches ++ ["write"] := by
      rcases mem_switches.mp h with h | ⟨-, rfl⟩
      · simp [h]
      · simp
    obtain ⟨hoption, hothers⟩ := hall name hname
    refine ⟨fun hmem => hoption ?_, hothers⟩
    rcases mem_options.mp hmem with h | ⟨-, rfl | rfl⟩
    · simp [h]
    · simp
    · simp
  commands := nofun

/-- Of the CSRF header's two options both are given or none. -/
def Given.Paired (g : Given) : Prop :=
  (g.get? "csrf-header").isSome = (g.get? "csrf-token").isSome

/-- The check of a level that has been read to its end. -/
def Given.checkPair (g : Given) : Except Usage Unit :=
  if (g.get? "csrf-header").isSome != (g.get? "csrf-token").isSome then .error .missingArgument
  else .ok ()

theorem Given.checkPair_eq_ok : g.checkPair = .ok () ↔ g.Paired := by
  rw [checkPair, Paired]
  split
  · rename_i hne
    exact ⟨nofun, fun h => absurd h (bne_iff_ne.mp hne)⟩
  · rename_i heq
    exact ⟨fun _ => by simpa using heq, fun _ => rfl⟩

theorem Given.checkPair_eq_error (h : ¬ g.Paired) : g.checkPair = .error .missingArgument := by
  rw [checkPair, if_pos (bne_iff_ne.mpr h)]

/-- A level is complete if it has been read to its end, and passes the check. -/
theorem complete_of_settle (h : g.settle = .ok g₁) :
    complete g = g₁.checkPair.map fun _ => g₁ := by
  rw [complete, h, Given.checkPair]
  dsimp only [bind, Except.bind]
  split
  · rfl
  · rfl

section

variable {args : List String}

/-- A command line without a command is checked when it has been read to its end. -/
theorem read_alone (h : outer.whole false {} args = .ok (before, none)) :
    read args = before.checkPair.map fun _ => ofLevels none before {} := by
  obtain ⟨g, hscan, hsettle⟩ := Level.whole_iff_scan.mp h
  rw [read, hscan]
  dsimp only [bind, Except.bind]
  rw [complete_of_settle hsettle]
  cases before.checkPair with
  | error u => rfl
  | ok _ => rfl

/-- **A command line with a command is checked level by level**, that behind the command first. -/
theorem read_command {name : String} {rest : List String} {ended : Option (String × List String)}
    (houter : outer.whole false {} args = .ok (before, some (name, rest))) (hname : name ≠ "help")
    (hinner : (inner name).whole false {} rest = .ok (behind, ended)) :
    read args = behind.checkPair.bind fun _ => (commandOf name behind).bind fun command =>
      before.checkPair.map fun _ => ofLevels (some command) before behind := by
  obtain ⟨g, hscan, hsettle⟩ := Level.whole_iff_scan.mp houter
  obtain ⟨g', hscan', hsettle'⟩ := Level.whole_iff_scan.mp hinner
  rw [read, hscan]
  dsimp only [bind, Except.bind]
  rw [if_neg (by simpa using hname), hscan']
  dsimp only
  rw [complete_of_settle hsettle, complete_of_settle hsettle']
  -- the command's own options are looked at before those in front of it
  cases behind.checkPair with
  | error u => rfl
  | ok _ =>
      dsimp only [Except.map]
      cases commandOf name behind with
      | error u => rfl
      | ok command =>
          dsimp only
          cases before.checkPair with
          | error u => rfl
          | ok _ => rfl

/-- What was read was taken level by level. -/
theorem whole_of_read (h : read args = .ok c) :
    (∃ before, outer.whole false {} args = .ok (before, none)) ∨
      ∃ before name rest behind, outer.whole false {} args = .ok (before, some (name, rest)) ∧
        name ≠ "help" ∧ (inner name).whole false {} rest = .ok (behind, none) := by
  have hsettled : ∀ {g g' : Given}, complete g = .ok g' → ∃ g₁, g.settle = .ok g₁ := by
    intro g g' hcomplete
    obtain ⟨g₁, hsettle, -⟩ := bind_eq_ok.mp hcomplete
    exact ⟨g₁, hsettle⟩
  rw [read] at h
  obtain ⟨⟨g, ended⟩, hscan, h⟩ := bind_eq_ok.mp h
  cases ended with
  | none =>
      obtain ⟨_, hcomplete, -⟩ := bind_eq_ok.mp h
      obtain ⟨before, hsettle⟩ := hsettled hcomplete
      exact Or.inl ⟨before, Level.whole_iff_scan.mpr ⟨g, hscan, hsettle⟩⟩
  | some found =>
      obtain ⟨name, rest⟩ := found
      dsimp only at h
      split at h
      · exact nomatch h
      · rename_i hname
        obtain ⟨⟨g', ended⟩, hscan', h⟩ := bind_eq_ok.mp h
        obtain ⟨_, hcomplete', h⟩ := bind_eq_ok.mp h
        obtain ⟨_, -, h⟩ := bind_eq_ok.mp h
        obtain ⟨_, hcomplete, -⟩ := bind_eq_ok.mp h
        obtain ⟨before, hsettle⟩ := hsettled hcomplete
        obtain ⟨behind, hsettle'⟩ := hsettled hcomplete'
        -- there is no command behind a command
        have hnone : ended = none := by
          rw [Level.scan_eq_steps rfl] at hscan'
          obtain ⟨s, -, heq⟩ := map_eq_ok hscan'
          exact (Prod.mk.inj heq).2.symm
        subst hnone
        exact Or.inr ⟨before, name, rest, behind,
          Level.whole_iff_scan.mpr ⟨g, hscan, hsettle⟩, by simpa using hname,
          Level.whole_iff_scan.mpr ⟨g', hscan', hsettle'⟩⟩

end

/-! ## The parts of a command line -/

/-- The parts of a command line with a command: the items before the command, its name, the items
    behind it, and what ends them. -/
structure Parts where
  before : List Item
  name   : String
  behind : List Item
  tail   : List String

namespace Parts

/-- The arguments of a command line. -/
def args (p : Parts) : List String :=
  p.before.flatMap Item.args ++ p.name :: (p.behind.flatMap Item.args ++ p.tail)

/-- What is given behind the command: a value of the level may stand behind two hyphens, too. -/
def given (p : Parts) : Given :=
  { Given.ofItems p.behind with
    value := (p.behind.filterMap Item.value? ++ p.tail.tail).head? }

/-- Both levels take what they are given. -/
structure Taken (p : Parts) : Prop where
  before : outer.Takes p.before
  known : p.name ∈ outer.commands ∧ p.name ≠ "help"
  behind : (inner p.name).Takes p.behind
  tail : ∃ g, (inner p.name).Ends p.behind p.tail g none

variable {p : Parts}

theorem given_of_ends (h : (inner p.name).Ends p.behind p.tail g none) : g = p.given := by
  rw [given]
  generalize p.tail = tail at h ⊢
  cases h with
  | done => rw [List.tail_nil, List.append_nil]; rfl
  | hyphens => rw [List.tail_cons, List.append_nil]; rfl
  | value takes free text =>
      have hnil : p.behind.filterMap Item.value? = [] := List.head?_eq_none_iff.mp free
      rw [hnil]
      rfl

/-- **Parts that are taken are read** as what they stand for, once both levels are checked. -/
theorem Taken.read (h : p.Taken) : CommandLine.read p.args
    = p.given.checkPair.bind fun _ => (commandOf p.name p.given).bind fun command =>
        (Given.ofItems p.before).checkPair.map fun _ =>
          ofLevels (some command) (.ofItems p.before) p.given := by
  obtain ⟨g, hends⟩ := h.tail
  have houter : outer.whole false {} p.args
      = .ok (.ofItems p.before, some (p.name, p.behind.flatMap Item.args ++ p.tail)) :=
    (Level.whole_eq_ok outer_proper).mpr ⟨p.before, _, rfl, h.before, .command h.known.1 _⟩
  have hinner : (inner p.name).whole false {} (p.behind.flatMap Item.args ++ p.tail)
      = .ok (g, none) :=
    (Level.whole_eq_ok (inner_proper p.name)).mpr ⟨p.behind, p.tail, rfl, h.behind, hends⟩
  rw [read_command houter h.known.2 hinner, given_of_ends hends]

end Parts

/-- **What is read has parts that are taken**, or it has no command. -/
theorem parts_of_read {args : List String} (h : read args = .ok c) :
    (∃ items tail g, args = items.flatMap Item.args ++ tail ∧ outer.Takes items ∧
        outer.Ends items tail g none) ∨
      ∃ p : Parts, p.Taken ∧ args = p.args := by
  rcases whole_of_read h with ⟨before, hwhole⟩ | ⟨before, name, rest, behind, houter, hname, hinner⟩
  · obtain ⟨items, tail, hargs, htakes, hends⟩ := (Level.whole_eq_ok outer_proper).mp hwhole
    exact Or.inl ⟨items, tail, before, hargs, htakes, hends⟩
  · obtain ⟨items, tail, rfl, htakes, hends⟩ := (Level.whole_eq_ok outer_proper).mp houter
    obtain ⟨items', tail', hrest, htakes', hends'⟩ :=
      (Level.whole_eq_ok (inner_proper name)).mp hinner
    cases hends with
    | command known _ =>
        exact Or.inr ⟨⟨items, name, items', tail'⟩,
          ⟨htakes, ⟨known, hname⟩, htakes', behind, hends'⟩, by rw [hrest]; rfl⟩

end Postbox.CommandLine
