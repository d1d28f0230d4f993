import Postbox.Proofs.Parts

/-! # Arguments — what a command line says about the settings

    The arguments of a command stand at two levels, and only the one behind the name of the
    command for the settings knows the switch that has them written.  So this switch can be
    taken out of the arguments, and they say the same otherwise (`read_erase_write`). -/

namespace Postbox.CommandLine

/-- The level behind the command for the settings. -/
theorem tellsApart_write : (inner "config").TellsApart "write" := ⟨rfl, rfl, rfl⟩

/-- The level before a command does not know the switch. -/
theorem outer_never_write (b : Bool) (g : Given) (s : Bool × Given) :
    outer.step (b, g) "--write" ≠ .ok s := by
  have ht : outer.TellsApart "write" := ⟨rfl, rfl, rfl⟩
  obtain ⟨b', g'⟩ := s
  intro h
  exact nomatch (Level.step_switch ht h).2.2.1

/-- The command for the settings has its name, and the switch tells what is done with them. -/
theorem commandOf_config {name : String} {g : Given} {write : Bool}
    (h : commandOf name g = .ok (.config write)) :
    name = "config" ∧ g.switches.contains "write" = write := by
  unfold commandOf at h
  split at h
  · split at h
    · exact nomatch Except.ok.inj h
    · exact nomatch h
  · split at h
    · exact nomatch Except.ok.inj h
    · exact nomatch h
  · exact ⟨rfl, Command.config.inj (Except.ok.inj h)⟩
  · exact nomatch Except.ok.inj h

/-- A command line for the settings is read level by level. -/
theorem read_config {args rest : List String} {before : Given}
    (h : outer.scan false {} args = .ok (before, some ("config", rest))) : read args
      = ((rest.foldlM (inner "config").step (false, {})).bind fun s => complete s.2).bind
        fun behind => (complete before).map fun before =>
          ofLevels (some (.config (behind.switches.contains "write"))) before behind := by
  rw [read, h]
  dsimp only [bind, Except.bind]
  rw [if_neg (by decide), Level.scan_eq_steps rfl]
  cases rest.foldlM (inner "config").step (false, {}) with
  | error u => rfl
  | ok s =>
      dsimp only [Except.map]
      cases complete s.2 with
      | error u => rfl
      | ok behind =>
          cases complete before with
          | error u => rfl
          | ok before => rfl

/-- What is read as a command for the settings has been given at two levels. -/
theorem config_of_read {args : List String} {c : CommandLine} {write : Bool}
    (h : read args = .ok c) (hcommand : c.command = some (.config write)) :
    ∃ before rest, outer.scan false {} args = .ok (before, some ("config", rest)) := by
  rw [read] at h
  obtain ⟨⟨before, behind?⟩, hscan, h⟩ := bind_eq_ok.mp h
  cases behind? with
  | none =>
      obtain ⟨g, -, h⟩ := bind_eq_ok.mp h
      rw [← Except.ok.inj h] at hcommand
      cases hcommand
  | some p =>
      obtain ⟨name, rest⟩ := p
      refine ⟨before, rest, ?_⟩
      dsimp only at h
      split at h
      · cases h
      · obtain ⟨⟨given, ended⟩, -, h⟩ := bind_eq_ok.mp h
        obtain ⟨behind, -, h⟩ := bind_eq_ok.mp h
        obtain ⟨command, hof, h⟩ := bind_eq_ok.mp h
        obtain ⟨before', -, h⟩ := bind_eq_ok.mp h
        rw [← Except.ok.inj h] at hcommand
        rw [Option.some.inj hcommand] at hof
        rw [hscan, (commandOf_config hof).1]

/-- **Without the switch a command line says the same**, but that the settings are shown and
    not written. -/
theorem read_erase_write {args : List String} {c : CommandLine} (h : read args = .ok c)
    (hwrite : c.command = some (.config true)) :
    read (args.erase "--write") = .ok { c with command := some (.config false) } := by
  obtain ⟨before, rest, hscan⟩ := config_of_read h hwrite
  obtain ⟨front, rfl, hfront, hbehind⟩ := Level.scan_front outer_never_write hscan
  rw [read_config hscan] at h
  obtain ⟨behind, hsteps, h⟩ := bind_eq_ok.mp h
  obtain ⟨before', hbefore, rfl⟩ := map_eq_ok h
  have hset : behind.switches.contains "write" = true :=
    Command.config.inj (Option.some.inj hwrite)
  -- only behind the command is the switch read, so the first one is the one taken out
  have herased := Level.steps_erase tellsApart_write List.not_mem_nil hsteps (by simpa using hset)
  have hargs : (front ++ "config" :: rest).erase "--write"
      = front ++ "config" :: rest.erase "--write" := by
    rw [List.erase_append_right _ hfront, List.erase_cons_tail (by decide)]
  rw [hargs, read_config (hbehind _)]
  show Except.bind (Except.bind ((rest.erase ("--" ++ "write")).foldlM _ _) _) _ = _
  rw [herased, hbefore]
  refine congrArg Except.ok ?_
  have hunset : (behind.without "write").switches.contains "write" = false := by
    simp [Given.without]
  have hdebug : (behind.without "write").switches.contains "debug"
      = behind.switches.contains "debug" := by
    rw [Given.without, Bool.eq_iff_iff]
    simp
  unfold ofLevels
  rw [hunset, hdebug]
  rfl

/-- **Every path can be named on the command line** but the empty one. -/
theorem read_at {path : String} (h : path ≠ "") : read ["--config=" ++ path, "config"]
    = .ok { command := some (.config false), configFile := some path } := by
  let p : Parts := ⟨[.joined "config" path], "config", [], []⟩
  have hcheck : Given.check "config" path = .ok () := by
    rw [Given.check, if_neg (by simpa using h)]
    rfl
  have hknown : "config" ∈ outer.commands := by decide
  have hother : "config" ≠ "help" := by decide
  have hp : p.Taken :=
    { before := ⟨List.forall_mem_singleton.mpr ⟨by decide, hcheck⟩,
        List.nodup_cons.mpr ⟨List.not_mem_nil, List.nodup_nil⟩, Nat.le_refl 0⟩
      known := ⟨hknown, hother⟩
      behind := ⟨List.forall_mem_nil _, List.nodup_nil, Nat.le_refl 0⟩
      tail := ⟨_, .done⟩ }
  exact hp.read

end Postbox.CommandLine
