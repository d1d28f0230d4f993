import Postbox.Proofs.Shape
import Postbox.Proofs.Steps

/-! # Levels — a switch is read by itself

    A level is read argument by argument (`Level.step`, `Level.scan_cons`).  What a level has
    been given is the switches beside all the rest, and no argument looks at a switch but the
    one that sets it.  So a switch can be taken out of the arguments of a level, and they say
    the same otherwise (`Level.steps_erase`).

    The only trace that a switch leaves among the options is that the option in front of it
    is looked at when the switch comes.  Without the switch that happens later, and by the end
    of the level at the latest, with the same result (`steps_settle`). -/

namespace Postbox.CommandLine

namespace Given

/-! ## What has been given -/

/-- The same without a switch. -/
def without (name : String) (g : Given) : Given :=
  { g with switches := g.switches.filter (· != name) }

variable {g g' : Given} {name value switch : String}

/-- An option that is added changes the values alone, and does not ask for the switches. -/
theorem add_without (switch name value : String) (g : Given) :
    (g.without switch).add name value = (g.add name value).map (without switch) := by
  rw [add, add, show (g.without switch).get? name = g.get? name from rfl]
  cases (g.get? name).isSome with
  | true => rfl
  | false =>
      dsimp only [bind, Except.bind]
      cases check name value with
      | error u => rfl
      | ok _ => rfl

/-- What is left when an option was added. -/
theorem add_eq_ok (h : g.add name value = .ok g') :
    g' = { g with values := g.values ++ [(name, value)] } := by
  rw [add] at h
  split at h
  · exact nomatch h
  · obtain ⟨_, -, h⟩ := bind_eq_ok.mp h
    exact (Except.ok.inj h).symm

/-- The pending option is looked at without asking for the switches. -/
theorem settle_without (switch : String) (g : Given) :
    (g.without switch).settle = g.settle.map (without switch) := by
  rw [settle, settle, show (g.without switch).pending = g.pending from rfl]
  cases g.pending with
  | none => rfl
  | some p =>
      obtain ⟨name, value⟩ := p
      cases value with
      | none => rfl
      | some value => exact add_without switch name value { g with pending := none }

/-- When the pending option has been looked at there is none, and switches and value are the
    same. -/
theorem settle_eq_ok (h : g.settle = .ok g') :
    g'.pending = none ∧ g'.switches = g.switches ∧ g'.value = g.value := by
  rw [settle] at h
  cases hpending : g.pending with
  | none =>
      rw [hpending] at h
      obtain rfl := Except.ok.inj h
      exact ⟨hpending, rfl, rfl⟩
  | some p =>
      obtain ⟨name, value⟩ := p
      rw [hpending] at h
      cases value with
      | none => exact nomatch h
      | some value =>
          rw [add_eq_ok h]
          exact ⟨rfl, rfl, rfl⟩

/-- Without a pending option there is nothing to look at. -/
theorem settle_of_none (h : g.pending = none) : g.settle = .ok g := by
  rw [settle, h]

/-- An option is looked at once. -/
theorem settle_settle (h : g.settle = .ok g') : g'.settle = .ok g' :=
  settle_of_none (settle_eq_ok h).1

/-- Other switches are added without asking for the one. -/
theorem addSwitch_without (h : name ≠ switch) (g : Given) :
    (g.without switch).addSwitch name = (g.addSwitch name).map (without switch) := by
  rw [addSwitch, addSwitch, settle_without]
  cases g.settle with
  | error u => rfl
  | ok g =>
      have hcontains : (g.without switch).switches.contains name = g.switches.contains name := by
        rw [without, Bool.eq_iff_iff]
        simp [h]
      dsimp only [bind, Except.bind, Except.map]
      rw [hcontains]
      cases g.switches.contains name with
      | true => rfl
      | false =>
          refine congrArg Except.ok ?_
          simp [without, h]

/-- What is left when a switch was added. -/
theorem addSwitch_eq_ok (h : g.addSwitch name = .ok g') : ∃ g₁, g.settle = .ok g₁ ∧
    name ∉ g₁.switches ∧ g' = { g₁ with switches := g₁.switches ++ [name] } := by
  rw [addSwitch] at h
  obtain ⟨g₁, hsettle, h⟩ := bind_eq_ok.mp h
  refine ⟨g₁, hsettle, ?_⟩
  split at h
  · exact nomatch h
  · rename_i hnew
    exact ⟨by simpa using hnew, (Except.ok.inj h).symm⟩

/-- A switch is added behind the others, and is none of them. -/
theorem addSwitch_switches (h : g.addSwitch name = .ok g') :
    name ∉ g.switches ∧ g'.switches = g.switches ++ [name] := by
  obtain ⟨g₁, hsettle, hnew, rfl⟩ := addSwitch_eq_ok h
  rw [(settle_eq_ok hsettle).2.1] at hnew ⊢
  exact ⟨hnew, rfl⟩

/-- A switch that was added last and is taken out again leaves no trace. -/
theorem without_snoc (h : name ∉ g.switches) :
    without name { g with switches := g.switches ++ [name] } = g := by
  have hfilter : (g.switches ++ [name]).filter (· != name) = g.switches := by
    rw [List.filter_append, List.filter_eq_self.mpr]
    · simp
    · intro m hm
      simp only [bne_iff_ne]
      rintro rfl
      exact h hm
  rw [without, hfilter]

end Given

namespace Level

variable {l : Level} {g g' g₁ : Given} {switch : String}

/-! ## One argument -/

/-- What an argument does that is no command: whether the later ones stand behind two
    hyphens, and what has been given then. -/
def step (l : Level) (s : Bool × Given) (arg : String) : Except Usage (Bool × Given) :=
  if s.1 then (l.plain true arg s.2).map fun g => (true, g)
  else
    match shape arg with
    | .hyphens         => .ok (true, s.2)
    | .long name value => (l.long name value s.2).map fun g => (false, g)
    | .short letter    => (l.short letter s.2).map fun g => (false, g)
    | .plain           =>
      match s.2.pending with
      | some (name, none) => .ok (false, { s.2 with pending := some (name, some arg) })
      | _                 => (l.plain false arg s.2).map fun g => (false, g)

/-- Two hyphens are noticed, and nothing is given. -/
theorem step_hyphens {arg : String} (h : shape arg = .hyphens) :
    l.step (false, g) arg = .ok (true, g) := by
  rw [step, if_neg Bool.false_ne_true, h]

/-- **A level is read argument by argument**, up to a command. -/
theorem scan_cons (l : Level) (b : Bool) (g : Given) (arg : String) (rest : List String) :
    l.scan b g (arg :: rest)
      = if !b && !g.awaitsValue && l.commands.contains arg then .ok (g, some (arg, rest))
        else (l.step (b, g) arg).bind fun s => l.scan s.1 s.2 rest := by
  rw [scan, step, shape]
  cases b with
  | true =>
      dsimp only
      rw [if_pos rfl, if_pos rfl, if_neg (by simp), map_bind]
      rfl
  | false =>
      dsimp only
      rw [if_neg Bool.false_ne_true, if_neg Bool.false_ne_true, Bool.not_false, Bool.true_and]
      split
      · rfl
      -- a shape is known by the ones before it not fitting
      · split
        · simp only [*, Except.bind]
        · simp only [*, map_bind, bind]
        · simp only [*, map_bind, bind]
        · simp only [*]
          cases g.pending with
          | none =>
              dsimp only
              rw [map_bind]
              rfl
          | some p =>
              obtain ⟨name, value⟩ := p
              cases value with
              | none => rfl
              | some value =>
                  dsimp only
                  rw [map_bind]
                  rfl

/-- An option is read without asking for a switch, and so is another switch. -/
theorem long_without {name : String} {value : Option String} (h : name ≠ switch ∨ value ≠ none)
    (l : Level) (g : Given) :
    l.long name value (g.without switch) = (l.long name value g).map (Given.without switch) := by
  unfold long
  split
  · cases value with
    | some v =>
        dsimp only
        rw [Given.settle_without]
        cases g.settle with
        | error u => rfl
        | ok g₁ => exact Given.add_without switch name v g₁
    | none =>
        dsimp only
        rw [Given.settle_without]
        cases g.settle with
        | error u => rfl
        | ok g₁ => rfl
  · split
    -- the switch itself looks at the switches, so it is left out (`h`)
    · cases value with
      | some v => rfl
      | none =>
          rw [Given.settle_without, Given.addSwitch_without (h.resolve_right fun hn => hn rfl)]
          dsimp only [Option.isSome_none]
          rw [if_neg Bool.false_ne_true, if_neg Bool.false_ne_true]
          split
          · cases g.settle with
            | error u => rfl
            | ok g₁ => rfl
          · split
            · cases g.settle with
              | error u => rfl
              | ok g₁ => rfl
            · rfl
    · rfl

/-- Letters are read without asking for a switch. -/
theorem short_without (l : Level) (letter : Char) (g : Given) :
    l.short letter (g.without switch) = (l.short letter g).map (Given.without switch) := by
  unfold short
  rw [Given.settle_without]
  split
  · cases g.settle with
    | error u => rfl
    | ok g₁ => rfl
  · split
    · cases g.settle with
      | error u => rfl
      | ok g₁ => rfl
    · rfl

/-- A value is read without asking for a switch. -/
theorem plain_without (l : Level) (b : Bool) (arg : String) (g : Given) :
    l.plain b arg (g.without switch) = (l.plain b arg g).map (Given.without switch) := by
  unfold plain
  rw [Given.settle_without, show (g.without switch).value = g.value from rfl]
  split
  · cases g.settle with
    | error u => rfl
    | ok g₁ => rfl
  · split
    · rfl
    · split
      · rfl
      · rfl

/-- **No argument asks for a switch** but the one that sets it. -/
theorem step_without {arg : String} (h : arg ≠ "--" ++ switch) (l : Level) (b : Bool)
    (g : Given) : l.step (b, g.without switch) arg
      = (l.step (b, g) arg).map fun s => (s.1, s.2.without switch) := by
  rw [step, step]
  cases b with
  | true =>
      dsimp only
      rw [if_pos rfl, if_pos rfl, plain_without]
      cases l.plain true arg g with
      | error u => rfl
      | ok g₁ => rfl
  | false =>
      rw [if_neg Bool.false_ne_true, if_neg Bool.false_ne_true]
      cases hshape : shape arg with
      | hyphens => rfl
      | long name value =>
          -- an argument is the switch only if it has its name and no value
          have hother : name ≠ switch ∨ value ≠ none := by
            by_cases hvalue : value = none
            · subst hvalue
              refine Or.inl ?_
              rintro rfl
              exact h (eq_of_shape hshape)
            · exact Or.inr hvalue
          dsimp only
          rw [long_without hother]
          cases l.long name value g with
          | error u => rfl
          | ok g₁ => rfl
      | short letter =>
          dsimp only
          rw [short_without]
          cases l.short letter g with
          | error u => rfl
          | ok g₁ => rfl
      | plain =>
          dsimp only
          rw [show (g.without switch).pending = g.pending from rfl, plain_without]
          split
          · rfl
          · cases l.plain false arg g with
            | error u => rfl
            | ok g₁ => rfl

/-- What is read behind two hyphens is an option, which leaves the switches, or a switch that
    the level knows. -/
theorem long_eq_ok {name : String} {value : Option String} (h : l.long name value g = .ok g') :
    l.options.contains name = true ∧ g'.switches = g.switches ∨
      value = none ∧ l.switches.contains name = true ∧ g.addSwitch name = .ok g' := by
  unfold long at h
  split at h
  · rename_i hoption
    refine Or.inl ⟨hoption, ?_⟩
    cases value with
    | some v =>
        obtain ⟨g₁, hsettle, hadd⟩ := bind_eq_ok.mp h
        rw [Given.add_eq_ok hadd]
        exact (Given.settle_eq_ok hsettle).2.1
    | none =>
        obtain ⟨g₁, hsettle, hpend⟩ := bind_eq_ok.mp h
        rw [← Except.ok.inj hpend]
        exact (Given.settle_eq_ok hsettle).2.1
  · split at h
    · rename_i hknown
      cases value with
      | some v => exact nomatch h
      | none =>
          dsimp only [Option.isSome_none] at h
          rw [if_neg Bool.false_ne_true] at h
          -- help and version end the reading, so it is a switch of the level's own
          split at h
          · obtain ⟨g₁, -, hthrow⟩ := bind_eq_ok.mp h
            exact nomatch hthrow
          · rename_i hhelp
            split at h
            · obtain ⟨g₁, -, hthrow⟩ := bind_eq_ok.mp h
              exact nomatch hthrow
            · rename_i hversion
              rw [Bool.eq_false_iff.mpr hhelp, Bool.eq_false_iff.mpr hversion,
                Bool.or_false, Bool.false_and, Bool.or_false] at hknown
              exact Or.inr ⟨rfl, hknown, h⟩
    · exact nomatch h

/-- No letter is read and then gone on behind. -/
theorem short_ne_ok (l : Level) (letter : Char) (g g' : Given) : l.short letter g ≠ .ok g' := by
  unfold short
  intro h
  split at h
  · obtain ⟨g₁, -, hthrow⟩ := bind_eq_ok.mp h
    exact nomatch hthrow
  · split at h
    · obtain ⟨g₁, -, hthrow⟩ := bind_eq_ok.mp h
      exact nomatch hthrow
    · exact nomatch h

/-- A value of the level is read when the option in front of it has been looked at, and there is
    one at most. -/
theorem plain_eq_ok {b : Bool} {arg : String} (h : l.plain b arg g = .ok g₁) :
    l.takesValue = true ∧ g.value = none ∧
      ∃ g', g.settle = .ok g' ∧ g₁ = { g' with value := some arg } := by
  unfold plain at h
  split at h
  · rename_i htakes
    obtain ⟨hvalue, hnone⟩ := Bool.and_eq_true_iff.mp htakes
    obtain ⟨g', hsettle, heq⟩ := bind_eq_ok.mp h
    exact ⟨hvalue, Option.isNone_iff_eq_none.mp hnone, g', hsettle, (Except.ok.inj heq).symm⟩
  · split at h
    · exact nomatch h
    · split at h
      · exact nomatch h
      · exact nomatch h

/-- A value that has been read leaves the switches. -/
theorem plain_switches {b : Bool} {arg : String} (h : l.plain b arg g = .ok g') :
    l.takesValue = true ∧ g'.switches = g.switches := by
  obtain ⟨htakes, -, g₁, hsettle, rfl⟩ := plain_eq_ok h
  exact ⟨htakes, (Given.settle_eq_ok hsettle).2.1⟩

/-- What an argument that is read can be, and what it does: behind two hyphens it is a value of the
    level; else it is two hyphens, an option or a switch, the value that an option waits for, or a
    value of the level. -/
inductive Reads (l : Level) (arg : String) : Bool × Given → Bool × Given → Prop
  | behind {g g' : Given} (hplain : l.plain true arg g = .ok g') : Reads l arg (true, g) (true, g')
  | hyphens {g : Given} (hshape : shape arg = .hyphens) : Reads l arg (false, g) (true, g)
  | long {g g' : Given} {name : String} {value : Option String}
      (hshape : shape arg = .long name value) (hlong : l.long name value g = .ok g') :
      Reads l arg (false, g) (false, g')
  | awaited {g : Given} {name : String} (hshape : shape arg = .plain)
      (hpending : g.pending = some (name, none)) :
      Reads l arg (false, g) (false, { g with pending := some (name, some arg) })
  | plain {g g' : Given} (hshape : shape arg = .plain) (hplain : l.plain false arg g = .ok g') :
      Reads l arg (false, g) (false, g')

/-- **An argument that is read is one of these.**  Letters are not among them. -/
theorem reads_of_step {s s' : Bool × Given} {arg : String} (h : l.step s arg = .ok s') :
    l.Reads arg s s' := by
  obtain ⟨b, g⟩ := s
  rw [step] at h
  -- behind two hyphens the shape is not looked at
  cases b with
  | true =>
      obtain ⟨g₁, hplain, rfl⟩ := map_eq_ok h
      exact .behind hplain
  | false =>
      rw [if_neg Bool.false_ne_true] at h
      cases hshape : shape arg with
      | hyphens =>
          rw [hshape] at h
          obtain rfl := Except.ok.inj h
          exact .hyphens hshape
      | long name value =>
          rw [hshape] at h
          obtain ⟨g₁, hlong, rfl⟩ := map_eq_ok h
          exact .long hshape hlong
      | short letter =>
          rw [hshape] at h
          obtain ⟨g₁, hshort, -⟩ := map_eq_ok h
          exact absurd hshort (short_ne_ok l letter g g₁)
      | plain =>
          rw [hshape] at h
          dsimp only at h
          split at h
          · rename_i name hpending
            obtain rfl := Except.ok.inj h
            exact .awaited hshape hpending
          · obtain ⟨g₁, hplain, rfl⟩ := map_eq_ok h
            exact .plain hshape hplain

/-- **An argument leaves the switches, or it is a new one itself.** -/
theorem step_switches {b b' : Bool} {arg : String} (h : l.step (b, g) arg = .ok (b', g')) :
    g'.switches = g.switches ∨
      ∃ name, arg = "--" ++ name ∧ name ∉ g.switches ∧ g'.switches = g.switches ++ [name] := by
  cases reads_of_step h with
  | behind hplain => exact Or.inl (plain_switches hplain).2
  | hyphens => exact Or.inl rfl
  | @long _ _ name value hshape hlong =>
      rcases long_eq_ok hlong with ⟨-, hsame⟩ | ⟨rfl, -, hadd⟩
      · exact Or.inl hsame
      · exact Or.inr ⟨name, eq_of_shape hshape, Given.addSwitch_switches hadd⟩
  | awaited => exact Or.inl rfl
  | plain _ hplain => exact Or.inl (plain_switches hplain).2

/-- An argument does the same if the option in front of it has been looked at before; two
    hyphens alone do not look at it. -/
theorem step_settle (h : g.settle = .ok g₁) (l : Level) (b : Bool) (arg : String) :
    l.step (b, g₁) arg = l.step (b, g) arg ∨ b = false ∧ shape arg = .hyphens := by
  have hsettle := Given.settle_settle h
  have hplain : ∀ b, l.plain b arg g₁ = l.plain b arg g := by
    intro b
    unfold plain
    rw [hsettle, h, (Given.settle_eq_ok h).2.2]
  rw [step, step]
  cases b with
  | true => exact Or.inl (by rw [if_pos rfl, if_pos rfl, hplain])
  | false =>
      rw [if_neg Bool.false_ne_true, if_neg Bool.false_ne_true]
      cases hshape : shape arg with
      | hyphens => exact Or.inr ⟨rfl, rfl⟩
      | long name value =>
          refine Or.inl ?_
          have haddSwitch : g₁.addSwitch name = g.addSwitch name := by
            rw [Given.addSwitch, Given.addSwitch, hsettle, h]
          dsimp only
          unfold long
          rw [hsettle, h, haddSwitch]
      | short letter =>
          refine Or.inl ?_
          dsimp only
          unfold short
          rw [hsettle, h]
      | plain =>
          refine Or.inl ?_
          dsimp only
          rw [(Given.settle_eq_ok h).1, hplain]
          cases hpending : g.pending with
          | none => rfl
          | some p =>
              obtain ⟨name, value⟩ := p
              cases value with
              | some value => rfl
              | none =>
                  -- an option without its value cannot have been looked at
                  rw [Given.settle, hpending] at h
                  exact nomatch h

/-- A switch that cannot be mistaken for an option or for a value. -/
structure TellsApart (l : Level) (switch : String) : Prop where
  noValue : l.takesValue = false
  noOption : l.options.contains switch = false
  noEquals : shape ("--" ++ switch) = .long switch none

/-- **A switch is one that the level knows, and is set once.** -/
theorem step_switch (ht : l.TellsApart switch) {b b' : Bool}
    (h : l.step (b, g) ("--" ++ switch) = .ok (b', g')) :
    b = false ∧ b' = false ∧ l.switches.contains switch = true ∧
      g.addSwitch switch = .ok g' := by
  cases reads_of_step h with
  | behind hplain => exact nomatch ht.noValue.symm.trans (plain_switches hplain).1
  | hyphens hshape => exact nomatch ht.noEquals.symm.trans hshape
  | long hshape hlong =>
      obtain ⟨rfl, rfl⟩ := Shape.long.inj (ht.noEquals.symm.trans hshape)
      rcases long_eq_ok hlong with ⟨hoption, -⟩ | ⟨-, hknown, hadd⟩
      · exact nomatch ht.noOption.symm.trans hoption
      · exact ⟨rfl, rfl, hknown, hadd⟩
  | awaited hshape => exact nomatch ht.noEquals.symm.trans hshape
  | plain hshape => exact nomatch ht.noEquals.symm.trans hshape

/-! ## Many arguments -/

/-- A level without commands is read to its end. -/
theorem scan_eq_steps (h : l.commands = []) (b : Bool) (g : Given) (args : List String) :
    l.scan b g args = (args.foldlM l.step (b, g)).map fun s => (s.2, none) := by
  induction args generalizing b g with
  | nil =>
      rw [scan]
      rfl
  | cons arg rest ih =>
      rw [scan_cons, h, List.foldlM_cons]
      cases hstep : l.step (b, g) arg with
      | error u => simp [bind, Except.bind, Except.map]
      | ok s => simpa [bind, Except.bind] using ih s.1 s.2

/-- A switch that is set stays set, and is not among the arguments then; taken out, it leaves
    all the rest as it is. -/
theorem steps_without (ht : l.TellsApart switch) {args : List String} {b b' : Bool}
    (hset : switch ∈ g.switches) (h : args.foldlM l.step (b, g) = .ok (b', g')) :
    args.foldlM l.step (b, g.without switch) = .ok (b', g'.without switch) := by
  induction args generalizing b g with
  | nil =>
      obtain ⟨rfl, rfl⟩ := Prod.mk.inj (Except.ok.inj h)
      rfl
  | cons arg rest ih =>
      rw [List.foldlM_cons] at h ⊢
      obtain ⟨⟨b₁, g₁⟩, hstep, hrest⟩ := bind_eq_ok.mp h
      have hother : arg ≠ "--" ++ switch := by
        rintro rfl
        exact (Given.addSwitch_switches (step_switch ht hstep).2.2.2).1 hset
      have hkept : switch ∈ g₁.switches := by
        rcases step_switches hstep with hsame | ⟨name, -, -, hswitches⟩
        · rwa [hsame]
        · rw [hswitches]
          exact List.mem_append_left _ hset
      rw [step_without hother, hstep]
      exact ih hkept hrest

/-- A complete level is the same if its last option has been looked at before. -/
theorem complete_settle (h : g.settle = .ok g₁) : complete g₁ = complete g := by
  rw [complete, complete, h, Given.settle_settle h]

/-- **By the end of a level it does not matter when an option was looked at.** -/
theorem steps_settle (h : g.settle = .ok g₁) (l : Level) (b : Bool) (args : List String) :
    ((args.foldlM l.step (b, g₁)).bind fun s => complete s.2)
      = (args.foldlM l.step (b, g)).bind fun s => complete s.2 := by
  induction args generalizing b with
  | nil => exact complete_settle h
  | cons arg rest ih =>
      rw [List.foldlM_cons, List.foldlM_cons]
      rcases step_settle h l b arg with heq | ⟨rfl, hshape⟩
      · rw [heq]
      · rw [step_hyphens hshape, step_hyphens hshape]
        exact ih true

/-- A level is completed without asking for a switch. -/
theorem complete_without (switch : String) (g : Given) :
    complete (g.without switch) = (complete g).map (Given.without switch) := by
  rw [complete, complete, Given.settle_without]
  cases g.settle with
  | error u => rfl
  | ok g₁ =>
      have hget : ∀ name, (g₁.without switch).get? name = g₁.get? name := fun _ => rfl
      dsimp only [bind, Except.bind, Except.map]
      rw [hget, hget]
      split
      · rfl
      · rfl

/-- A level that is completed keeps its switches. -/
theorem complete_switches (h : complete g = .ok g') : g'.switches = g.switches := by
  rw [complete] at h
  obtain ⟨g₁, hsettle, h⟩ := bind_eq_ok.mp h
  split at h
  · exact nomatch h
  · rw [← Except.ok.inj h]
    exact (Given.settle_eq_ok hsettle).2.1

/-- **A switch can be taken out of the arguments.**  A complete level that has it without
    having had it before is read without it, and has been given all the rest then. -/
theorem steps_erase (ht : l.TellsApart switch) {args : List String} {b : Bool}
    (hunset : switch ∉ g.switches)
    (h : ((args.foldlM l.step (b, g)).bind fun s => complete s.2) = .ok g')
    (hset : switch ∈ g'.switches) :
    (((args.erase ("--" ++ switch)).foldlM l.step (b, g)).bind fun s => complete s.2)
      = .ok (g'.without switch) := by
  induction args generalizing b g with
  | nil =>
      rw [complete_switches h] at hset
      exact absurd hset hunset
  | cons arg rest ih =>
      rw [List.foldlM_cons] at h
      obtain ⟨⟨b', g₃⟩, hsteps, hcomplete⟩ := bind_eq_ok.mp h
      obtain ⟨⟨b₁, g₁⟩, hstep, hrest⟩ := bind_eq_ok.mp hsteps
      by_cases harg : arg = "--" ++ switch
      · -- here the switch is set; behind it, it is taken out of what has been given
        subst harg
        obtain ⟨rfl, rfl, -, hadd⟩ := step_switch ht hstep
        obtain ⟨g₂, hsettle, hnew, rfl⟩ := Given.addSwitch_eq_ok hadd
        have hwithout := steps_without ht (List.mem_append_right _ (.head _)) hrest
        rw [Given.without_snoc hnew] at hwithout
        rw [List.erase_cons_head, ← steps_settle hsettle, hwithout]
        show complete (g₃.without switch) = _
        rw [complete_without, show complete g₃ = .ok g' from hcomplete]
        rfl
      · have hunset' : switch ∉ g₁.switches := by
          rcases step_switches hstep with hsame | ⟨name, rfl, -, hswitches⟩
          · rwa [hsame]
          · rw [hswitches]
            intro hmem
            rcases List.mem_append.mp hmem with hmem | hmem
            · exact hunset hmem
            · rw [List.mem_singleton.mp hmem] at harg
              exact harg rfl
        rw [List.erase_cons_tail (by simpa using harg), List.foldlM_cons, hstep]
        refine ih hunset' ?_
        show (Except.bind (rest.foldlM l.step (b₁, g₁)) _) = _
        rw [hrest]
        exact hcomplete

/-- A command ends its level with the arguments in front of it, whatever stands behind it; and
    what the level never reads is not in front of it. -/
theorem scan_front {arg : String} (hnever : ∀ b g s, l.step (b, g) arg ≠ .ok s)
    {args : List String} {b : Bool} {before : Given} {name : String} {rest : List String}
    (h : l.scan b g args = .ok (before, some (name, rest))) :
    ∃ front, args = front ++ name :: rest ∧ arg ∉ front ∧
      ∀ rest', l.scan b g (front ++ name :: rest') = .ok (before, some (name, rest')) := by
  induction args generalizing b g with
  | nil =>
      rw [scan] at h
      exact nomatch h
  | cons first args ih =>
      rw [scan_cons] at h
      split at h
      · rename_i hcommand
        obtain ⟨rfl, hfirst⟩ := Prod.mk.inj (Except.ok.inj h)
        obtain ⟨rfl, rfl⟩ := Prod.mk.inj (Option.some.inj hfirst)
        refine ⟨[], rfl, List.not_mem_nil, fun rest' => ?_⟩
        rw [List.nil_append, scan_cons, if_pos hcommand]
      · rename_i hcommand
        obtain ⟨⟨b₁, g₁⟩, hstep, hscan⟩ := bind_eq_ok.mp h
        obtain ⟨front, rfl, hfront, hbehind⟩ := ih hscan
        refine ⟨first :: front, rfl, ?_, fun rest' => ?_⟩
        · rintro (_ | ⟨_, hmem⟩)
          · exact hnever b g _ hstep
          · exact hfront hmem
        · rw [List.cons_append, scan_cons, if_neg hcommand, hstep]
          exact hbehind rest'

end Level

end Postbox.CommandLine
