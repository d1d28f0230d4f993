import Mathlib.Data.List.Induction
import Mathlib.Data.List.Pairwise
import Postbox.Proofs.Level

/-! # Items — what the arguments of a level stand for

    The arguments of a level are items one after the other: switches, options with their values,
    and values of the level itself.  A level takes items that it knows, none of them twice
    (`Level.Takes`), and has been given just what they stand for (`Given.ofItems`).  At the end
    come two hyphens, perhaps with a value behind them, or a command (`Level.Ends`).

    **The arguments that a level takes are exactly those of this form** (`Level.whole_eq_ok`).
    One way is an induction on the items from behind, with one case for each kind
    (`whole_item`); the other finds the item in front of arguments that are taken
    (`first_item`).  An option whose value is the next argument is looked at later than one with
    an equals sign, but by the end of the level that does not matter (`whole_settle`). -/

namespace Postbox.CommandLine

/-! ## Items -/

/-- What stands at a level: a switch, an option with its value behind an equals sign or in an
    argument of its own, or a value of the level. -/
inductive Item
  | switch (name : String)
  | joined (name value : String)
  | apart (name value : String)
  | positional (text : String)

namespace Item

/-- The arguments of an item. -/
def args : Item → List String
  | switch name       => ["--" ++ name]
  | joined name value => ["--" ++ name ++ "=" ++ value]
  | apart name value  => ["--" ++ name, value]
  | positional text   => [text]

/-- The name of a switch or of an option. -/
def name? : Item → Option String
  | switch name | joined name _ | apart name _ => some name
  | positional _                               => none

/-- The name of a switch. -/
def switch? : Item → Option String
  | switch name => some name
  | _           => none

/-- The name of an option with its value. -/
def option? : Item → Option (String × String)
  | joined name value | apart name value => some (name, value)
  | _                                    => none

/-- A value of the level. -/
def value? : Item → Option String
  | positional text => some text
  | _               => none

/-- Some items give an option its value. -/
def Gives (items : List Item) (name value : String) : Prop :=
  ∃ i ∈ items, i.option? = some (name, value)

/-- What is given by items is given by some of them. -/
theorem gives_append {items more : List Item} {name value : String} :
    Gives (items ++ more) name value ↔ Gives items name value ∨ Gives more name value := by
  simp only [Gives, List.mem_append, or_and_right, exists_or]

/-- An item has arguments. -/
theorem args_length_pos (i : Item) : 0 < i.args.length := by
  cases i with
  | switch name => exact Nat.one_pos
  | joined name value => exact Nat.one_pos
  | apart name value => exact Nat.two_pos
  | positional text => exact Nat.one_pos

/-- An option has its name. -/
theorem name_of_option {i : Item} {name value : String} (h : i.option? = some (name, value)) :
    i.name? = some name := by
  cases i with
  | joined name value => exact congrArg some (Prod.mk.inj (Option.some.inj h)).1
  | apart name value => exact congrArg some (Prod.mk.inj (Option.some.inj h)).1
  | switch name => exact nomatch h
  | positional text => exact nomatch h

/-- A switch has its name. -/
theorem name_of_switch {i : Item} {name : String} (h : i.switch? = some name) :
    i.name? = some name := by
  cases i with
  | switch name => exact h
  | joined name value => exact nomatch h
  | apart name value => exact nomatch h
  | positional text => exact nomatch h

end Item

/-- What items stand for. -/
def Given.ofItems (items : List Item) : Given where
  switches := items.filterMap Item.switch?
  values   := items.filterMap Item.option?
  value    := (items.filterMap Item.value?).head?

variable {l : Level} {g g₁ : Given} {ended : Option (String × List String)}
  {past : List Item} {i : Item} {name value : String}

namespace Level

/-- A level whose names can be told apart: no switch is an option or a word of its own, no name
    has an equals sign, and no command looks like an option. -/
structure Proper (l : Level) : Prop where
  names : ∀ name, name ∈ l.switches ∨ name ∈ l.options → name ≠ "" ∧ '=' ∉ name.toList
  switches : ∀ name ∈ l.switches, name ∉ l.options ∧ name ≠ "help" ∧ name ≠ "version"
  commands : ∀ name ∈ l.commands, shape name = .plain

/-- Whether a level knows an item. -/
def Knows (l : Level) : Item → Prop
  | .switch name       => name ∈ l.switches
  | .joined name value => name ∈ l.options ∧ Given.check name value = .ok ()
  | .apart name value  => name ∈ l.options ∧ Given.check name value = .ok () ∧ shape value = .plain
  | .positional text   => shape text = .plain ∧ text ∉ l.commands

/-- Items that a level takes: it knows them, no name stands twice, and there is one value of the
    level itself, if it has one. -/
structure Takes (l : Level) (items : List Item) : Prop where
  knows : ∀ i ∈ items, l.Knows i
  once : (items.filterMap Item.name?).Nodup
  values : (items.filterMap Item.value?).length ≤ if l.takesValue then 1 else 0

/-- What comes behind the items of a level, what has been given then, and the command with the
    arguments behind it. -/
inductive Ends (l : Level) (items : List Item) :
    List String → Given → Option (String × List String) → Prop
  | done : Ends l items [] (.ofItems items) none
  | hyphens : Ends l items ["--"] (.ofItems items) none
  | value (takes : l.takesValue = true) (free : (Given.ofItems items).value = none)
      (text : String) :
      Ends l items ["--", text] { Given.ofItems items with value := some text } none
  | command {name : String} (known : name ∈ l.commands) (behind : List String) :
      Ends l items (name :: behind) (.ofItems items) (some (name, behind))

/-! ## Reading to the end -/

/-- Reads a level to its end: the last option is looked at, too. -/
def whole (l : Level) (b : Bool) (g : Given) (args : List String) :
    Except Usage (Given × Option (String × List String)) :=
  (l.scan b g args).bind fun r => r.1.settle.map fun g => (g, r.2)

/-- What is read to the end has been read, and its last option has been looked at. -/
theorem whole_iff_scan {b : Bool} {args : List String} : l.whole b g args = .ok (g₁, ended) ↔
    ∃ g₀, l.scan b g args = .ok (g₀, ended) ∧ g₀.settle = .ok g₁ := by
  rw [whole, bind_eq_ok]
  constructor
  · rintro ⟨⟨g₀, ended⟩, hscan, hmap⟩
    obtain ⟨g', hsettle, heq⟩ := map_eq_ok hmap
    obtain ⟨rfl, rfl⟩ := Prod.mk.inj heq
    exact ⟨g₀, hscan, hsettle⟩
  · rintro ⟨g₀, hscan, hsettle⟩
    refine ⟨_, hscan, ?_⟩
    rw [hsettle]
    rfl

theorem whole_nil (l : Level) (b : Bool) (g : Given) :
    l.whole b g [] = g.settle.map fun g => (g, none) := by
  rw [whole, scan]
  rfl

theorem whole_cons (l : Level) (b : Bool) (g : Given) (arg : String) (rest : List String) :
    l.whole b g (arg :: rest)
      = if !b && !g.awaitsValue && l.commands.contains arg
        then g.settle.map fun g => (g, some (arg, rest))
        else (l.step (b, g) arg).bind fun s => l.whole s.1 s.2 rest := by
  rw [whole, scan_cons]
  split
  · rfl
  · cases l.step (b, g) arg with
    | error u => rfl
    | ok s => rfl

/-- An argument is read by itself where it is no command, or no command can stand. -/
theorem whole_step {b : Bool} {arg : String}
    (hread : arg ∉ l.commands ∨ b = true ∨ g.awaitsValue = true) (rest : List String) :
    l.whole b g (arg :: rest) = (l.step (b, g) arg).bind fun s => l.whole s.1 s.2 rest := by
  rw [whole_cons, if_neg]
  rcases hread with hcommand | hbehind | hawaits
  · simp [hcommand]
  · simp [hbehind]
  · simp [hawaits]

/-- What is behind an argument is read with what has been given by then. -/
theorem whole_step_ok {b b' : Bool} {arg : String}
    (hread : arg ∉ l.commands ∨ b = true ∨ g.awaitsValue = true)
    (hstep : l.step (b, g) arg = .ok (b', g₁)) (rest : List String) :
    l.whole b g (arg :: rest) = l.whole b' g₁ rest := by
  rw [whole_step hread, hstep]
  rfl

/-- An option that has been looked at awaits no value. -/
theorem awaits_of_settle (h : g.settle = .ok g₁) : g.awaitsValue = false := by
  rw [Given.settle] at h
  rw [Given.awaitsValue]
  cases hpending : g.pending with
  | none => rfl
  | some p =>
      obtain ⟨name, value⟩ := p
      cases value with
      | none =>
          rw [hpending] at h
          cases h
      | some value => rfl

/-- **By the end of a level it does not matter when an option was looked at.** -/
theorem whole_settle (h : g.settle = .ok g₁) (l : Level) (b : Bool) (args : List String) :
    l.whole b g₁ args = l.whole b g args := by
  have hsettle := Given.settle_settle h
  induction args generalizing b with
  | nil => rw [whole_nil, whole_nil, h, hsettle]
  | cons arg rest ih =>
      rw [whole_cons, whole_cons, awaits_of_settle h, awaits_of_settle hsettle, h, hsettle]
      split
      · rfl
      · rcases step_settle h l b arg with heq | ⟨rfl, hshape⟩
        · rw [heq]
        · rw [step_hyphens hshape, step_hyphens hshape]
          exact ih true

/-! ## Items are taken -/

theorem Takes.of_append {items more : List Item} (h : l.Takes (items ++ more)) : l.Takes items where
  knows i hi := h.knows i (List.mem_append_left _ hi)
  once := by
    have honce := h.once
    rw [List.filterMap_append] at honce
    exact (List.nodup_append.mp honce).1
  values := by
    have hvalues := h.values
    rw [List.filterMap_append, List.length_append] at hvalues
    omega

end Level

namespace Given

/-- A switch is added last. -/
theorem ofItems_switch (past : List Item) (name : String) : ofItems (past ++ [.switch name])
    = { ofItems past with switches := (ofItems past).switches ++ [name] } := by
  simp [ofItems, List.filterMap_append, Item.switch?, Item.option?, Item.value?]

/-- An option is added last with its value. -/
theorem ofItems_option (h : i.option? = some (name, value)) :
    ofItems (past ++ [i])
      = { ofItems past with values := (ofItems past).values ++ [(name, value)] } := by
  cases i with
  | joined name value =>
      obtain ⟨rfl, rfl⟩ := Prod.mk.inj (Option.some.inj h)
      simp [ofItems, List.filterMap_append, Item.switch?, Item.option?, Item.value?]
  | apart name value =>
      obtain ⟨rfl, rfl⟩ := Prod.mk.inj (Option.some.inj h)
      simp [ofItems, List.filterMap_append, Item.switch?, Item.option?, Item.value?]
  | switch name => exact nomatch h
  | positional text => exact nomatch h

/-- A value of the level is the first one. -/
theorem ofItems_positional (h : (ofItems past).value = none) (text : String) :
    ofItems (past ++ [.positional text]) = { ofItems past with value := some text } := by
  have hnone : past.filterMap Item.value? = [] := List.head?_eq_none_iff.mp h
  simp [ofItems, List.filterMap_append, Item.switch?, Item.option?, Item.value?, hnone]

/-- An option has a value if an item gives it one. -/
theorem get_ofItems_isSome {items : List Item} :
    ((ofItems items).get? name).isSome = true ↔ ∃ value, Item.Gives items name value := by
  rw [get?, Option.isSome_map, List.find?_isSome]
  constructor
  · rintro ⟨⟨name', value⟩, hmem, hname⟩
    obtain ⟨i, hi, hoption⟩ := List.mem_filterMap.mp hmem
    rw [beq_iff_eq] at hname
    exact ⟨value, i, hi, hname ▸ hoption⟩
  · rintro ⟨value, i, hi, hoption⟩
    exact ⟨(name, value), List.mem_filterMap.mpr ⟨i, hi, hoption⟩, beq_self_eq_true name⟩

/-- The value of an option is one that an item gives. -/
theorem gives_of_get {items : List Item} (h : (ofItems items).get? name = some value) :
    Item.Gives items name value := by
  obtain ⟨⟨name', value'⟩, hfind, rfl⟩ := Option.map_eq_some_iff.mp h
  obtain ⟨i, hi, hoption⟩ := List.mem_filterMap.mp (List.mem_of_find?_eq_some hfind)
  have hname : name' = name := by simpa using List.find?_some hfind
  exact ⟨i, hi, hname ▸ hoption⟩

end Given

namespace Level

/-- What looks like an option is no command. -/
theorem Proper.not_command (hl : l.Proper) {arg name : String} {value : Option String}
    (h : shape arg = .long name value) : arg ∉ l.commands := by
  intro hmem
  exact nomatch h.symm.trans (hl.commands arg hmem)

/-- A switch of the level is set. -/
theorem long_switch (hl : l.Proper) {name : String} (h : name ∈ l.switches) (g : Given) :
    l.long name none g = g.addSwitch name := by
  obtain ⟨hoption, hhelp, hversion⟩ := hl.switches name h
  have hknown : (l.switches.contains name || name == "help"
      || (name == "version" && l.tellsVersion)) = true := by
    simp [h]
  rw [long, if_neg (by simpa using hoption), if_pos hknown, if_neg (by simp),
    if_neg (by simpa using hhelp), if_neg (by simpa using hversion)]

/-- An option with its value behind an equals sign is added. -/
theorem long_joined {name value : String} (h : name ∈ l.options) (g : Given) :
    l.long name (some value) g = g.settle.bind (Given.add name value) := by
  rw [long, if_pos (by simpa using h)]
  rfl

/-- An option whose value has not come yet is pending. -/
theorem long_apart {name : String} (h : name ∈ l.options) (g : Given) :
    l.long name none g = g.settle.map fun g => { g with pending := some (name, none) } := by
  rw [long, if_pos (by simpa using h)]
  cases g.settle with
  | error u => rfl
  | ok g => rfl

/-- Items that are taken give an option one value at most. -/
theorem gives_unique {items : List Item} (h : (items.filterMap Item.name?).Nodup)
    {value' : String} (hgives : Item.Gives items name value)
    (hgives' : Item.Gives items name value') : value = value' := by
  obtain ⟨i, hi, hoption⟩ := hgives
  obtain ⟨j, hj, hoption'⟩ := hgives'
  have hname := Item.name_of_option hoption
  have hname' := Item.name_of_option hoption'
  have hsame : i = j := by
    by_contra hne
    have hsymm : Std.Symm fun i j : Item =>
        ∀ m, i.name? = some m → ∀ m', j.name? = some m' → m ≠ m' :=
      ⟨fun i j hij m hm m' hm' heq => hij m' hm' m hm heq.symm⟩
    exact (List.pairwise_filterMap.mp h).forall hi hj hne name hname name hname' rfl
  rw [hsame] at hoption
  exact (Prod.mk.inj (Option.some.inj (hoption.symm.trans hoption'))).2

/-- **The value of an option is the one that an item gives it.** -/
theorem get_eq_some {items : List Item} (h : (items.filterMap Item.name?).Nodup) :
    (Given.ofItems items).get? name = some value ↔ Item.Gives items name value := by
  refine ⟨Given.gives_of_get, fun hgives => ?_⟩
  obtain ⟨value', hvalue⟩ := Option.isSome_iff_exists.mp (Given.get_ofItems_isSome.mpr ⟨_, hgives⟩)
  rw [hvalue, gives_unique h hgives (Given.gives_of_get hvalue)]

/-- An item that is taken has a name of its own. -/
theorem Takes.fresh (h : l.Takes (past ++ [i])) {name : String} (hname : i.name? = some name) :
    ∀ j ∈ past, j.name? ≠ some name := by
  intro j hj hsame
  have honce := h.once
  rw [List.filterMap_append] at honce
  have hmem : name ∈ [i].filterMap Item.name? := List.mem_filterMap.mpr ⟨i, .head _, hname⟩
  exact (List.nodup_append.mp honce).2.2 name (List.mem_filterMap.mpr ⟨j, hj, hsame⟩) name hmem rfl

/-- A switch that is taken is new. -/
theorem Takes.addSwitch {name : String} (h : l.Takes (past ++ [.switch name])) :
    (Given.ofItems past).addSwitch name = .ok (.ofItems (past ++ [.switch name])) := by
  have hnew : (Given.ofItems past).switches.contains name = false := by
    rw [Bool.eq_false_iff, ne_eq, List.contains_iff_mem]
    intro hmem
    obtain ⟨j, hj, hswitch⟩ := List.mem_filterMap.mp hmem
    exact h.fresh rfl j hj (Item.name_of_switch hswitch)
  rw [Given.addSwitch, Given.settle_of_none rfl, Given.ofItems_switch]
  show (if (Given.ofItems past).switches.contains name then _ else _) = _
  rw [hnew]
  rfl

/-- An option that is taken is new, and its value has passed its check. -/
theorem Takes.add {name value : String} (h : l.Takes (past ++ [i]))
    (hoption : i.option? = some (name, value)) (hcheck : Given.check name value = .ok ()) :
    (Given.ofItems past).add name value = .ok (.ofItems (past ++ [i])) := by
  have hnew : ((Given.ofItems past).get? name).isSome = false := by
    rw [Bool.eq_false_iff, ne_eq, Given.get_ofItems_isSome]
    rintro ⟨value', j, hj, hoption'⟩
    exact h.fresh (Item.name_of_option hoption) j hj (Item.name_of_option hoption')
  rw [Given.add, hnew, hcheck, Given.ofItems_option hoption]
  rfl

/-- A value that is taken is the first one, and the level has one. -/
theorem Takes.free {text : String} (h : l.Takes (past ++ [.positional text])) :
    l.takesValue = true ∧ (Given.ofItems past).value = none := by
  have hvalues := h.values
  rw [List.filterMap_append, List.length_append] at hvalues
  have htakes : l.takesValue = true := by
    by_contra hnot
    rw [if_neg hnot] at hvalues
    exact absurd hvalues (by simp [Item.value?])
  rw [if_pos htakes] at hvalues
  have hlength : (past.filterMap Item.value?).length = 0 := by
    simpa [Item.value?] using hvalues
  refine ⟨htakes, ?_⟩
  rw [Given.ofItems, List.length_eq_zero_iff.mp hlength]
  rfl

/-- **An item that is taken is read**, and the arguments behind it are read with what it stands
    for. -/
theorem whole_item (hl : l.Proper) (h : l.Takes (past ++ [i])) (rest : List String) :
    l.whole false (.ofItems past) (i.args ++ rest)
      = l.whole false (.ofItems (past ++ [i])) rest := by
  have hknows : l.Knows i := h.knows i (List.mem_append_right _ (.head _))
  cases i with
  | switch name =>
      obtain ⟨hnonempty, hequals⟩ := hl.names name (Or.inl hknows)
      have hshape := shape_long hnonempty hequals
      have hstep : l.step (false, .ofItems past) ("--" ++ name)
          = .ok (false, .ofItems (past ++ [.switch name])) := by
        rw [step, if_neg Bool.false_ne_true, hshape]
        dsimp only
        rw [long_switch hl hknows, h.addSwitch]
        rfl
      exact whole_step_ok (Or.inl (hl.not_command hshape)) hstep rest
  | joined name value =>
      obtain ⟨hoption, hcheck⟩ := hknows
      have hshape := shape_joined (hl.names name (Or.inr hoption)).2 value
      have hstep : l.step (false, .ofItems past) ("--" ++ name ++ "=" ++ value)
          = .ok (false, .ofItems (past ++ [.joined name value])) := by
        rw [step, if_neg Bool.false_ne_true, hshape]
        dsimp only
        rw [long_joined hoption, Given.settle_of_none rfl]
        show ((Given.ofItems past).add name value).map _ = _
        rw [h.add rfl hcheck]
        rfl
      exact whole_step_ok (Or.inl (hl.not_command hshape)) hstep rest
  | apart name value =>
      obtain ⟨hoption, hcheck, hvalue⟩ := hknows
      obtain ⟨hnonempty, hequals⟩ := hl.names name (Or.inr hoption)
      have hshape := shape_long hnonempty hequals
      have hfirst : l.step (false, .ofItems past) ("--" ++ name)
          = .ok (false, { Given.ofItems past with pending := some (name, none) }) := by
        rw [step, if_neg Bool.false_ne_true, hshape]
        dsimp only
        rw [long_apart hoption, Given.settle_of_none rfl]
        rfl
      have hsecond : l.step (false, { Given.ofItems past with pending := some (name, none) }) value
          = .ok (false, { Given.ofItems past with pending := some (name, some value) }) := by
        rw [step, if_neg Bool.false_ne_true, hvalue]
      -- behind the value the option is still to be looked at
      have hsettle : ({ Given.ofItems past with pending := some (name, some value) } : Given).settle
          = .ok (.ofItems (past ++ [.apart name value])) := h.add rfl hcheck
      refine (whole_step_ok (Or.inl (hl.not_command hshape)) hfirst (value :: rest)).trans ?_
      refine (whole_step_ok (Or.inr (Or.inr rfl)) hsecond rest).trans ?_
      exact (whole_settle hsettle l false rest).symm
  | positional text =>
      obtain ⟨hvalue, hcommand⟩ := hknows
      obtain ⟨htakes, hfree⟩ := h.free
      have hstep : l.step (false, .ofItems past) text
          = .ok (false, .ofItems (past ++ [.positional text])) := by
        rw [step, if_neg Bool.false_ne_true, hvalue, Given.ofItems_positional hfree]
        show (l.plain false text (Given.ofItems past)).map _ = _
        rw [plain, htakes, hfree, Given.settle_of_none rfl]
        rfl
      exact whole_step_ok (Or.inl hcommand) hstep rest

/-- **Items that are taken are read**, one after the other. -/
theorem whole_items (hl : l.Proper) {items : List Item} (h : l.Takes items) (rest : List String) :
    l.whole false {} (items.flatMap Item.args ++ rest)
      = l.whole false (.ofItems items) rest := by
  induction items using List.reverseRecOn generalizing rest with
  | nil => rfl
  | append_singleton items i ih =>
      rw [List.flatMap_append, List.append_assoc, ih h.of_append, List.flatMap_singleton,
        whole_item hl h]

/-- What comes behind the items is read. -/
theorem whole_ends (hl : l.Proper) {items : List Item} {rest : List String}
    (h : l.Ends items rest g ended) : l.whole false (.ofItems items) rest = .ok (g, ended) := by
  have hsettle : (Given.ofItems items).settle = .ok (.ofItems items) := Given.settle_of_none rfl
  have hhyphens : ∀ rest, l.whole false (.ofItems items) ("--" :: rest)
      = l.whole true (.ofItems items) rest :=
    whole_step_ok (Or.inl fun hmem => nomatch hl.commands _ hmem) rfl
  cases h with
  | done =>
      rw [whole_nil, hsettle]
      rfl
  | hyphens =>
      rw [hhyphens, whole_nil, hsettle]
      rfl
  | value takes free text =>
      have hstep : l.step (true, .ofItems items) text
          = .ok (true, { Given.ofItems items with value := some text }) := by
        rw [step, if_pos rfl, plain, takes, free, hsettle]
        rfl
      rw [hhyphens, whole_step_ok (Or.inr (Or.inl rfl)) hstep, whole_nil, Given.settle_of_none rfl]
      rfl
  | command known behind =>
      rw [whole_cons, List.contains_iff_mem.mpr known, hsettle]
      rfl

/-! ## What is taken is items -/

/-- An option or a switch is read when the option in front of it has been looked at. -/
theorem settle_of_long {name : String} {value : Option String} (h : l.long name value g = .ok g₁) :
    ∃ g', g.settle = .ok g' := by
  by_cases hoption : name ∈ l.options
  · cases value with
    | some v =>
        rw [long_joined hoption] at h
        obtain ⟨g', hsettle, -⟩ := bind_eq_ok.mp h
        exact ⟨g', hsettle⟩
    | none =>
        rw [long_apart hoption] at h
        obtain ⟨g', hsettle, -⟩ := map_eq_ok h
        exact ⟨g', hsettle⟩
  · rcases long_eq_ok h with ⟨hknown, -⟩ | ⟨-, -, hadd⟩
    · exact absurd (List.contains_iff_mem.mp hknown) hoption
    · obtain ⟨g', hsettle, -⟩ := Given.addSwitch_eq_ok hadd
      exact ⟨g', hsettle⟩

/-- While an option cannot be looked at, two hyphens are read, and the value that it waits for;
    all else is refused. -/
theorem step_unsettled {u : Usage} (h : g.settle = .error u) {b : Bool} {arg : String}
    {s : Bool × Given} (hstep : l.step (b, g) arg = .ok s) :
    b = false ∧ s = (true, g) ∨ b = false ∧ shape arg = .plain ∧ ∃ name,
      g.pending = some (name, none) ∧ s = (false, { g with pending := some (name, some arg) }) := by
  have hplain : ∀ {b g'}, l.plain b arg g ≠ .ok g' := by
    intro b g' hplain
    obtain ⟨-, -, g', hsettle, -⟩ := plain_eq_ok hplain
    exact nomatch h.symm.trans hsettle
  cases reads_of_step hstep with
  | behind hread => exact absurd hread hplain
  | hyphens => exact Or.inl ⟨rfl, rfl⟩
  | long _ hlong =>
      obtain ⟨g', hsettle⟩ := settle_of_long hlong
      exact nomatch h.symm.trans hsettle
  | @awaited _ name hshape hpending => exact Or.inr ⟨rfl, hshape, name, hpending, rfl⟩
  | plain _ hread => exact absurd hread hplain

/-- An option that cannot be looked at, and gets no value any more, is refused in the end. -/
theorem whole_unsettled {u : Usage} (h : g.settle = .error u) {b : Bool}
    (hlate : b = true ∨ g.awaitsValue = false) (args : List String) :
    l.whole b g args ≠ .ok (g₁, ended) := by
  intro hwhole
  induction args generalizing b with
  | nil =>
      rw [whole_nil, h] at hwhole
      exact nomatch hwhole
  | cons arg rest ih =>
      rw [whole_cons] at hwhole
      split at hwhole
      · rw [h] at hwhole
        exact nomatch hwhole
      · obtain ⟨s, hstep, hrest⟩ := bind_eq_ok.mp hwhole
        rcases step_unsettled h hstep with ⟨-, rfl⟩ | ⟨rfl, -, name, hpending, -⟩
        · exact ih (Or.inl rfl) hrest
        · rcases hlate with hbehind | hgiven
          · exact nomatch hbehind
          · rw [Given.awaitsValue, hpending] at hgiven
            exact nomatch hgiven

/-- One item more is taken if the level knows it, its name is new, and it is no second value. -/
theorem Takes.concat (h : l.Takes past) (hknows : l.Knows i)
    (hfresh : ∀ name, i.name? = some name → ∀ j ∈ past, j.name? ≠ some name)
    (hvalue : i.value? = none ∨ l.takesValue = true ∧ (Given.ofItems past).value = none) :
    l.Takes (past ++ [i]) where
  knows := by
    intro j hj
    rcases List.mem_append.mp hj with hj | hj
    · exact h.knows j hj
    · rw [List.mem_singleton.mp hj]
      exact hknows
  once := by
    rw [List.filterMap_append, List.nodup_append]
    refine ⟨h.once, ?_, ?_⟩
    · cases hname : i.name? with
      | none => simp [hname]
      | some name => simp [hname]
    · intro name hname name' hname' heq
      obtain ⟨j, hj, hsame⟩ := List.mem_filterMap.mp hname
      obtain ⟨i', hi', hthis⟩ := List.mem_filterMap.mp hname'
      rw [List.mem_singleton.mp hi'] at hthis
      exact hfresh name' hthis j hj (heq ▸ hsame)
  values := by
    have hvalues := h.values
    rw [List.filterMap_append, List.length_append]
    rcases hvalue with hother | ⟨htakes, hnone⟩
    · rw [List.filterMap_cons_none hother]
      exact hvalues
    · have hnil : past.filterMap Item.value? = [] := List.head?_eq_none_iff.mp hnone
      rw [htakes, hnil, List.length_nil, Nat.zero_add, if_pos rfl]
      exact List.length_filterMap_le _ [i]

/-- The name of an option is new if no value has been given for it. -/
theorem Takes.fresh_option (hl : l.Proper) (h : l.Takes past) {name : String}
    (hoption : name ∈ l.options) (hnew : ((Given.ofItems past).get? name).isSome = false) :
    ∀ j ∈ past, j.name? ≠ some name := by
  intro j hj hsame
  have hknows := h.knows j hj
  rw [Bool.eq_false_iff, ne_eq, Given.get_ofItems_isSome] at hnew
  cases j with
  | switch name' =>
      obtain rfl := Option.some.inj hsame
      exact (hl.switches _ hknows).1 hoption
  | joined name' value =>
      obtain rfl := Option.some.inj hsame
      exact hnew ⟨value, _, hj, rfl⟩
  | apart name' value =>
      obtain rfl := Option.some.inj hsame
      exact hnew ⟨value, _, hj, rfl⟩
  | positional text => exact nomatch hsame

/-- The name of a switch is new if it has not been set. -/
theorem Takes.fresh_switch (hl : l.Proper) (h : l.Takes past) {name : String}
    (hswitch : name ∈ l.switches) (hnew : name ∉ (Given.ofItems past).switches) :
    ∀ j ∈ past, j.name? ≠ some name := by
  intro j hj hsame
  have hknows := h.knows j hj
  cases j with
  | switch name' =>
      obtain rfl := Option.some.inj hsame
      exact hnew (List.mem_filterMap.mpr ⟨_, hj, rfl⟩)
  | joined name' value =>
      obtain rfl := Option.some.inj hsame
      exact (hl.switches _ hswitch).1 hknows.1
  | apart name' value =>
      obtain rfl := Option.some.inj hsame
      exact (hl.switches _ hswitch).1 hknows.1
  | positional text => exact nomatch hsame

/-- What is added has no value yet, and its value has passed its check. -/
theorem new_of_add (h : g.add name value = .ok g₁) :
    (g.get? name).isSome = false ∧ Given.check name value = .ok () := by
  rw [Given.add] at h
  split at h
  · cases h
  · rename_i hnew
    obtain ⟨_, hcheck, -⟩ := bind_eq_ok.mp h
    exact ⟨Bool.eq_false_iff.mpr hnew, hcheck⟩

/-- Behind an option that waits for its value comes the value. -/
theorem first_value (hl : l.Proper) (h : l.Takes past) (hoption : name ∈ l.options)
    {rest : List String}
    (hread : l.whole false { Given.ofItems past with pending := some (name, none) } rest
      = .ok (g, ended)) :
    ∃ value rest', rest = value :: rest' ∧ l.Takes (past ++ [.apart name value]) := by
  cases rest with
  | nil => exact nomatch hread
  | cons value rest =>
      refine ⟨value, rest, rfl, ?_⟩
      rw [whole_step (Or.inr (Or.inr rfl))] at hread
      obtain ⟨s, hstep, hrest⟩ := bind_eq_ok.mp hread
      rcases step_unsettled rfl hstep with ⟨-, rfl⟩ | ⟨-, hvalue, name', hpending, rfl⟩
      · exact absurd hrest (whole_unsettled rfl (Or.inl rfl) rest)
      · obtain ⟨rfl, -⟩ := Prod.mk.inj (Option.some.inj hpending)
        let g : Given := { Given.ofItems past with pending := some (name, some value) }
        cases hsettle : g.settle with
        | error u => exact absurd hrest (whole_unsettled hsettle (Or.inr rfl) rest)
        | ok g₁ =>
            have hadd : (Given.ofItems past).add name value = .ok g₁ := hsettle
            obtain ⟨hnew, hcheck⟩ := new_of_add hadd
            refine h.concat ⟨hoption, hcheck, hvalue⟩ ?_ (Or.inl rfl)
            intro name' hname'
            obtain rfl := Option.some.inj hname'
            exact h.fresh_option hl hoption hnew

/-- **In front of arguments that are taken stands an item**, if it is not two hyphens or a
    command. -/
theorem first_item (hl : l.Proper) (h : l.Takes past) {arg : String} {rest : List String}
    (hread : l.whole false (.ofItems past) (arg :: rest) = .ok (g, ended))
    (hhyphens : shape arg ≠ .hyphens) (hcommand : arg ∉ l.commands) :
    ∃ i rest', arg :: rest = i.args ++ rest' ∧ l.Takes (past ++ [i]) := by
  rw [whole_step (Or.inl hcommand)] at hread
  obtain ⟨s, hstep, hrest⟩ := bind_eq_ok.mp hread
  cases reads_of_step hstep with
  | hyphens hshape => exact absurd hshape hhyphens
  | @long _ _ name value hshape hlong =>
      by_cases hoption : name ∈ l.options
      · cases value with
        | some value =>
            rw [long_joined hoption, Given.settle_of_none rfl] at hlong
            obtain ⟨hnew, hcheck⟩ := new_of_add hlong
            refine ⟨.joined name value, rest, ?_, h.concat ⟨hoption, hcheck⟩ ?_ (Or.inl rfl)⟩
            · rw [eq_of_shape_some hshape]
              rfl
            · intro name' hname'
              obtain rfl := Option.some.inj hname'
              exact h.fresh_option hl hoption hnew
        | none =>
            rw [long_apart hoption, Given.settle_of_none rfl] at hlong
            obtain rfl := Except.ok.inj hlong
            obtain ⟨value, rest', rfl, htakes⟩ := first_value hl h hoption hrest
            refine ⟨.apart name value, rest', ?_, htakes⟩
            rw [eq_of_shape hshape]
            rfl
      · rcases long_eq_ok hlong with ⟨hknown, -⟩ | ⟨rfl, hknown, hadd⟩
        · exact absurd (List.contains_iff_mem.mp hknown) hoption
        · have hswitch := List.contains_iff_mem.mp hknown
          refine ⟨.switch name, rest, ?_, h.concat hswitch ?_ (Or.inl rfl)⟩
          · rw [eq_of_shape hshape]
            rfl
          · intro name' hname'
            obtain rfl := Option.some.inj hname'
            exact h.fresh_switch hl hswitch (Given.addSwitch_switches hadd).1
  | awaited _ hpending =>
      -- the items in front have been looked at, so none of them waits for a value
      exact nomatch hpending
  | plain hshape hplain =>
      obtain ⟨htakes, hfree, -⟩ := plain_eq_ok hplain
      refine ⟨.positional arg, rest, rfl, h.concat ⟨hshape, hcommand⟩ ?_ (Or.inr ⟨htakes, hfree⟩)⟩
      intro name hname
      cases hname

/-- What is read behind two hyphens is one value of the level at most. -/
theorem ends_of_hyphens {items : List Item} {rest : List String}
    (h : l.whole true (.ofItems items) rest = .ok (g, ended)) :
    l.Ends items ("--" :: rest) g ended := by
  cases rest with
  | nil =>
      obtain ⟨rfl, rfl⟩ := Prod.mk.inj (Except.ok.inj h)
      exact .hyphens
  | cons text rest =>
      rw [whole_step (Or.inr (Or.inl rfl))] at h
      obtain ⟨s, hstep, hrest⟩ := bind_eq_ok.mp h
      obtain ⟨g₁, hplain, rfl⟩ := map_eq_ok hstep
      obtain ⟨htakes, hfree, g₂, hsettle, rfl⟩ := plain_eq_ok hplain
      obtain rfl := Except.ok.inj hsettle
      cases rest with
      | nil =>
          obtain ⟨rfl, rfl⟩ := Prod.mk.inj (Except.ok.inj hrest)
          exact .value htakes hfree text
      | cons second rest =>
          rw [whole_step (Or.inr (Or.inl rfl))] at hrest
          obtain ⟨s, hstep, -⟩ := bind_eq_ok.mp hrest
          obtain ⟨g₁, hplain, -⟩ := map_eq_ok hstep
          exact nomatch (plain_eq_ok hplain).2.1

/-- What a level takes behind some items are items again, and what ends them. -/
theorem items_of_whole (hl : l.Proper) {past : List Item} (h : l.Takes past) (args : List String)
    (hread : l.whole false (.ofItems past) args = .ok (g, ended)) :
    ∃ items rest, args = items.flatMap Item.args ++ rest ∧ l.Takes (past ++ items) ∧
      l.Ends (past ++ items) rest g ended := by
  -- the induction is on the arguments: each item takes one of them at least
  cases args with
  | nil =>
      obtain ⟨rfl, rfl⟩ := Prod.mk.inj (Except.ok.inj hread)
      refine ⟨[], [], rfl, ?_⟩
      rw [List.append_nil]
      exact ⟨h, .done⟩
  | cons arg rest =>
      by_cases hcommand : arg ∈ l.commands
      · rw [whole_cons, List.contains_iff_mem.mpr hcommand] at hread
        obtain ⟨rfl, rfl⟩ := Prod.mk.inj (Except.ok.inj hread)
        refine ⟨[], arg :: rest, rfl, ?_⟩
        rw [List.append_nil]
        exact ⟨h, .command hcommand rest⟩
      · by_cases hhyphens : shape arg = .hyphens
        · obtain rfl := eq_of_shape_hyphens hhyphens
          rw [whole_step_ok (Or.inl hcommand) rfl] at hread
          refine ⟨[], "--" :: rest, rfl, ?_⟩
          rw [List.append_nil]
          exact ⟨h, ends_of_hyphens hread⟩
        · obtain ⟨i, rest', hargs, htakes⟩ := first_item hl h hread hhyphens hcommand
          have hshorter : rest'.length < (arg :: rest).length := by
            rw [hargs, List.length_append]
            have := i.args_length_pos
            omega
          rw [hargs, whole_item hl htakes] at hread
          obtain ⟨items, rest'', rfl, htaken, hends⟩ := items_of_whole hl htakes rest' hread
          refine ⟨i :: items, rest'', ?_, ?_⟩
          · rw [hargs, List.flatMap_cons, List.append_assoc]
          · rw [List.append_assoc] at htaken hends
            exact ⟨htaken, hends⟩
termination_by args.length

/-- **The arguments that a level takes are items, and what ends them.** -/
theorem whole_eq_ok (hl : l.Proper) {args : List String} :
    l.whole false {} args = .ok (g, ended) ↔ ∃ items rest,
      args = items.flatMap Item.args ++ rest ∧ l.Takes items ∧ l.Ends items rest g ended := by
  constructor
  · intro h
    exact items_of_whole hl ⟨List.forall_mem_nil _, List.nodup_nil, Nat.zero_le _⟩ args h
  · rintro ⟨items, rest, rfl, htakes, hends⟩
    rw [whole_items hl htakes, whole_ends hl hends]

end Level
end Postbox.CommandLine
