import Postbox.Proofs.Parts

/-! # Placement — where the general options stand

    A general option can stand before the command or behind it.  What is read says the same of
    both places: a value is given by an item, wherever it is (`or_get_eq_some`).  So items can
    be moved from one side to the other, if they stand once (`Parts.Moved`).

    But the two options of the CSRF header are checked side by side, not together: on each side
    both stand or none.  So they have their values from one side (`csrf_options_together`), and
    one of them cannot be moved without the other (`general_items_anywhere`). -/

namespace Postbox.CommandLine

variable {c : CommandLine} {g : Given}

/-! ## One side for a pair -/

/-- The items of a command line on its two sides; without a command there is one side. -/
inductive Parted : List String → List Item → List Item → Prop
  | alone {items : List Item} {tail : List String} {g : Given} (taken : outer.Takes items)
      (ends : outer.Ends items tail g none) : Parted (items.flatMap Item.args ++ tail) items []
  | command {p : Parts} (taken : p.Taken) : Parted p.args p.before p.behind

/-- The options have the values that items give them, whatever ends the items. -/
theorem Level.Ends.get_eq_some {l : Level} {items : List Item} {rest : List String}
    {ended : Option (String × List String)} (h : l.Ends items rest g ended)
    (htakes : l.Takes items) (name value : String) :
    g.get? name = some value ↔ Item.Gives items name value := by
  have hget : g.get? name = (Given.ofItems items).get? name := by
    cases h with
    | done => rfl
    | hyphens => rfl
    | value _ _ _ => rfl
    | command _ _ => rfl
  rw [hget, Level.get_eq_some htakes.once]

/-- What is read has two sides. -/
theorem parted_of_read {args : List String} (h : read args = .ok c) :
    ∃ before behind, Parted args before behind := by
  rcases parts_of_read h with ⟨items, _, _, rfl, htakes, hends⟩ | ⟨p, hp, rfl⟩
  · exact ⟨items, [], .alone htakes hends⟩
  · exact ⟨p.before, p.behind, .command hp⟩

/-- **The items on the two sides give what is read**, and each side has both options of the CSRF
    header or none. -/
theorem levels_of_parted {args : List String} {before behind : List Item}
    (hparted : Parted args before behind) (h : read args = .ok c) :
    ∃ command g g', c = ofLevels command g g' ∧ g.Paired ∧ g'.Paired ∧
      (∀ name value, g.get? name = some value ↔ Item.Gives before name value) ∧
      ∀ name value, g'.get? name = some value ↔ Item.Gives behind name value := by
  cases hparted with
  | @alone _ tail g htakes hends =>
      have hwhole := (Level.whole_eq_ok outer_proper).mpr ⟨before, tail, rfl, htakes, hends⟩
      rw [read_alone hwhole] at h
      obtain ⟨_, hpair, rfl⟩ := map_eq_ok h
      refine ⟨none, g, {}, rfl, Given.checkPair_eq_ok.mp hpair, rfl, hends.get_eq_some htakes, ?_⟩
      exact fun name value => ⟨nofun, fun ⟨_, hmem, _⟩ => nomatch hmem⟩
  | @command p hp =>
      obtain ⟨g, hends⟩ := hp.tail
      rw [hp.read] at h
      obtain ⟨_, hpair', h⟩ := bind_eq_ok.mp h
      obtain ⟨command, -, h⟩ := bind_eq_ok.mp h
      obtain ⟨_, hpair, rfl⟩ := map_eq_ok h
      refine ⟨some command, _, _, rfl, Given.checkPair_eq_ok.mp hpair,
        Given.checkPair_eq_ok.mp hpair', ?_, ?_⟩
      · exact fun name value => Level.get_eq_some hp.before.once
      · rw [← Parts.given_of_ends hends]
        exact hends.get_eq_some hp.behind

/-- Some items give one of the two options of the CSRF header, or both. -/
def GivesCsrf (items : List Item) : Prop :=
  ∃ value, Item.Gives items "csrf-header" value ∨ Item.Gives items "csrf-token" value

/-- A side has both options of the header or none. -/
theorem Given.Paired.cases (h : g.Paired) :
    (g.get? "csrf-header" = none ∧ g.get? "csrf-token" = none) ∨
      ∃ header token, g.get? "csrf-header" = some header ∧ g.get? "csrf-token" = some token := by
  rw [Given.Paired] at h
  cases hheader : g.get? "csrf-header" with
  | none =>
      rw [hheader] at h
      exact Or.inl ⟨rfl, Option.isNone_iff_eq_none.mp (Option.isSome_eq_false_iff.mp h.symm)⟩
  | some header =>
      rw [hheader] at h
      obtain ⟨token, htoken⟩ := Option.isSome_iff_exists.mp h.symm
      exact Or.inr ⟨header, token, rfl, htoken⟩

/-- A side on which the two options have no value does not give one. -/
theorem not_givesCsrf {items : List Item}
    (hget : ∀ name value, g.get? name = some value ↔ Item.Gives items name value)
    (hheader : g.get? "csrf-header" = none) (htoken : g.get? "csrf-token" = none) :
    ¬ GivesCsrf items := by
  rintro ⟨value, hgives | hgives⟩
  · exact nomatch hheader.symm.trans ((hget _ _).mpr hgives)
  · exact nomatch htoken.symm.trans ((hget _ _).mpr hgives)

/-- Both options of the header replace that of the settings. -/
theorem override_csrf {header token : String} (hheader : c.csrfHeader = some header)
    (htoken : c.csrfToken = some token) (s : Settings) :
    (c.override s).csrf = some ⟨header, token⟩ := by
  rw [override, hheader, htoken]

/-- Without a header's name that of the settings is kept. -/
theorem override_csrf_none (hheader : c.csrfHeader = none) (s : Settings) :
    (c.override s).csrf = s.csrf := by
  rw [override, hheader]

/-- One side gives both options of the header: that behind the command if it gives any. -/
def GivenTogether (before behind : List Item) (header token : String) : Prop :=
  (Item.Gives behind "csrf-header" header ∧ Item.Gives behind "csrf-token" token) ∨
    ¬ GivesCsrf behind ∧
      Item.Gives before "csrf-header" header ∧ Item.Gives before "csrf-token" token

/-- What is read has the header that the two sides give. -/
theorem csrf_of_parted {args : List String} {before behind : List Item}
    (hparted : Parted args before behind) (h : read args = .ok c) :
    (c.csrfHeader = none ∧ c.csrfToken = none ∧ ¬ GivesCsrf before ∧ ¬ GivesCsrf behind) ∨
      ∃ header token, c.csrfHeader = some header ∧ c.csrfToken = some token ∧
        GivenTogether before behind header token := by
  obtain ⟨command, g, g', rfl, hpair, hpair', hbefore, hbehind⟩ := levels_of_parted hparted h
  show ((g'.get? "csrf-header").or (g.get? "csrf-header") = none ∧
      (g'.get? "csrf-token").or (g.get? "csrf-token") = none ∧ _) ∨
    ∃ header token, (g'.get? "csrf-header").or (g.get? "csrf-header") = some header ∧
      (g'.get? "csrf-token").or (g.get? "csrf-token") = some token ∧ _
  rcases hpair'.cases with ⟨hheader', htoken'⟩ | ⟨header, token, hheader', htoken'⟩
  · -- nothing is given behind the command, so what is given before it holds
    have hnone := not_givesCsrf hbehind hheader' htoken'
    rw [hheader', htoken', Option.none_or, Option.none_or]
    rcases hpair.cases with ⟨hheader, htoken⟩ | ⟨header, token, hheader, htoken⟩
    · exact Or.inl ⟨hheader, htoken, not_givesCsrf hbefore hheader htoken, hnone⟩
    · exact Or.inr ⟨header, token, hheader, htoken,
        Or.inr ⟨hnone, (hbefore _ _).mp hheader, (hbefore _ _).mp htoken⟩⟩
  · -- what is given behind the command holds, whatever is given before it
    rw [hheader', htoken', Option.some_or, Option.some_or]
    exact Or.inr ⟨header, token, rfl, rfl,
      Or.inl ⟨(hbehind _ _).mp hheader', (hbehind _ _).mp htoken'⟩⟩

/-- A command line that is read has both options of the header, or none. -/
theorem read_together {args : List String} (h : read args = .ok c) :
    c.csrfHeader.isSome = c.csrfToken.isSome := by
  obtain ⟨before, behind, hparted⟩ := parted_of_read h
  rcases csrf_of_parted hparted h with ⟨hheader, htoken, -⟩ | ⟨_, _, hheader, htoken, -⟩
  · rw [hheader, htoken]
  · rw [hheader, htoken]
    rfl

/-- **The two options of the CSRF header stand together**, wherever they stand.  In every command
    line that is read both have a value or none.  If they have none, no item gives one, and the
    settings keep their header.  Otherwise both values are given on one side, that behind the
    command if it gives any, and they replace the header of the settings together. -/
theorem csrf_options_together {args : List String} (h : read args = .ok c) :
    c.csrfHeader.isSome = c.csrfToken.isSome ∧ (∃ before behind, Parted args before behind) ∧
    ∀ before behind, Parted args before behind →
      (c.csrfHeader = none ∧ c.csrfToken = none ∧ (∀ s, (c.override s).csrf = s.csrf) ∧
          ¬ GivesCsrf before ∧ ¬ GivesCsrf behind) ∨
        ∃ header token, c.csrfHeader = some header ∧ c.csrfToken = some token ∧
          (∀ s, (c.override s).csrf = some ⟨header, token⟩) ∧
          GivenTogether before behind header token := by
  refine ⟨read_together h, parted_of_read h, fun before behind hparted => ?_⟩
  rcases csrf_of_parted hparted h with ⟨hheader, htoken, hnone⟩ |
    ⟨header, token, hheader, htoken, hgiven⟩
  · exact Or.inl ⟨hheader, htoken, override_csrf_none hheader, hnone⟩
  · exact Or.inr ⟨header, token, hheader, htoken, override_csrf hheader htoken, hgiven⟩

/-- Both sides give a header with its token, in different ways: those behind the command hold. -/
theorem csrf_options_together_twice :
    let args := ["--csrf-header", "A", "--csrf-token=a", "show", "--csrf-token", "b", "7",
      "--csrf-header=B"]
    ∃ c, read args = .ok c ∧ (∀ s, (c.override s).csrf = some ⟨"B", "b"⟩) ∧
      ∃ before behind, Parted args before behind ∧ GivenTogether before behind "B" "b" := by
  intro args
  let c : CommandLine :=
    { command := some (.show "7"), csrfHeader := some "B", csrfToken := some "b" }
  have hread : read args = .ok c := rfl
  obtain ⟨-, ⟨before, behind, hparted⟩, hall⟩ := csrf_options_together hread
  rcases hall before behind hparted with
    ⟨hnone, -⟩ | ⟨header, token, hheader, htoken, hover, hside⟩
  · exact nomatch hnone
  · obtain rfl := Option.some.inj hheader
    obtain rfl := Option.some.inj htoken
    exact ⟨c, hread, hover, before, behind, hparted, hside⟩

/-! ## Both sides for the others -/

namespace Item

/-- An item that can stand on both sides of a command. -/
def IsGeneral : Item → Prop
  | switch name                => name ∈ generalSwitches
  | joined name _ | apart name _ => name ∈ generalOptions
  | positional _               => False

end Item

namespace Parts

variable {p p' : Parts}

/-- Every general switch and every general option stands once at most. -/
def Once (p : Parts) : Prop :=
  ∀ name ∈ generalSwitches ++ generalOptions,
    ((p.before ++ p.behind).filterMap Item.name?).count name ≤ 1

/-- The same items in other places: some may have been moved to the other side of the command,
    but only general ones stand before it. -/
structure Moved (p p' : Parts) : Prop where
  name : p'.name = p.name
  tail : p'.tail = p.tail
  items : (p'.before ++ p'.behind).Perm (p.before ++ p.behind)
  general : ∀ i ∈ p'.before, i.IsGeneral

/-- Before the command stand both options of the CSRF header or none. -/
def Together (p : Parts) : Prop :=
  (∃ value, Item.Gives p.before "csrf-header" value) ↔
    ∃ value, Item.Gives p.before "csrf-token" value

end Parts

/-- A general item has a general name. -/
theorem Item.IsGeneral.name {i : Item} (h : i.IsGeneral) {name : String}
    (hname : i.name? = some name) : name ∈ generalSwitches ++ generalOptions := by
  cases i with
  | switch name' =>
      obtain rfl := Option.some.inj hname
      exact List.mem_append_left _ h
  | joined name' value =>
      obtain rfl := Option.some.inj hname
      exact List.mem_append_right _ h
  | apart name' value =>
      obtain rfl := Option.some.inj hname
      exact List.mem_append_right _ h
  | positional text => exact nomatch h

/-- A general item is known on both sides, or on none. -/
theorem Item.IsGeneral.knows {i : Item} (h : i.IsGeneral) (command : String) :
    outer.Knows i ↔ (inner command).Knows i := by
  cases i with
  | switch name => exact ⟨fun _ => mem_switches.mpr (Or.inl h), fun _ => h⟩
  | joined name value =>
      exact and_congr_left fun _ => ⟨fun _ => mem_options.mpr (Or.inl h), fun _ => h⟩
  | apart name value =>
      exact and_congr_left fun _ => ⟨fun _ => mem_options.mpr (Or.inl h), fun _ => h⟩
  | positional text => exact nomatch h

/-- General items are no values of a level. -/
theorem values_of_general {items : List Item} (h : ∀ i ∈ items, i.IsGeneral) :
    items.filterMap Item.value? = [] := by
  rw [List.filterMap_eq_nil_iff]
  intro i hi
  cases i with
  | switch name => rfl
  | joined name value => rfl
  | apart name value => rfl
  | positional text => exact nomatch h _ hi

/-- Before a command all items are general. -/
theorem general_of_takes {items : List Item} (h : outer.Takes items) :
    ∀ i ∈ items, i.IsGeneral := by
  intro i hi
  have hknows := h.knows i hi
  cases i with
  | switch name => exact hknows
  | joined name value => exact hknows.1
  | apart name value => exact hknows.1
  | positional text =>
      have hlength : (items.filterMap Item.value?).length ≤ 0 := h.values
      have hmem : text ∈ items.filterMap Item.value? := List.mem_filterMap.mpr ⟨_, hi, rfl⟩
      rw [List.eq_nil_of_length_eq_zero (Nat.le_zero.mp hlength)] at hmem
      exact nomatch hmem

namespace Parts

variable {p p' : Parts}

/-- Where general items stand once, no name stands twice at all. -/
theorem Taken.nodup (hp : p.Taken) (honce : p.Once) :
    ((p.before ++ p.behind).filterMap Item.name?).Nodup := by
  rw [List.filterMap_append, List.nodup_append]
  refine ⟨hp.before.once, hp.behind.once, ?_⟩
  rintro name hmem _ hmem' rfl
  obtain ⟨i, hi, hname⟩ := List.mem_filterMap.mp hmem
  have htwice := honce name ((general_of_takes hp.before i hi).name hname)
  rw [List.filterMap_append, List.count_append] at htwice
  have hone := List.one_le_count_iff.mpr hmem
  have hone' := List.one_le_count_iff.mpr hmem'
  omega

namespace Moved

/-- A general item is moved from behind the command to the first place. -/
theorem first {i : Item} {before : List Item} (hi : i.IsGeneral)
    (hbefore : ∀ j ∈ before, j.IsGeneral) (name : String) (behind₁ behind₂ : List Item)
    (tail : List String) :
    Moved ⟨before, name, behind₁ ++ i :: behind₂, tail⟩
      ⟨i :: before, name, behind₁ ++ behind₂, tail⟩ where
  name := rfl
  tail := rfl
  items := by
    show (i :: before ++ (behind₁ ++ behind₂)).Perm (before ++ (behind₁ ++ i :: behind₂))
    rw [← List.append_assoc, ← List.append_assoc before]
    exact List.perm_middle.symm
  general := List.forall_mem_cons.mpr ⟨hi, hbefore⟩

/-- An item stands in one of its places before and after. -/
theorem mem_iff (hm : p.Moved p') {i : Item} :
    i ∈ p'.before ∨ i ∈ p'.behind ↔ i ∈ p.before ∨ i ∈ p.behind := by
  rw [← List.mem_append, ← List.mem_append]
  exact hm.items.mem_iff

/-- Items that are not general stay behind the command. -/
theorem own_mem_iff (hm : p.Moved p') (hp : p.Taken) {i : Item} (hown : ¬ i.IsGeneral) :
    i ∈ p'.behind ↔ i ∈ p.behind := by
  have hbefore : i ∉ p.before := fun hi => hown (general_of_takes hp.before i hi)
  have hbefore' : i ∉ p'.before := fun hi => hown (hm.general i hi)
  have hall := hm.mem_iff (i := i)
  simpa [hbefore, hbefore'] using hall

/-- The values of the level behind the command stay as they are. -/
theorem values (hm : p.Moved p') (hp : p.Taken) :
    p'.behind.filterMap Item.value? = p.behind.filterMap Item.value? := by
  have hperm := hm.items.filterMap Item.value?
  rw [List.filterMap_append, List.filterMap_append, values_of_general hm.general,
    values_of_general (general_of_takes hp.before), List.nil_append, List.nil_append] at hperm
  -- there is one value at most, so there is no other order
  have hlength := hp.behind.values
  have hone : (p.behind.filterMap Item.value?).length ≤ 1 := by
    split at hlength
    · exact hlength
    · omega
  cases hvalues : p.behind.filterMap Item.value? with
  | nil =>
      rw [hvalues] at hperm
      exact hperm.eq_nil
  | cons text rest =>
      rw [hvalues, List.length_cons] at hone
      have hrest : rest = [] := List.eq_nil_of_length_eq_zero (by omega)
      rw [hvalues, hrest] at hperm
      rw [hrest]
      exact List.perm_singleton.mp hperm

/-- **Parts whose items have been moved are taken**, too. -/
theorem taken (hm : p.Moved p') (hp : p.Taken) (honce : p.Once) : p'.Taken where
  before := by
    -- moving keeps the names of both sides together, so each side has none twice
    have hnodup := (hm.items.filterMap Item.name?).nodup_iff.mpr (hp.nodup honce)
    rw [List.filterMap_append] at hnodup
    refine ⟨fun i hi => ?_, (List.nodup_append.mp hnodup).1, ?_⟩
    · have hgeneral := hm.general i hi
      rcases hm.mem_iff.mp (Or.inl hi) with hmem | hmem
      · exact hp.before.knows i hmem
      · exact (hgeneral.knows p.name).mpr (hp.behind.knows i hmem)
    · rw [values_of_general hm.general]
      exact Nat.zero_le _
  known := by
    rw [hm.name]
    exact hp.known
  behind := by
    have hnodup := (hm.items.filterMap Item.name?).nodup_iff.mpr (hp.nodup honce)
    rw [List.filterMap_append] at hnodup
    rw [hm.name]
    refine ⟨fun i hi => ?_, (List.nodup_append.mp hnodup).2.1, ?_⟩
    · rcases hm.mem_iff.mp (Or.inr hi) with hmem | hmem
      · exact ((general_of_takes hp.before i hmem).knows p.name).mp (hp.before.knows i hmem)
      · exact hp.behind.knows i hmem
    · rw [hm.values hp]
      exact hp.behind.values
  -- the value behind two hyphens is free as before: values of the level are not moved
  tail := by
    obtain ⟨g, hends⟩ := hp.tail
    have hvalue : (Given.ofItems p'.behind).value = (Given.ofItems p.behind).value :=
      congrArg List.head? (hm.values hp)
    rw [hm.name, hm.tail]
    generalize p.tail = tail at hends
    cases hends with
    | done => exact ⟨_, .done⟩
    | hyphens => exact ⟨_, .hyphens⟩
    | value takes free text => exact ⟨_, .value takes (hvalue.trans free) text⟩

/-- What is given for an option of the command's own stays as it is. -/
theorem get_own (hm : p.Moved p') (hp : p.Taken) (honce : p.Once) {name : String}
    (hown : name ∉ generalSwitches ++ generalOptions) :
    p'.given.get? name = p.given.get? name := by
  refine Option.ext fun value => ?_
  show (Given.ofItems p'.behind).get? name = some value
    ↔ (Given.ofItems p.behind).get? name = some value
  rw [Level.get_eq_some (hm.taken hp honce).behind.once, Level.get_eq_some hp.behind.once]
  refine exists_congr fun i => and_congr_left fun hoption => ?_
  exact hm.own_mem_iff hp fun hgeneral => hown (hgeneral.name (Item.name_of_option hoption))

/-- A switch of the command's own stays set or not. -/
theorem switch_own (hm : p.Moved p') (hp : p.Taken) {name : String}
    (hown : name ∉ generalSwitches ++ generalOptions) :
    p'.given.switches.contains name = p.given.switches.contains name := by
  rw [Bool.eq_iff_iff, List.contains_iff_mem, List.contains_iff_mem]
  show name ∈ p'.behind.filterMap Item.switch? ↔ name ∈ p.behind.filterMap Item.switch?
  rw [List.mem_filterMap, List.mem_filterMap]
  refine exists_congr fun i => and_congr_left fun hswitch => ?_
  exact hm.own_mem_iff hp fun hgeneral => hown (hgeneral.name (Item.name_of_switch hswitch))

/-- **The command stays the same.** -/
theorem commandOf_eq (hm : p.Moved p') (hp : p.Taken) (honce : p.Once) :
    commandOf p'.name p'.given = commandOf p.name p.given := by
  have hvalue : p'.given.value = p.given.value := by
    show (p'.behind.filterMap Item.value? ++ p'.tail.tail).head? = _
    rw [hm.values hp, hm.tail]
    rfl
  rw [hm.name]
  unfold commandOf
  split
  · rw [hvalue]
  · rw [hm.get_own hp honce (by decide), hm.get_own hp honce (by decide)]
  · rw [hm.switch_own hp (by decide)]
  · rfl

end Moved

/-- **The value of an option is given on one of the sides**, if no name stands twice. -/
theorem or_get_eq_some {before behind : List Item}
    (hnodup : ((before ++ behind).filterMap Item.name?).Nodup) (name value : String) :
    ((Given.ofItems behind).get? name).or ((Given.ofItems before).get? name) = some value ↔
      Item.Gives (before ++ behind) name value := by
  have hparts := hnodup
  rw [List.filterMap_append, List.nodup_append] at hparts
  obtain ⟨hbefore, hbehind, -⟩ := hparts
  rw [Item.gives_append, Option.or_eq_some_iff, Level.get_eq_some hbefore,
    Level.get_eq_some hbehind]
  constructor
  · rintro (h | ⟨-, h⟩)
    · exact Or.inr h
    · exact Or.inl h
  · rintro (h | h)
    · cases hvalue : (Given.ofItems behind).get? name with
      | none => exact Or.inr ⟨rfl, h⟩
      | some value' =>
          have hbehind := Given.gives_of_get hvalue
          obtain rfl := Level.gives_unique hnodup (Item.gives_append.mpr (Or.inl h))
            (Item.gives_append.mpr (Or.inr hbehind))
          exact Or.inl hbehind
    · exact Or.inl h

namespace Moved

/-- **The values of the options stay the same**, on whatever side they are given. -/
theorem ofLevels_eq (hm : p.Moved p') (hp : p.Taken) (honce : p.Once)
    (command : Option Command) : ofLevels command (.ofItems p'.before) p'.given
      = ofLevels command (.ofItems p.before) p.given := by
  have hnodup := hp.nodup honce
  have hnodup' := (hm.items.filterMap Item.name?).nodup_iff.mpr hnodup
  -- a value, and the switch, are looked for on both sides, so the side does not matter
  have hvalue : ∀ name, (p'.given.get? name).or ((Given.ofItems p'.before).get? name)
      = (p.given.get? name).or ((Given.ofItems p.before).get? name) := by
    intro name
    refine Option.ext fun value => ?_
    rw [show p'.given.get? name = (Given.ofItems p'.behind).get? name from rfl,
      show p.given.get? name = (Given.ofItems p.behind).get? name from rfl,
      or_get_eq_some hnodup', or_get_eq_some hnodup]
    exact exists_congr fun i => and_congr_left fun _ => hm.items.mem_iff
  have hdebug : (p'.given.switches.contains "debug"
        || (Given.ofItems p'.before).switches.contains "debug")
      = (p.given.switches.contains "debug"
        || (Given.ofItems p.before).switches.contains "debug") := by
    have hset : ∀ before behind : List Item,
        ((Given.ofItems behind).switches.contains "debug"
          || (Given.ofItems before).switches.contains "debug") = true ↔
        ∃ i ∈ before ++ behind, i.switch? = some "debug" := by
      intro before behind
      rw [Bool.or_eq_true, List.contains_iff_mem, List.contains_iff_mem, or_comm]
      simp only [Given.ofItems, List.mem_filterMap, List.mem_append, or_and_right, exists_or]
    rw [Bool.eq_iff_iff]
    refine (hset p'.before p'.behind).trans (Iff.trans ?_ (hset p.before p.behind).symm)
    exact exists_congr fun i => and_congr_left fun _ => hm.items.mem_iff
  unfold ofLevels
  rw [hdebug]
  simp only [hvalue]

end Moved

/-- A side is paired if items on it give both options of the header, or none. -/
theorem paired_iff {items : List Item} : (Given.ofItems items).Paired ↔
    ((∃ value, Item.Gives items "csrf-header" value) ↔
      ∃ value, Item.Gives items "csrf-token" value) := by
  rw [← Given.get_ofItems_isSome, ← Given.get_ofItems_isSome]
  exact Bool.eq_iff_iff

/-- If the options of the header stand once, and both stand or none, then on one side both stand
    or none if and only if they do so on the other. -/
theorem paired_sides {before behind : List Item}
    (hnodup : ((before ++ behind).filterMap Item.name?).Nodup)
    (hall : (∃ value, Item.Gives (before ++ behind) "csrf-header" value) ↔
      ∃ value, Item.Gives (before ++ behind) "csrf-token" value) :
    (Given.ofItems behind).Paired ↔ (Given.ofItems before).Paired := by
  have hapart : ∀ name, ¬ ((∃ value, Item.Gives before name value) ∧
      ∃ value, Item.Gives behind name value) := by
    rintro name ⟨⟨value, i, hi, hoption⟩, value', j, hj, hoption'⟩
    rw [List.filterMap_append, List.nodup_append] at hnodup
    exact hnodup.2.2 name (List.mem_filterMap.mpr ⟨i, hi, Item.name_of_option hoption⟩) name
      (List.mem_filterMap.mpr ⟨j, hj, Item.name_of_option hoption'⟩) rfl
  have hheader := hapart "csrf-header"
  have htoken := hapart "csrf-token"
  simp only [Item.gives_append, exists_or] at hall
  rw [paired_iff, paired_iff]
  grind

/-- What is read gives both options of the header, or none. -/
theorem Taken.gives_iff {p : Parts} (hpair : (Given.ofItems p.before).Paired)
    (hpair' : p.given.Paired) :
    (∃ value, Item.Gives (p.before ++ p.behind) "csrf-header" value) ↔
      ∃ value, Item.Gives (p.before ++ p.behind) "csrf-token" value := by
  have hpair' : (Given.ofItems p.behind).Paired := hpair'
  simp only [Item.gives_append, exists_or]
  rw [paired_iff.mp hpair, paired_iff.mp hpair']

end Parts

/-- **General options can stand anywhere**, before the command or behind it.  Every command line
    that is read and has a command consists of items before the command and items behind it.  If
    its general items stand once each, any of them may be moved to the other side, be it one or
    some, to whatever place: what is read is the same, if the two options of the CSRF header have
    been moved together or not at all.  If one of these two has been moved without the other, the
    command line is refused. -/
theorem general_items_anywhere {args : List String} {c : CommandLine} (h : read args = .ok c)
    (hcommand : c.command ≠ none) :
    (∃ p : Parts, p.Taken ∧ args = p.args) ∧
    ∀ p : Parts, p.Taken → args = p.args → p.Once → ∀ p' : Parts, p.Moved p' →
      (p'.Together → read p'.args = .ok c) ∧
      (¬ p'.Together → read p'.args = .error .missingArgument) := by
  constructor
  · rcases parts_of_read h with ⟨items, tail, g, rfl, htakes, hends⟩ | hparts
    · have hwhole := (Level.whole_eq_ok outer_proper).mpr ⟨items, tail, rfl, htakes, hends⟩
      rw [read_alone hwhole] at h
      obtain ⟨_, -, rfl⟩ := map_eq_ok h
      exact absurd rfl hcommand
    · exact hparts
  · rintro p hp rfl honce p' hm
    rw [hp.read] at h
    obtain ⟨_, hpair', h⟩ := bind_eq_ok.mp h
    obtain ⟨command, hof, h⟩ := bind_eq_ok.mp h
    obtain ⟨_, hpair, rfl⟩ := map_eq_ok h
    have hnodup := (hm.items.filterMap Item.name?).nodup_iff.mpr (hp.nodup honce)
    have hall := Parts.Taken.gives_iff (Given.checkPair_eq_ok.mp hpair)
      (Given.checkPair_eq_ok.mp hpair')
    have hgives : ∀ name, (∃ value, Item.Gives (p'.before ++ p'.behind) name value) ↔
        ∃ value, Item.Gives (p.before ++ p.behind) name value := by
      intro name
      exact exists_congr fun value => exists_congr fun i => and_congr_left fun _ =>
        hm.items.mem_iff
    rw [← hgives, ← hgives] at hall
    -- each option of the header stands once, so the sides are paired together or not at all
    have hsides := Parts.paired_sides hnodup hall
    rw [(hm.taken hp honce).read, hm.commandOf_eq hp honce, hof,
      ← hm.ofLevels_eq hp honce (some command)]
    constructor
    · intro htogether
      have hbefore : (Given.ofItems p'.before).Paired := Parts.paired_iff.mpr htogether
      have hbehind : p'.given.Paired := hsides.mpr hbefore
      rw [Given.checkPair_eq_ok.mpr hbefore, Given.checkPair_eq_ok.mpr hbehind]
      rfl
    · intro hsplit
      have hbehind : ¬ p'.given.Paired := fun hbehind =>
        hsplit (Parts.paired_iff.mp (hsides.mp hbehind))
      rw [Given.checkPair_eq_error hbehind]
      rfl

/-- Options on both sides of a command. -/
def Parts.mixed : Parts where
  before := [.joined "base-url" "u"]
  name   := "show"
  behind := [.apart "timeout" "5", .positional "7", .switch "debug"]
  tail   := []

/-- A timeout is moved from behind the name of the command to the first place. -/
theorem general_items_anywhere_timeout :
    let c : CommandLine :=
      { command := some (.show "7"), debug := true, baseUrl := some "u", timeout := some 5 }
    read ["--base-url=u", "show", "--timeout", "5", "7", "--debug"] = .ok c ∧
      read ["--timeout", "5", "--base-url=u", "show", "7", "--debug"] = .ok c := by
  intro c
  have hread : read Parts.mixed.args = .ok c := rfl
  have hdebug : "debug" ∈ generalSwitches := by decide
  have hbase : "base-url" ∈ generalOptions := by decide
  have htimeout : "timeout" ∈ generalOptions := by decide
  have htaken : Parts.mixed.Taken :=
    { before := ⟨List.forall_mem_singleton.mpr ⟨hbase, rfl⟩, by decide, by decide⟩
      known := by decide
      behind := by
        refine ⟨List.forall_mem_cons.mpr ⟨⟨mem_options.mpr (Or.inl htimeout), rfl, rfl⟩,
          List.forall_mem_cons.mpr ⟨⟨rfl, nofun⟩, List.forall_mem_singleton.mpr ?_⟩⟩,
          by decide, by decide⟩
        exact mem_switches.mpr (Or.inl hdebug)
      tail := ⟨_, .done⟩ }
  have honce : Parts.mixed.Once :=
    show ∀ name ∈ generalSwitches ++ generalOptions,
      ["base-url", "timeout", "debug"].count name ≤ 1 by decide
  have hmoved := Parts.Moved.first (i := .apart "timeout" "5") htimeout
    (general_of_takes htaken.before) "show" [] [.positional "7", .switch "debug"] []
  obtain ⟨-, hall⟩ := general_items_anywhere hread nofun
  exact ⟨hread, (hall .mixed htaken rfl honce _ hmoved).1 (Parts.paired_iff.mp rfl)⟩

/-- **One option of the CSRF header cannot be moved alone.**  Both are read before the command,
    where each stands once; with one of them behind it the command line is refused. -/
theorem csrf_option_alone_refused :
    read ["--csrf-token", "t", "--csrf-header", "X", "list"]
      = .ok { command := some .list, csrfHeader := some "X", csrfToken := some "t" } ∧
    read ["--csrf-token", "t", "list", "--csrf-header", "X"] = .error .missingArgument :=
  ⟨rfl, rfl⟩

end Postbox.CommandLine
