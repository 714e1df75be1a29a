import RelayDevice.Proofs.Session.Composition

/-!
# The names of events

An installation may give events of a feature other names, under which the relay knows them. The
names that a feature declares are checked when its registry is built, and the names that the relay
knows are checked against those of the other parts when it is installed. Neither check looks at an
alias beside the other events of its own feature, nor at its form.

`Dispatcher.event_names_proper_iff` says what that leaves open: the names of the events of a device
are proper, that is of the right form and all different, exactly if each feature has proper aliases
(`Installed.HasProperAliases`). Two parts never share a name (`Composed.nodup_eventNames_iff`).
`Dispatcher.event_names_alarm` is about a feature whose aliases are not proper.
-/

namespace RelayDevice

variable {σ φ : Type}

/-! ### The events of a feature -/

namespace Installed

/-- The other name of an event of the feature, if it has one; of several the last counts. -/
def alias? (i : Installed φ) (event : String) : Option String :=
  List.lookup event i.aliases.reverse

theorem translate_eq (i : Installed φ) (event : String) :
    i.translate event = (i.alias? event).getD event := rfl

/-- The names of the feature's events, as the relay knows them. -/
def eventNames (i : Installed φ) : List String := i.descriptor.events.map (·.name)

theorem eventNames_eq (i : Installed φ) :
    i.eventNames = (i.registry.declared.events.map (·.name)).map i.translate := by
  rw [eventNames, descriptor, List.map_map, List.map_map]
  rfl

/-- **Aliases as they should be**: names of the right form, by which no two events of the feature
become one. -/
structure HasProperAliases (i : Installed φ) : Prop where
  /-- Every other name of an event is a name. -/
  valid : ∀ event ∈ i.registry.declared.events, ∀ other, i.alias? event.name = some other →
    isValidName other
  /-- Different events stay different. -/
  distinct : ∀ event ∈ i.registry.declared.events, ∀ event' ∈ i.registry.declared.events,
    i.translate event.name = i.translate event'.name → event.name = event'.name

theorem nodup_eventNames_iff (i : Installed φ) :
    i.eventNames.Nodup ↔
      ∀ event ∈ i.registry.declared.events, ∀ event' ∈ i.registry.declared.events,
        i.translate event.name = i.translate event'.name → event.name = event'.name := by
  rw [eventNames_eq, List.nodup_map_iff_inj_on i.registry.wellFormed.events.1]
  simp only [List.forall_mem_map]

theorem forall_isValidName_iff (i : Installed φ) :
    (∀ name ∈ i.eventNames, isValidName name) ↔
      ∀ event ∈ i.registry.declared.events, ∀ other, i.alias? event.name = some other →
        isValidName other := by
  simp only [eventNames_eq, List.forall_mem_map]
  refine forall₂_congr fun event declared => ?_
  -- the name that the feature declares was checked, so only an alias can have a wrong form
  have own : isValidName event.name :=
    (i.registry.wellFormed.events.2 _ (List.mem_map_of_mem declared)).1
  rw [translate_eq]
  cases i.alias? event.name with
  | none => exact iff_of_true own nofun
  | some other => simp

end Installed

/-! ### The events of a device -/

namespace Dispatcher

theorem eventNames_install (d : Dispatcher σ φ) (i : Installed φ) :
    ({ d with features := d.features ++ [i] } : Dispatcher σ φ).eventNames
      = d.eventNames ++ i.eventNames := by
  rw [eventNames, descriptor_install, Descriptor.append, List.map_append]
  rfl

theorem SameParts.forall_eventNames_iff {d e : Dispatcher σ φ} (same : d.SameParts e)
    (P : List String → Prop) :
    (∀ f ∈ e.features, P f.eventNames) ↔ ∀ f ∈ d.features, P f.eventNames := by
  have descriptors := congrArg (fun ds => ∀ x ∈ ds, P (x.events.map (·.name))) same.map_descriptor_eq
  simp only [List.forall_mem_map] at descriptors
  exact iff_of_eq descriptors

/-- **Parts have no event in common.** So the names of all events are different if those of each
feature are. -/
theorem Composed.nodup_eventNames_iff {d : Dispatcher σ φ} (composed : d.Composed) :
    d.eventNames.Nodup ↔ ∀ f ∈ d.features, f.eventNames.Nodup := by
  induction composed with
  | alone state registry account => exact iff_of_true registry.wellFormed.events.1 nofun
  | @installed d _ _ _ i _ _ added ih =>
    obtain ⟨fits, rfl⟩ := install_eq_ok_iff.1 added
    -- the check of the feature compares its names with those of all other parts
    have apart : ∀ name ∈ d.eventNames, ∀ name' ∈ i.eventNames, name ≠ name' :=
      fun _ h _ h' same => fits.events _ h' (same ▸ h)
    rw [eventNames_install, List.nodup_append, List.forall_mem_append, List.forall_mem_singleton,
      ← ih]
    exact ⟨fun h => ⟨h.1, h.2.1⟩, fun h => ⟨h.1, h.2, apart⟩⟩
  | lived _ same ih =>
    rw [eventNames, same.descriptor_eq, same.forall_eventNames_iff (·.Nodup)]
    exact ih

theorem eventNames_eq (d : Dispatcher σ φ) :
    d.eventNames = d.registry.declared.events.map (·.name)
      ++ d.features.flatMap Installed.eventNames := by
  rw [eventNames, descriptor_eq_foldl, Descriptor.foldl_append, List.map_append, List.flatMap_map,
    List.map_flatMap]
  rfl

/-- The names of a device's own events have the right form. -/
theorem forall_isValidName_iff (d : Dispatcher σ φ) :
    (∀ name ∈ d.eventNames, isValidName name) ↔
      ∀ f ∈ d.features, ∀ name ∈ f.eventNames, isValidName name := by
  rw [eventNames_eq, List.forall_mem_append]
  have own : ∀ name ∈ d.registry.declared.events.map (·.name), isValidName name :=
    fun name h => (d.registry.wellFormed.events.2 name h).1
  rw [and_iff_right own]
  simp only [List.mem_flatMap]
  exact ⟨fun h f hf name hn => h name ⟨f, hf, hn⟩, fun h name ⟨f, hf, hn⟩ => h f hf name hn⟩

/-- **The events of a device have proper names**, different from each other and of the right form,
exactly if every feature was installed with proper aliases. -/
theorem event_names_proper_iff {d : Dispatcher σ φ} (composed : d.Composed) :
    (d.eventNames.Nodup ∧ ∀ name ∈ d.eventNames, isValidName name) ↔
      ∀ f ∈ d.features, f.HasProperAliases := by
  rw [composed.nodup_eventNames_iff, forall_isValidName_iff]
  constructor
  · rintro ⟨distinct, valid⟩ f hf
    exact ⟨f.forall_isValidName_iff.1 (valid f hf), f.nodup_eventNames_iff.1 (distinct f hf)⟩
  · intro proper
    exact ⟨fun f hf => f.nodup_eventNames_iff.2 (proper f hf).distinct,
      fun f hf => f.forall_isValidName_iff.2 (proper f hf).valid⟩

/-! ### Two timers and an alarm -/

theorem check_nothing : (⟨[], [], [], .unknown⟩ : Declarations Unit).check = .ok () := rfl

/-- A device that declares nothing. -/
def mute : Registry Unit := ⟨_, check_nothing⟩

/-- A feature that declares nothing but events. -/
def announcer (name : String) (events : List String) : Feature Unit where
  name
  declared := ⟨[], events.map (⟨·, []⟩), [], .unknown⟩
  initial := ()
  setup := fun _ => ((), none)
  tick := fun _ => .done ((), none)
  tickEvery := 1

theorem check_timer : (announcer "timer" ["rang"]).declared.check = .ok () := by decide +kernel

/-- A timer that rings under another name. -/
def timer (other : String) : Installed Unit :=
  ⟨announcer "timer" ["rang"], ⟨_, check_timer⟩, [("rang", other)], (), 0⟩

/-- A device with two timers. -/
def timers : Dispatcher Unit Unit := ⟨(), mute, [timer "egg_done", timer "tea_done"], ⟨"u", "k"⟩⟩

theorem composed_timers : timers.Composed := by
  have rings : (timer "").registry.hasEvent "rang" := by decide +kernel
  have own : ∀ other, ∀ entry ∈ [("rang", other)], (timer other).registry.hasEvent entry.1 := by
    intro other entry h
    rw [List.mem_singleton.1 h]
    exact rings
  have one := (Composed.alone () mute ⟨"u", "k"⟩).add check_timer (own "egg_done") (by decide +kernel)
  exact one.add check_timer (own "tea_done") (by decide +kernel)

theorem event_names_timers :
    timers.Composed ∧ (∀ f ∈ timers.features, f.HasProperAliases) ∧
      timers.eventNames = ["egg_done", "tea_done"] := by
  have names : timers.eventNames = ["egg_done", "tea_done"] := by decide +kernel
  refine ⟨composed_timers, (event_names_proper_iff composed_timers).1 ?_, names⟩
  rw [names]
  decide +kernel

theorem check_alarm : (announcer "alarm" ["armed", "raised"]).declared.check = .ok () := by
  decide +kernel

/-- One name, and not one of the right form, for both events of an alarm. -/
def alarmAliases : List (String × String) := [("armed", "alarm!"), ("raised", "alarm!")]

/-- A device with an alarm under these aliases. -/
def alarm : Dispatcher Unit Unit :=
  ⟨(), mute, [⟨announcer "alarm" ["armed", "raised"], ⟨_, check_alarm⟩, alarmAliases, (), 0⟩],
    ⟨"u", "k"⟩⟩

theorem composed_alarm : alarm.Composed := by
  have own : ∀ entry ∈ alarmAliases, (⟨_, check_alarm⟩ : Registry Unit).hasEvent entry.1 := by
    decide +kernel
  exact (Composed.alone () mute ⟨"u", "k"⟩).add check_alarm own (by decide +kernel)

/-- **Installation lets improper names pass.** -/
theorem event_names_alarm :
    alarm.Composed ∧ alarm.eventNames = ["alarm!", "alarm!"] ∧ ¬ alarm.eventNames.Nodup ∧
      ¬ ∀ name ∈ alarm.eventNames, isValidName name := by
  have names : alarm.eventNames = ["alarm!", "alarm!"] := by decide +kernel
  refine ⟨composed_alarm, names, ?_, ?_⟩
  · rw [names]
    decide
  · rw [names]
    decide +kernel

end Dispatcher

end RelayDevice
