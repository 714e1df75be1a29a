import RelayDevice.Proofs.Session.Status

/-!
# Attempts to install features

A device may be offered any number of features, one after the other. A feature is first checked for
itself and then beside all parts that are there. It becomes a further part or is turned away, and
the next feature is looked at in either case.

The names of actions and of status components are what requests and values go by, so no two parts
may share one. `Dispatcher.NamesApart` says this, and what else is promised of names, about the
declarations of all parts. None of it is checked on the whole device: every installation only
compares the new part with the others. The step is therefore `Dispatcher.Composed.attempt`, an
attempt leads from one composition to another, and `Dispatcher.Composed.namesApart` is what
compositions have in common. `Dispatcher.names_apart_after_attempts` joins them for any sequence of
attempts. What was turned away leaves nothing behind: the device is the one that the accepted
features make (`Dispatcher.attemptAll_eq`).
-/

namespace RelayDevice

variable {σ φ : Type}

/-! ### The names of all parts -/

namespace Registry

/-- The names of the actions of a part. -/
def actionNames (r : Registry σ) : List String := r.declared.actions.map (·.name)

/-- The names of the status components of a part. -/
def statusNames (r : Registry σ) : List String := r.declared.status.map (·.name)

/-- **Inputs as they must be.** An action takes at most eight arguments, with different names of 1
to 255 octets. -/
def HasProperInputs (r : Registry σ) : Prop :=
  ∀ a ∈ r.declared.actions, a.arguments.length ≤ 8 ∧ AreArguments a.arguments

theorem isValidName_of_mem {r : Registry σ} {name : String}
    (declared : name ∈ r.actionNames ∨ name ∈ r.statusNames) : isValidName name := by
  rcases declared with action | status
  · exact (r.wellFormed.actions.2 name action).1
  · exact (r.wellFormed.status.2 name status).1

end Registry

namespace Dispatcher

/-- The names of all actions, of the device and of each feature. -/
def actionNames (d : Dispatcher σ φ) : List String :=
  d.registry.actionNames ++ d.features.flatMap (·.registry.actionNames)

/-- The names of all status components, of the device and of each feature. -/
def statusNames (d : Dispatcher σ φ) : List String :=
  d.registry.statusNames ++ d.features.flatMap (·.registry.statusNames)

/-- **Names as they must be**, over all parts of a device. -/
structure NamesApart (d : Dispatcher σ φ) : Prop where
  /-- No two actions have one name, whatever parts they belong to. -/
  actions : d.actionNames.Nodup
  /-- Nor have two status components. -/
  status : d.statusNames.Nodup
  /-- Every name has the right form. -/
  valid : ∀ name, name ∈ d.actionNames ∨ name ∈ d.statusNames → isValidName name
  /-- All parts together have few status components. -/
  few : d.statusNames.length ≤ 8
  /-- The actions of the device take proper inputs. -/
  inputs : d.registry.HasProperInputs
  /-- So do the actions of every feature. -/
  featureInputs : ∀ f ∈ d.features, f.registry.HasProperInputs

theorem map_name_status (d : Dispatcher σ φ) :
    d.descriptor.status.map (·.name) = d.statusNames := by
  have own {ω : Type} (r : Registry ω) : r.statusDefs.map (·.name) = r.statusNames := by
    rw [Registry.statusDefs, List.map_map]
    rfl
  rw [← statusDefs_eq, statusDefs, List.map_append, List.map_flatMap, own]
  exact congrArg _ (List.flatMap_congr fun f _ => own f.registry)

/-- **Whatever is put together keeps names apart.** -/
theorem Composed.namesApart {d : Dispatcher σ φ} (composed : d.Composed) : d.NamesApart where
  actions := by
    have distinct := composed.nodup_actions
    rw [actionNames_eq] at distinct
    exact distinct
  status := d.map_name_status ▸ composed.nodup_status
  valid name declared := by
    simp only [actionNames, statusNames, List.mem_append, List.mem_flatMap] at declared
    -- the form of a name was checked by the part that declares it
    rcases declared with (action | ⟨f, -, action⟩) | status | ⟨f, -, status⟩
    · exact Registry.isValidName_of_mem (.inl action)
    · exact Registry.isValidName_of_mem (.inl action)
    · exact Registry.isValidName_of_mem (.inr status)
    · exact Registry.isValidName_of_mem (.inr status)
  few := by
    rw [← map_name_status, List.length_map]
    exact composed.length_status_le
  inputs := d.registry.wellFormed.inputs
  featureInputs f _ := f.registry.wellFormed.inputs

/-! ### One attempt -/

/-- **An attempt to install a feature**, given with other names for some of its events: the result,
and the device afterwards. -/
def attempt (d : Dispatcher σ φ) (offer : Feature φ × List (String × String)) :
    Except RegistryError Unit × Dispatcher σ φ :=
  match Installed.make offer.1 offer.2 with
  | .error e => (.error e, d)
  | .ok i =>
    match d.install i with
    | .error e => (.error e, d)
    | .ok larger => (.ok (), larger)

/-- It is what adding a feature to a device comes down to. -/
theorem addFeature_eq_attempt (s : DeviceSession σ φ) (f : Feature φ)
    (aliases : List (String × String)) :
    s.addFeature f aliases = (s.dispatcher.attempt (f, aliases)).1.map fun () =>
      { s with dispatcher := (s.dispatcher.attempt (f, aliases)).2 } := by
  rw [DeviceSession.addFeature, attempt]
  dsimp only
  cases Installed.make f aliases with
  | error e => rfl
  | ok i =>
    dsimp only
    cases s.dispatcher.install i <;> rfl

/-- **The two outcomes of an attempt.** The feature is sound and fits, and becomes the last one of
the device; or the device is as it was. -/
theorem attempt_cases (d : Dispatcher σ φ) (offer : Feature φ × List (String × String)) :
    (∃ i, Installed.make offer.1 offer.2 = .ok i ∧ d.descriptor.Fits i.descriptor ∧
      d.attempt offer = (.ok (), { d with features := d.features ++ [i] })) ∨
    ∃ e, d.attempt offer = (.error e, d) := by
  rw [attempt]
  cases Installed.make offer.1 offer.2 with
  | error e => exact .inr ⟨e, rfl⟩
  | ok i =>
    dsimp only
    cases added : d.install i with
    | error e => exact .inr ⟨e, rfl⟩
    | ok larger =>
      obtain ⟨fits, rfl⟩ := install_eq_ok_iff.1 added
      exact .inl ⟨i, rfl, fits, rfl⟩

/-- **An attempt leads from one composition to another.** -/
theorem Composed.attempt {d : Dispatcher σ φ} (composed : d.Composed)
    (offer : Feature φ × List (String × String)) : (d.attempt offer).2.Composed := by
  rcases d.attempt_cases offer with ⟨i, sound, fits, accepted⟩ | ⟨e, rejected⟩
  · rw [accepted]
    exact .installed composed sound (install_eq_ok_iff.2 ⟨fits, rfl⟩)
  · rw [rejected]
    exact composed

/-! ### Any number of attempts -/

/-- The device after some attempts, however each of them ends. -/
def attemptAll (d : Dispatcher σ φ) (offers : List (Feature φ × List (String × String))) :
    Dispatcher σ φ :=
  offers.foldl (fun d offer => (d.attempt offer).2) d

/-- The features among those on offer that are accepted, in order. -/
def accepted (d : Dispatcher σ φ) :
    List (Feature φ × List (String × String)) → List (Feature φ × List (String × String))
  | [] => []
  | offer :: rest =>
    match d.attempt offer with
    | (.ok (), larger) => offer :: larger.accepted rest
    | (.error _, d) => d.accepted rest

theorem Composed.attemptAll {d : Dispatcher σ φ} (composed : d.Composed)
    (offers : List (Feature φ × List (String × String))) : (d.attemptAll offers).Composed := by
  induction offers generalizing d with
  | nil => exact composed
  | cons offer rest ih => exact ih (composed.attempt offer)

/-- **What is left of some attempts** are the features that were accepted, each as it was made,
behind those that were there before. -/
theorem attemptAll_eq (d : Dispatcher σ φ) (offers : List (Feature φ × List (String × String))) :
    ∃ added, List.Forall₂ (fun offer i => Installed.make offer.1 offer.2 = .ok i)
        (d.accepted offers) added ∧
      d.attemptAll offers = { d with features := d.features ++ added } := by
  induction offers generalizing d with
  | nil => exact ⟨[], .nil, by rw [List.append_nil]; rfl⟩
  | cons offer rest ih =>
    rcases d.attempt_cases offer with ⟨i, sound, -, accepted⟩ | ⟨e, rejected⟩
    · obtain ⟨added, made, grown⟩ := ih { d with features := d.features ++ [i] }
      refine ⟨i :: added, ?_, ?_⟩
      · rw [Dispatcher.accepted, accepted]
        exact .cons sound made
      · rw [Dispatcher.attemptAll, List.foldl_cons, accepted]
        rw [List.append_assoc] at grown
        exact grown
    · obtain ⟨added, made, grown⟩ := ih d
      refine ⟨added, ?_, ?_⟩
      · rw [Dispatcher.accepted, rejected]
        exact made
      · rw [Dispatcher.attemptAll, List.foldl_cons, rejected]
        exact grown

/-- **Names stay apart, whatever is installed.** Take any device with its own declarations and any
sequence of attempts to install features, some accepted and some turned away. Then no two actions of
the device and its features have one name, and no two status components; all these names have the
right form; there are at most eight status components; and every action takes at most eight
arguments, with different names of 1 to 255 octets. A further attempt that fails leaves the device
as it was, so that in the end its features are those that were accepted, in the order of the
attempts, and nothing else has changed. -/
theorem names_apart_after_attempts (state : σ) (registry : Registry σ) (account : Account)
    (offers : List (Feature φ × List (String × String))) :
    let d : Dispatcher σ φ := ⟨state, registry, [], account⟩
    (d.attemptAll offers).NamesApart ∧
      (∀ offer e, ((d.attemptAll offers).attempt offer).1 = .error e →
        ((d.attemptAll offers).attempt offer).2 = d.attemptAll offers) ∧
      ∃ features, List.Forall₂ (fun offer i => Installed.make offer.1 offer.2 = .ok i)
          (d.accepted offers) features ∧
        d.attemptAll offers = ⟨state, registry, features, account⟩ := by
  intro d
  refine ⟨((Composed.alone state registry account).attemptAll offers).namesApart, ?_,
    d.attemptAll_eq offers⟩
  intro offer e failed
  rcases (d.attemptAll offers).attempt_cases offer with ⟨i, -, -, accepted⟩ | ⟨_, rejected⟩
  · rw [accepted] at failed
    cases failed
  · rw [rejected]

/-- A clock gets a dial. A second one is turned away, and the clock still has the first. -/
theorem names_apart_clock :
    let d : Dispatcher Instant String := ⟨⟨0, 0⟩, clockRegistry, [], ⟨"u", "k"⟩⟩
    let one := d.attemptAll [(dial "XII", [])]
    one.NamesApart ∧ one.statusNames = ["now", "face"] ∧
      one.attempt (dial "III", []) = (.error (.clash "dial" .status "face"), one) := by
  intro d one
  obtain ⟨apart, unchanged, -⟩ := names_apart_after_attempts ⟨0, 0⟩ clockRegistry ⟨"u", "k"⟩
    [(dial "XII", [])]
  have rejected : (one.attempt (dial "III", [])).1 = .error (.clash "dial" .status "face") := by
    decide +kernel
  exact ⟨apart, by decide +kernel, Prod.ext rejected (unchanged _ _ rejected)⟩

end Dispatcher

end RelayDevice
