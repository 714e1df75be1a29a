import RelayDevice.Proofs.Capability.Checked
import RelayDevice.Session.Registration

/-!
# Devices put together from parts

A device is put together from its own declarations and from features, one after the other, each
checked against what is there already. `Dispatcher.Composed` are the devices that come about in this
way, in whatever states their parts are by now: the states play no part in any check.

What all of them have in common is a property of the descriptor, which grows by that of each feature
(`Dispatcher.descriptor_install`). So there is one induction, `Composed.descriptor_induction`, with
the descriptor of a single part as its base and a fitting one (`Descriptor.Fits`) as its step. It
gives the two facts on which the routing of requests rests: the names of actions and of status
components are unique over all parts (`Composed.nodup_actions`, `Composed.nodup_status`), and there
are few status components (`Composed.length_status_le`).
-/

namespace RelayDevice

variable {σ φ : Type}

/-! ### Descriptors -/

namespace Descriptor

/-- **A descriptor that fits** another one: the two have no name of one kind in common, and not too
many status components together. -/
structure Fits (current added : Descriptor) : Prop where
  actions : ∀ name ∈ added.actions.map (·.name), name ∉ current.actions.map (·.name)
  events : ∀ name ∈ added.events.map (·.name), name ∉ current.events.map (·.name)
  status : ∀ name ∈ added.status.map (·.name), name ∉ current.status.map (·.name)
  few : current.status.length + added.status.length ≤ entryLimit

theorem foldl_append (ds : List Descriptor) (d : Descriptor) :
    ds.foldl append d =
      { actions := d.actions ++ ds.flatMap (·.actions)
        status := d.status ++ ds.flatMap (·.status)
        events := d.events ++ ds.flatMap (·.events)
        info := d.info } := by
  induction ds generalizing d with
  | nil => simp
  | cons added ds ih =>
    rw [List.foldl_cons, ih]
    simp only [append, List.flatMap_cons, List.append_assoc]

end Descriptor

theorem Registry.nodup_actions (r : Registry σ) : (r.descriptor.actions.map (·.name)).Nodup := by
  rw [descriptor, List.map_map]
  exact r.wellFormed.actions.1

theorem Registry.nodup_status (r : Registry σ) : (r.descriptor.status.map (·.name)).Nodup := by
  rw [descriptor, statusDefs, List.map_map]
  exact r.wellFormed.status.1

/-! ### The states of parts -/

/-- The same feature under the same names, in any state. -/
structure Installed.SamePart (i j : Installed φ) : Prop where
  feature : j.feature = i.feature
  registry : j.registry = i.registry
  aliases : j.aliases = i.aliases

theorem Installed.SamePart.descriptor_eq {i j : Installed φ} (same : i.SamePart j) :
    j.descriptor = i.descriptor := by
  have translate : j.translate = i.translate := by
    funext event
    rw [Installed.translate, Installed.translate, same.aliases]
  rw [Installed.descriptor, Installed.descriptor, same.registry, translate]

/-- A feature with proper declarations can be installed, under aliases of events of its own. -/
theorem Installed.make_eq_ok {f : Feature φ} {aliases : List (String × String)}
    (checked : f.declared.check = .ok ())
    (own : ∀ entry ∈ aliases, (⟨f.declared, checked⟩ : Registry φ).hasEvent entry.1) :
    make f aliases = .ok ⟨f, ⟨f.declared, checked⟩, aliases, f.initial, 0⟩ := by
  rw [make, Declarations.build_eq_ok checked]
  dsimp only
  split
  · next found =>
    -- what was found is an alias of an event of another part
    have declared := own _ (List.mem_of_find?_eq_some found)
    have foreign := List.find?_some found
    simp [declared] at foreign
  · rfl

namespace Dispatcher

/-- The same parts, in any states. -/
structure SameParts (d e : Dispatcher σ φ) : Prop where
  registry : e.registry = d.registry
  features : List.Forall₂ Installed.SamePart d.features e.features
  account : e.account = d.account

theorem SameParts.map_descriptor_eq {d e : Dispatcher σ φ} (same : d.SameParts e) :
    e.features.map (·.descriptor) = d.features.map (·.descriptor) := by
  -- part by part, since the lists of features differ in their states
  obtain ⟨-, same, -⟩ := same
  generalize d.features = before at same
  generalize e.features = after at same
  induction same with
  | nil => rfl
  | cons first _ ih => rw [List.map_cons, List.map_cons, first.descriptor_eq, ih]

theorem descriptor_eq_foldl (d : Dispatcher σ φ) :
    d.descriptor = (d.features.map (·.descriptor)).foldl Descriptor.append d.registry.descriptor := by
  rw [descriptor, List.foldl_map]

theorem SameParts.descriptor_eq {d e : Dispatcher σ φ} (same : d.SameParts e) :
    e.descriptor = d.descriptor := by
  rw [descriptor_eq_foldl, descriptor_eq_foldl, same.map_descriptor_eq, same.registry]

theorem statusDefs_eq (d : Dispatcher σ φ) : d.statusDefs = d.descriptor.status := by
  rw [descriptor_eq_foldl, Descriptor.foldl_append]
  dsimp only
  rw [List.flatMap_map]
  rfl

/-! ### The check of a feature -/

theorem checkClash_eq_ok_iff {feature : String} {kind : CapabilityKind}
    {taken names : List String} :
    checkClash feature kind taken names = .ok () ↔ ∀ name ∈ names, name ∉ taken := by
  rw [checkClash]
  split
  · next name found =>
    refine iff_of_false nofun fun free => ?_
    exact free name (List.mem_of_find?_eq_some found) (by simpa using List.find?_some found)
  · next none => simpa using none

/-- **What a feature is checked for.** -/
theorem checkFit_eq_ok_iff {feature : String} {current added : Descriptor} :
    checkFit feature current added = .ok () ↔ current.Fits added := by
  have count : (if entryLimit < current.status.length + added.status.length then
        throw (.statusOverflow feature (current.status.length + added.status.length))
      else pure () : Except RegistryError Unit) = .ok () ↔
      current.status.length + added.status.length ≤ entryLimit := by
    split
    · next many => exact iff_of_false nofun (Nat.not_le.2 many)
    · next few => exact iff_of_true rfl (Nat.le_of_not_lt few)
  rw [checkFit]
  simp only [Outcome.seq_eq_ok_iff, checkClash_eq_ok_iff, count]
  constructor
  · rintro ⟨actions, events, status, few⟩
    exact ⟨actions, events, status, few⟩
  · rintro ⟨actions, events, status, few⟩
    exact ⟨actions, events, status, few⟩

/-- **A feature is added** exactly if it fits, and then behind all others. -/
theorem install_eq_ok_iff {d e : Dispatcher σ φ} {i : Installed φ} :
    d.install i = .ok e ↔
      d.descriptor.Fits i.descriptor ∧ e = { d with features := d.features ++ [i] } := by
  rw [install, ← @checkFit_eq_ok_iff i.feature.name]
  split
  · next fits =>
    rw [fits]
    exact ⟨fun h => ⟨rfl, (Except.ok.inj h).symm⟩, fun h => by rw [h.2]⟩
  · next misfit =>
    rw [misfit]
    exact iff_of_false nofun fun h => nomatch h.1

theorem descriptor_install (d : Dispatcher σ φ) (i : Installed φ) :
    ({ d with features := d.features ++ [i] } : Dispatcher σ φ).descriptor
      = d.descriptor.append i.descriptor := by
  rw [descriptor, descriptor, List.foldl_append]
  rfl

/-! ### Composition -/

/-- **Devices that are put together**, by any number of installations, and in any states. -/
inductive Composed : Dispatcher σ φ → Prop
  /-- A device without features. -/
  | alone (state : σ) (registry : Registry σ) (account : Account) :
    Composed ⟨state, registry, [], account⟩
  /-- A feature with proper declarations and aliases, if it fits. -/
  | installed {d e : Dispatcher σ φ} {feature : Feature φ} {aliases : List (String × String)}
      {i : Installed φ} : Composed d → Installed.make feature aliases = .ok i →
    d.install i = .ok e → Composed e
  /-- Anything may have happened to the states. -/
  | lived {d e : Dispatcher σ φ} : Composed d → d.SameParts e → Composed e

/-- A feature that passes all checks makes a larger device. -/
theorem Composed.add {d : Dispatcher σ φ} (composed : d.Composed) {f : Feature φ}
    {aliases : List (String × String)} (checked : f.declared.check = .ok ())
    (own : ∀ entry ∈ aliases, (⟨f.declared, checked⟩ : Registry φ).hasEvent entry.1)
    (fits : checkFit f.name d.descriptor
      (Installed.descriptor ⟨f, ⟨f.declared, checked⟩, aliases, f.initial, 0⟩) = .ok ()) :
    Composed { d with
      features := d.features ++ [⟨f, ⟨f.declared, checked⟩, aliases, f.initial, 0⟩] } :=
  .installed composed (Installed.make_eq_ok checked own)
    (install_eq_ok_iff.2 ⟨checkFit_eq_ok_iff.1 fits, rfl⟩)

/-- **What is common to all compositions**: whatever holds of the descriptors of single parts, and
of a descriptor to which a fitting one of a single part is added. -/
theorem Composed.descriptor_induction {d : Dispatcher σ φ} (composed : d.Composed)
    (P : Descriptor → Prop) (alone : ∀ r : Registry σ, P r.descriptor)
    (installed : ∀ (current : Descriptor) (i : Installed φ), P current →
      current.Fits i.descriptor → P (current.append i.descriptor)) : P d.descriptor := by
  induction composed with
  | alone state registry account => exact alone registry
  | installed _ _ added ih =>
    -- the feature was added because it fits
    obtain ⟨fits, rfl⟩ := install_eq_ok_iff.1 added
    rw [descriptor_install]
    exact installed _ _ ih fits
  | lived _ same ih =>
    rw [same.descriptor_eq]
    exact ih

/-- **Actions have different names**, also across parts. -/
theorem Composed.nodup_actions {d : Dispatcher σ φ} (composed : d.Composed) :
    (d.descriptor.actions.map (·.name)).Nodup := by
  refine composed.descriptor_induction (fun d => (d.actions.map (·.name)).Nodup)
    Registry.nodup_actions fun current i distinct fits => ?_
  rw [Descriptor.append, List.map_append, List.nodup_append]
  exact ⟨distinct, i.registry.nodup_actions, fun _ h _ h' same => fits.actions _ h' (same ▸ h)⟩

/-- **Status components have different names**, also across parts. -/
theorem Composed.nodup_status {d : Dispatcher σ φ} (composed : d.Composed) :
    (d.descriptor.status.map (·.name)).Nodup := by
  refine composed.descriptor_induction (fun d => (d.status.map (·.name)).Nodup)
    Registry.nodup_status fun current i distinct fits => ?_
  rw [Descriptor.append, List.map_append, List.nodup_append]
  exact ⟨distinct, i.registry.nodup_status, fun _ h _ h' same => fits.status _ h' (same ▸ h)⟩

/-- **There are not too many status components** in all parts together. -/
theorem Composed.length_status_le {d : Dispatcher σ φ} (composed : d.Composed) :
    d.descriptor.status.length ≤ entryLimit := by
  refine composed.descriptor_induction (fun d => d.status.length ≤ entryLimit) (fun r => ?_)
    fun current i _ fits => ?_
  · have few := r.wellFormed.few
    rwa [Registry.descriptor, Registry.statusDefs, List.length_map]
  · rw [Descriptor.append, List.length_append]
    exact fits.few

end Dispatcher

end RelayDevice
