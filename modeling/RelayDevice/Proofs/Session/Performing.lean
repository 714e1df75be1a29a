import RelayDevice.Proofs.Session.Composition

/-!
# Where an action is performed

The action of a name is performed on the device if it declares the name, and else on the first
feature that does. So a request has three ways to go, which `Dispatcher.part_cases` tells apart:

* `Dispatcher.perform_of_device` — the device declares the name;
* `Dispatcher.perform_of_feature` — a feature does, and neither the device nor a feature before it;
* `Dispatcher.perform_of_absent` — nobody does.

Each says what becomes of all parts. On a device that is put together properly no two parts declare
a name, so every declared action is the one that is found (`Dispatcher.action?_device_eq_none`,
`Dispatcher.action?_before_eq_none`).
-/

namespace RelayDevice

variable {σ φ : Type}

namespace Dispatcher

/-! ### Features in order -/

/-- **Features that do not declare a name** are passed over and stay as they are. -/
theorem performOn_append {name : String} {before : List (Installed φ)}
    (absent : ∀ g ∈ before, g.registry.action? name = none) (m : Message)
    (rest : List (Installed φ)) :
    performOn name m (before ++ rest)
      = (performOn name m rest).map fun (result, rest) => (result, before ++ rest) := by
  induction before with
  | nil => exact Option.map_id'.symm
  | cons g before ih =>
    have later := ih fun g hg => absent g (List.mem_cons_of_mem _ hg)
    rw [List.cons_append, performOn, absent g List.mem_cons_self]
    dsimp only
    rw [later, Option.map_map]
    rfl

theorem performOn_eq_none {name : String} {features : List (Installed φ)}
    (absent : ∀ g ∈ features, g.registry.action? name = none) (m : Message) :
    performOn name m features = none := by
  have passed := performOn_append absent m []
  rwa [List.append_nil] at passed

/-- The first feature that declares a name performs the action. -/
theorem performOn_of_first {name : String} {before : List (Installed φ)}
    (absent : ∀ g ∈ before, g.registry.action? name = none) {f : Installed φ} {a : Action φ}
    (found : f.registry.action? name = some a) (m : Message) (after : List (Installed φ)) :
    performOn name m (before ++ f :: after)
      = some ((a.invoke m f.state).1,
          before ++ { f with state := (a.invoke m f.state).2 } :: after) := by
  rw [performOn_append absent, performOn, found]
  rfl

theorem absent_or_first (name : String) (features : List (Installed φ)) :
    (∀ g ∈ features, g.registry.action? name = none) ∨
      ∃ before f after a, features = before ++ f :: after ∧
        (∀ g ∈ before, g.registry.action? name = none) ∧ f.registry.action? name = some a := by
  induction features with
  | nil => exact .inl nofun
  | cons g rest ih =>
    -- the first feature decides unless it passes the name on
    cases first : g.registry.action? name with
    | some a => exact .inr ⟨[], g, rest, a, rfl, nofun, first⟩
    | none =>
      rcases ih with absent | ⟨before, f, after, a, rfl, absent, found⟩
      · exact .inl (List.forall_mem_cons.2 ⟨first, absent⟩)
      · exact .inr ⟨g :: before, f, after, a, rfl, List.forall_mem_cons.2 ⟨first, absent⟩, found⟩

/-! ### Parts -/

/-- **The three ways of a request.** -/
theorem part_cases (d : Dispatcher σ φ) (name : String) :
    (∃ a, d.registry.action? name = some a) ∨
      (d.registry.action? name = none ∧ ∃ before f after a, d.features = before ++ f :: after ∧
        (∀ g ∈ before, g.registry.action? name = none) ∧ f.registry.action? name = some a) ∨
      (d.registry.action? name = none ∧ ∀ g ∈ d.features, g.registry.action? name = none) := by
  cases own : d.registry.action? name with
  | some a => exact .inl ⟨a, rfl⟩
  | none =>
    rcases absent_or_first name d.features with absent | first
    · exact .inr (.inr ⟨rfl, absent⟩)
    · exact .inr (.inl ⟨rfl, first⟩)

theorem perform_of_device {d : Dispatcher σ φ} {name : String} {a : Action σ}
    (found : d.registry.action? name = some a) (m : Message) :
    d.perform name m
      = ((a.invoke m d.state).1, { d with state := (a.invoke m d.state).2 }) := by
  rw [perform, found]

theorem perform_of_feature {d : Dispatcher σ φ} {name : String}
    (own : d.registry.action? name = none) {before after : List (Installed φ)} {f : Installed φ}
    (split : d.features = before ++ f :: after)
    (absent : ∀ g ∈ before, g.registry.action? name = none) {a : Action φ}
    (found : f.registry.action? name = some a) (m : Message) :
    d.perform name m
      = ((a.invoke m f.state).1,
          { d with features := before ++ { f with state := (a.invoke m f.state).2 } :: after }) := by
  rw [perform, own, split]
  dsimp only
  rw [performOn_of_first absent found]

theorem perform_of_absent {d : Dispatcher σ φ} {name : String}
    (own : d.registry.action? name = none)
    (absent : ∀ g ∈ d.features, g.registry.action? name = none) (m : Message) :
    d.perform name m = (.error (.capability (.unknown .action name)), d) := by
  rw [perform, own]
  dsimp only
  rw [performOn_eq_none absent]

/-! ### Declared names -/

theorem actionNames_eq (d : Dispatcher σ φ) :
    d.descriptor.actions.map (·.name)
      = d.registry.declared.actions.map (·.name)
        ++ d.features.flatMap fun f => f.registry.declared.actions.map (·.name) := by
  have own {ω : Type} (r : Registry ω) :
      r.descriptor.actions.map (·.name) = r.declared.actions.map (·.name) := by
    rw [Registry.descriptor, List.map_map]
    rfl
  rw [descriptor_eq_foldl, Descriptor.foldl_append]
  dsimp only
  rw [List.map_append, List.map_flatMap, List.flatMap_map, own]
  exact congrArg _ (List.flatMap_congr fun f _ => own f.registry)

variable {d : Dispatcher σ φ} {before after : List (Installed φ)} {f : Installed φ} {a : Action φ}

theorem action?_device_eq_none (distinct : (d.descriptor.actions.map (·.name)).Nodup)
    (member : f ∈ d.features) (declared : a ∈ f.registry.declared.actions) :
    d.registry.action? a.name = none := by
  rw [actionNames_eq] at distinct
  have later : a.name ∈ d.features.flatMap fun f => f.registry.declared.actions.map (·.name) :=
    List.mem_flatMap.2 ⟨f, member, List.mem_map_of_mem declared⟩
  exact Registry.action?_eq_none (not_mem_of_nodup_append distinct later)

theorem action?_before_eq_none (distinct : (d.descriptor.actions.map (·.name)).Nodup)
    (split : d.features = before ++ f :: after) (declared : a ∈ f.registry.declared.actions) :
    ∀ g ∈ before, g.registry.action? a.name = none := by
  intro g hg
  -- the names of the features before `f` stand in front of its own in a list without repetitions
  rw [actionNames_eq, split, List.flatMap_append] at distinct
  have later : a.name ∈ (f :: after).flatMap fun f => f.registry.declared.actions.map (·.name) :=
    List.mem_flatMap.2 ⟨f, List.mem_cons_self, List.mem_map_of_mem declared⟩
  have absent := not_mem_of_nodup_append (List.nodup_append.1 distinct).2.1 later
  exact Registry.action?_eq_none fun h => absent (List.mem_flatMap.2 ⟨g, hg, h⟩)

/-! ### Messages -/

theorem dispatch_of_action {m : Message} (request : m.messageClass.isResponse = false)
    (action : m.method = Method.action) (d : Dispatcher σ φ) (time : UInt32) :
    d.dispatch time m = d.performAction time m := by
  rw [dispatch, request, if_neg Bool.false_ne_true, if_pos action]

theorem dispatch_of_status {m : Message} (request : m.messageClass.isResponse = false)
    (status : m.method = Method.statusRequest) (d : Dispatcher σ φ) (time : UInt32) :
    d.dispatch time m = d.answerStatus time m := by
  have other : ¬ m.method = Method.action := by
    rw [status]
    decide
  rw [dispatch, request, if_neg Bool.false_ne_true, if_neg other, if_pos status]

end Dispatcher

end RelayDevice
