import RelayDevice.Proofs.Capability.Checked
import RelayDevice.Proofs.Session.Course

/-!
# Counting ticks

How often a feature has ticked cannot be told from its state, and a tick that fails may leave no
trace at all. So every feature is given a tally beside its state, to which its ticks add one, whatever
they lead to (`Feature.tallied`). Handlers, setup and accessors do the same on the same state and
leave the tally alone.

Nothing looks at a tally: `MainLoop.iterate_tallied` says that an iteration with tallies is the one
without, and tells how the tallies have changed. They are kept by the place of the feature, so that
`Dispatcher.performOn` and `Dispatcher.iterateAll` can be followed along the list of features.
-/

namespace RelayDevice

variable {σ φ : Type}

/-! ### Features with a tally -/

/-- A state with the number of ticks so far. -/
structure Tallied (φ : Type) where
  state : φ
  ticks : Nat

namespace Tallied

/-- What a tick has led to. -/
def add (s : Tallied φ) (outcome : Outcome φ) : Outcome (Tallied φ) :=
  (⟨outcome.1, s.ticks + 1⟩, outcome.2)

/-- What anything else has led to. -/
def keep (s : Tallied φ) (outcome : Outcome φ) : Outcome (Tallied φ) :=
  (⟨outcome.1, s.ticks⟩, outcome.2)

end Tallied

def Handler.tallied : Handler φ → Handler (Tallied φ)
  | .arguments defs run => .arguments defs fun s values => s.keep (run s.state values)
  | .payload run => .payload fun s octets => s.keep (run s.state octets)

def Action.tallied (a : Action φ) : Action (Tallied φ) := ⟨a.name, a.description, a.handler.tallied⟩

def StatusComponent.tallied (c : StatusComponent φ) : StatusComponent (Tallied φ) :=
  ⟨c.name, c.kind, fun s => c.accessor s.state⟩

def Declarations.tallied (d : Declarations φ) : Declarations (Tallied φ) :=
  ⟨d.actions.map Action.tallied, d.events, d.status.map StatusComponent.tallied, d.info⟩

theorem Action.arguments_tallied (a : Action φ) : a.tallied.arguments = a.arguments := by
  rw [arguments, arguments, tallied]
  cases a.handler <;> rfl

/-- A tally makes no difference to names and numbers. -/
theorem Declarations.WellFormed.tallied {d : Declarations φ} (proper : d.WellFormed) :
    d.tallied.WellFormed where
  actions := by
    rw [Declarations.tallied, List.map_map]
    exact proper.actions
  inputs := by
    refine List.forall_mem_map.2 fun a declared => ?_
    rw [Action.arguments_tallied]
    exact proper.inputs a declared
  events := proper.events
  components := proper.components
  few := by
    rw [Declarations.tallied, List.length_map]
    exact proper.few
  status := by
    rw [Declarations.tallied, List.map_map]
    exact proper.status

def Registry.tallied (r : Registry φ) : Registry (Tallied φ) :=
  ⟨r.declared.tallied, Declarations.check_eq_ok_iff.2 r.wellFormed.tallied⟩

/-- **A feature that counts its ticks.** -/
def Feature.tallied (f : Feature φ) : Feature (Tallied φ) where
  name := f.name
  declared := f.declared.tallied
  initial := ⟨f.initial, 0⟩
  setup := fun s => s.keep (f.setup s.state)
  tick := fun s => (f.tick s.state).map s.add
  tickEvery := f.tickEvery

theorem Registry.action?_tallied (r : Registry φ) (name : String) :
    r.tallied.action? name = (r.action? name).map Action.tallied := by
  rw [Registry.action?_eq_find?, Registry.action?_eq_find?]
  exact List.find?_map

theorem Registry.statusDefs_tallied (r : Registry φ) : r.tallied.statusDefs = r.statusDefs := by
  change (r.declared.status.map StatusComponent.tallied).map StatusComponent.toDef = r.statusDefs
  rw [List.map_map]
  rfl

theorem Registry.snapshot_tallied (r : Registry φ) (s : Tallied φ) :
    r.tallied.snapshot s = r.snapshot s.state := by
  change readAll s (r.declared.status.map StatusComponent.tallied) = readAll s.state r.declared.status
  induction r.declared.status with
  | nil => rfl
  | cons c rest ih =>
    rw [List.map_cons, readAll, readAll, ih]
    rfl

/-- An action leaves the tally alone. -/
theorem Action.invoke_tallied (a : Action φ) (m : Message) (s : Tallied φ) :
    a.tallied.invoke m s = ((a.invoke m s.state).1, ⟨(a.invoke m s.state).2, s.ticks⟩) := by
  have concluded (outcome : Outcome φ) : conclude a.name (s.keep outcome)
      = ((conclude a.name outcome).1, ⟨(conclude a.name outcome).2, s.ticks⟩) := by
    obtain ⟨state, _ | failure⟩ := outcome <;> rfl
  rw [invoke, invoke, tallied]
  dsimp only
  cases a.handler with
  | payload run =>
    rw [Handler.tallied]
    dsimp only
    cases m.attribute? .payload with
    | none => rfl
    | some octets => exact concluded _
  | arguments defs run =>
    rw [Handler.tallied]
    dsimp only
    cases input a.name defs m with
    | error e => rfl
    | ok values => exact concluded _

namespace Installed

/-- An installed feature with a tally, which shows a number of ticks. -/
def tallied (i : Installed φ) (ticks : Nat) : Installed (Tallied φ) :=
  ⟨i.feature.tallied, i.registry.tallied, i.aliases, ⟨i.state, ticks⟩, i.iterations⟩

/-- What the tally shows after an iteration. -/
def counted (i : Installed φ) (ticks : Nat) : Nat := if i.isDue then ticks + 1 else ticks

/-- **An iteration with a tally.** -/
theorem iterate_tallied (i : Installed φ) (ticks : Nat) (c : DeviceContext) (o : Outbox) :
    (i.tallied ticks).iterate c o =
      ((i.iterate c o).1.tallied (i.counted ticks), (i.iterate c o).2) := by
  have due : (i.tallied ticks).isDue = i.isDue := rfl
  have calls : (i.tallied ticks).perform c = i.perform c := rfl
  have ticked : (i.tallied ticks).feature.tick (i.tallied ticks).state
      = (i.feature.tick i.state).map (Tallied.add ⟨i.state, ticks⟩) := rfl
  unfold iterate counted
  rw [due, calls, ticked, Interaction.run_map]
  cases i.isDue <;> rfl

/-- Features with tallies, by their places. -/
def tallyAll (tally : Nat → Nat) : List (Installed φ) → List (Installed (Tallied φ))
  | [] => []
  | f :: rest => f.tallied (tally 0) :: tallyAll (fun place => tally (place + 1)) rest

/-- What the tallies of features show after an iteration. -/
def countAll (tally : Nat → Nat) (features : List (Installed φ)) (place : Nat) : Nat :=
  match features[place]? with
  | none => tally place
  | some f => f.counted (tally place)

theorem getElem?_tallyAll (tally : Nat → Nat) (features : List (Installed φ)) (place : Nat) :
    (tallyAll tally features)[place]? = features[place]?.map fun f => f.tallied (tally place) := by
  induction features generalizing tally place with
  | nil => rfl
  | cons f rest ih =>
    cases place with
    | zero => rfl
    | succ place => exact ih (fun place => tally (place + 1)) place

end Installed

/-! ### Devices whose features have tallies -/

namespace Dispatcher

open Installed

def tallied (d : Dispatcher σ φ) (tally : Nat → Nat) : Dispatcher σ (Tallied φ) :=
  ⟨d.state, d.registry, tallyAll tally d.features, d.account⟩

theorem iterateAll_tallied (c : DeviceContext) (tally : Nat → Nat) (features : List (Installed φ))
    (o : Outbox) :
    iterateAll c (tallyAll tally features) o =
      (tallyAll (countAll tally features) (iterateAll c features o).1,
        (iterateAll c features o).2) := by
  induction features generalizing tally o with
  | nil => rfl
  | cons f rest ih =>
    rw [tallyAll, iterateAll, iterate_tallied]
    dsimp only
    rw [ih]
    rfl

theorem performOn_tallied (name : String) (m : Message) (tally : Nat → Nat)
    (features : List (Installed φ)) :
    performOn name m (tallyAll tally features) =
      (performOn name m features).map fun (result, features) => (result, tallyAll tally features) := by
  induction features generalizing tally with
  | nil => rfl
  | cons f rest ih =>
    have found : (f.tallied (tally 0)).registry.action? name
        = (f.registry.action? name).map Action.tallied := f.registry.action?_tallied name
    rw [tallyAll, performOn, found, performOn]
    cases f.registry.action? name with
    | none =>
      dsimp only [Option.map_none]
      rw [ih, Option.map_map, Option.map_map]
      rfl
    | some a =>
      dsimp only [Option.map_some]
      rw [a.invoke_tallied]
      rfl

theorem perform_tallied (d : Dispatcher σ φ) (tally : Nat → Nat) (name : String) (m : Message) :
    (d.tallied tally).perform name m =
      ((d.perform name m).1, (d.perform name m).2.tallied tally) := by
  have own : (d.tallied tally).registry.action? name = d.registry.action? name := rfl
  have others : performOn name m (d.tallied tally).features = _ :=
    performOn_tallied name m tally d.features
  rw [perform, own, others, perform]
  cases d.registry.action? name with
  | some a => rfl
  | none => cases performOn name m d.features <;> rfl

theorem statusDefs_tallied (d : Dispatcher σ φ) (tally : Nat → Nat) :
    (d.tallied tally).statusDefs = d.statusDefs := by
  have features (features : List (Installed φ)) :
      (tallyAll tally features).flatMap (·.registry.statusDefs)
        = features.flatMap (·.registry.statusDefs) := by
    induction features generalizing tally with
    | nil => rfl
    | cons f rest ih =>
      rw [tallyAll, List.flatMap_cons, List.flatMap_cons, ih]
      exact congrArg (· ++ _) f.registry.statusDefs_tallied
  rw [statusDefs, statusDefs, ← features]
  rfl

theorem snapshot_tallied (d : Dispatcher σ φ) (tally : Nat → Nat) :
    (d.tallied tally).snapshot = d.snapshot := by
  have features (features : List (Installed φ)) :
      snapshotAll (tallyAll tally features) = snapshotAll features := by
    induction features generalizing tally with
    | nil => rfl
    | cons f rest ih =>
      rw [tallyAll, snapshotAll, snapshotAll, ih]
      exact congrArg (· >>= _) (f.registry.snapshot_tallied ⟨f.state, tally 0⟩)
  rw [snapshot, snapshot, ← features]
  rfl

/-- **A message is handled with tallies as it is without**, and leaves them alone. -/
theorem dispatch_tallied (d : Dispatcher σ φ) (tally : Nat → Nat) (time : UInt32) (m : Message) :
    (d.tallied tally).dispatch time m =
      ⟨(d.dispatch time m).dispatcher.tallied tally, (d.dispatch time m).reply,
        (d.dispatch time m).log⟩ := by
  rw [dispatch, dispatch]
  split
  · rfl
  split
  · rw [performAction, performAction]
    cases m.text? .name with
    | none => rfl
    | some name =>
      dsimp only
      rw [perform_tallied]
      generalize d.perform name m = done
      obtain ⟨_ | _, after⟩ := done <;> rfl
  split
  · rw [answerStatus, answerStatus, snapshot_tallied, statusDefs_tallied]
    cases d.snapshot with
    | error failure => rfl
    | ok values =>
      dsimp only
      cases ArgumentList.encode d.statusDefs values <;> rfl
  · rfl

end Dispatcher

/-! ### Main loops whose features have tallies -/

namespace MainLoop

variable {ι : Type} (l : MainLoop σ φ) (tally : Nat → Nat)

def tallied : MainLoop σ (Tallied φ) :=
  ⟨l.dispatcher.tallied tally, l.context, l.device, l.backlog, l.keepaliveInterval, l.lastKeepalive,
    l.lastTick⟩

/-- What the tallies show after an iteration. -/
def counted : Nat → Nat := Installed.countAll tally l.dispatcher.features

theorem keepalive_tallied (now : Nanoseconds) (o : Outbox) :
    (l.tallied tally).keepalive now o =
      ((l.keepalive now o).1.tallied tally, (l.keepalive now o).2) := by
  have same : (l.tallied tally).keepaliveInterval = l.keepaliveInterval ∧
      (l.tallied tally).lastKeepalive = l.lastKeepalive ∧ (l.tallied tally).context = l.context :=
    ⟨rfl, rfl, rfl⟩
  unfold keepalive
  rw [same.1, same.2.1, same.2.2]
  split <;> rfl

theorem tick_tallied (now : Nanoseconds) (o : Outbox) :
    (l.tallied tally).tick now o = ((l.tick now o).1.tallied tally, (l.tick now o).2) := by
  have due : (l.tallied tally).isTickDue now = l.isTickDue now := rfl
  unfold tick
  rw [due]
  split <;> rfl

theorem features_tallied (o : Outbox) :
    (l.tallied tally).features o =
      ((l.features o).1.tallied (l.counted tally), (l.features o).2) := by
  have iterated : Dispatcher.iterateAll (l.tallied tally).context
      (l.tallied tally).dispatcher.features o = _ :=
    Dispatcher.iterateAll_tallied l.context tally l.dispatcher.features o
  unfold features Dispatcher.iterateFeatures
  rw [iterated]
  rfl

theorem features_keepalive (now : Nanoseconds) (o : Outbox) :
    (l.keepalive now o).1.dispatcher.features = l.dispatcher.features := by rw [keepalive_eq]

theorem features_tick (now : Nanoseconds) (o : Outbox) :
    (l.tick now o).1.dispatcher.features = l.dispatcher.features := by
  unfold tick
  split <;> rfl

theorem prepare_tallied (now : Nanoseconds) (o : Outbox) :
    (l.tallied tally).prepare now o =
      ((l.prepare now o).1.tallied (l.counted tally), (l.prepare now o).2) := by
  have unchanged : ((l.keepalive now o).1.tick now (l.keepalive now o).2.1).1.counted tally
      = l.counted tally := by
    rw [counted, features_tick, features_keepalive, counted]
  unfold prepare
  rw [keepalive_tallied]
  dsimp only
  rw [tick_tallied]
  dsimp only
  rw [features_tallied, unchanged]

theorem next_tallied (read : ι → Arrival × ι) (inbox : ι) :
    (l.tallied tally).next read inbox =
      ((l.next read inbox).1, (l.next read inbox).2.1.tallied tally, (l.next read inbox).2.2) := by
  have same : (l.tallied tally).backlog = l.backlog := rfl
  unfold next
  rw [same]
  split <;> rfl

theorem handle_tallied (m : Message) (o : Outbox) :
    (l.tallied tally).handle m o = ((l.handle m o).1.tallied tally, (l.handle m o).2) := by
  have done : (l.tallied tally).dispatcher.dispatch o.stamp.1.time m = _ :=
    l.dispatcher.dispatch_tallied tally o.stamp.1.time m
  unfold handle
  dsimp only
  rw [done]
  dsimp only
  split
  · rfl
  · rfl
  · split <;> rfl

/-- **An iteration with tallies is the one without**, except that the tallies count the features whose
turn has come. -/
theorem iterate_tallied (read : ι → Arrival × ι) (now : Nanoseconds) (o : Outbox) (inbox : ι) :
    (l.tallied tally).iterate read now o inbox =
      { mainLoop := (l.iterate read now o inbox).mainLoop.tallied (l.counted tally)
        outbox := (l.iterate read now o inbox).outbox
        inbox := (l.iterate read now o inbox).inbox
        handled := (l.iterate read now o inbox).handled
        isOver := (l.iterate read now o inbox).isOver
        log := (l.iterate read now o inbox).log } := by
  rw [iterate_eq, iterate_eq, prepare_tallied]
  dsimp only
  rw [next_tallied]
  generalize (l.prepare now o).1.next read inbox = found
  obtain ⟨m | _ | _, next, inbox⟩ := found
  · dsimp only
    rw [handle_tallied]
  · rfl
  · rfl

end MainLoop

end RelayDevice
