import RelayDevice.Capability.Descriptor
import RelayDevice.Log
import RelayDevice.Session.Context
import RelayDevice.Session.Interaction

/-!
# Features

A feature is a part of a device with a state and declarations of its own. Once installed, its
actions and status components are the device's, and its events are known to the relay under the
names that the installation gives them.

* `Feature` — what an application supplies, with a state of type `φ`;
* `Installed` — a feature with its checked declarations, its aliases and its tick counter;
* `Installed.translate` — the name under which the relay knows an event of the feature;
* `Installed.iterate` — one iteration of the main loop, on which the feature ticks if its turn has
  come: on the first iteration and then on every `every`-th;
* `Action.invoke` — runs the handler of an action on the input that a message carries.
-/

namespace RelayDevice

/-- What a feature's tick can send. Events are named as the feature declares them; the device's own
calls are open to it as well. -/
inductive FeatureCall
  | event (name : String) (payload : Bytes)
  | device (call : DeviceCall)
deriving DecidableEq

/-- A part that can be added to a device. -/
structure Feature (φ : Type) where
  /-- What the feature is called. -/
  name : String
  /-- What it adds to the device. -/
  declared : Declarations φ
  /-- Its state before anything has happened. -/
  initial : φ
  /-- Runs once, before the session starts. -/
  setup : φ → Outcome φ
  /-- Runs on every tick. -/
  tick : φ → Interaction FeatureCall (Outcome φ)
  /-- Iterations of the main loop per tick; none counts as one. -/
  tickEvery : Nat

/-- A feature as part of a device. -/
structure Installed (φ : Type) where
  /-- What the application supplied. -/
  feature : Feature φ
  /-- Its checked declarations. -/
  registry : Registry φ
  /-- The names under which the relay knows some of its events. -/
  aliases : List (String × String)
  /-- Its state. -/
  state : φ
  /-- How many iterations of the main loop it has seen. -/
  iterations : UInt64

namespace Installed

variable {φ : Type}

/-- Checks a feature's declarations, and that only events of its own have aliases. -/
def make (f : Feature φ) (aliases : List (String × String)) :
    Except RegistryError (Installed φ) :=
  match f.declared.build with
  | .error e => .error e
  | .ok registry =>
    match aliases.find? fun (event, _) => !registry.hasEvent event with
    | some (event, _) => .error (.aliasWithoutEvent f.name event)
    | none => .ok ⟨f, registry, aliases, f.initial, 0⟩

/-- The name under which the relay knows an event of the feature; of several aliases the last
counts. -/
def translate (i : Installed φ) (event : String) : String :=
  (List.lookup event i.aliases.reverse).getD event

/-- The feature's entries in the descriptor, under the names that the relay knows. -/
def descriptor (i : Installed φ) : Descriptor :=
  let own := i.registry.descriptor
  { own with events := own.events.map fun e => { e with name := i.translate e.name } }

/-- Runs the feature's setup. -/
def setup (i : Installed φ) : Except SessionError Unit × Installed φ :=
  match i.feature.setup i.state with
  | (state, none) => (.ok (), { i with state })
  | (state, some failure) =>
    (.error (.featureSetup i.feature.name failure), { i with state })

/-- Carries out a call of the feature's tick. -/
def perform (i : Installed φ) (c : DeviceContext) (call : FeatureCall) (o : Outbox) :
    Except DeviceError Unit × Outbox :=
  match call with
  | .event name payload =>
    if i.registry.hasEvent name then c.perform (.event (i.translate name) payload) o
    else (.error (.capability (.unknown .event name)), o)
  | .device call => c.perform call o

/-- How many iterations of the main loop make a tick. -/
def every (i : Installed φ) : Nat := max i.feature.tickEvery 1

/-- Whether the feature ticks in this iteration. -/
def isDue (i : Installed φ) : Bool := i.iterations.toNat % i.every == 0

/-- One iteration of the main loop. -/
def iterate (i : Installed φ) (c : DeviceContext) (o : Outbox) :
    Installed φ × Outbox × List LogLine :=
  let next := { i with iterations := i.iterations + 1 }
  if i.isDue then
    let ((state, failure), o) := (i.feature.tick i.state).run (i.perform c) o
    let log := match failure with
      | none => []
      | some f => [.warn s!"Feature '{i.feature.name}' periodic callback failed: {f.full}"]
    ({ next with state }, o, log)
  else (next, o, [])

end Installed

/-! ### Running actions -/

namespace Action

variable {σ : Type}

/-- The arguments that a message carries for an action, in the order of their declarations. An
action without arguments needs none to be carried. -/
def input (name : String) (defs : List ArgumentDef) (m : Message) :
    Except DeviceError (List ArgumentValue) :=
  match m.attribute? .arguments with
  | some raw => (ArgumentList.decodeOrdered raw defs).mapError .argument
  | none => if defs.isEmpty then .ok [] else .error (.message (.argumentsNeeded name))

/-- What the handler of an action leads to. -/
def conclude (name : String) : Outcome σ → Except DeviceError Unit × σ
  | (state, none) => (.ok (), state)
  | (state, some failure) => (.error (.action name failure), state)

/-- Runs the handler of an action on the input that a message carries. Without proper input the
handler is not run. -/
def invoke (a : Action σ) (m : Message) (state : σ) : Except DeviceError Unit × σ :=
  match a.handler with
  | .payload run =>
    match m.attribute? .payload with
    | none => (.error (.message (.payloadNeeded a.name)), state)
    | some octets => conclude a.name (run state octets)
  | .arguments defs run =>
    match input a.name defs m with
    | .error e => (.error e, state)
    | .ok values => conclude a.name (run state values)

end Action

end RelayDevice
