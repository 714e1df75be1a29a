import RelayDevice.Session.Feature

/-!
# Answering requests

The dispatcher holds a device and its features and turns requests into calls of their handlers.

* `Dispatcher.install` — adds a feature whose names clash with nothing that is there;
* `Dispatcher.descriptor`, `Dispatcher.eventNames` — the declarations of all parts together;
* `Dispatcher.performAction` — runs the action that a request names, on the part that declares it;
* `Dispatcher.answerStatus` — reads all status components, the device's first and then those of
  each feature, and answers with them or with a refusal that names the first unreadable one;
* `Dispatcher.dispatch` — one message: what to answer, if anything, or why it was dropped.
-/

namespace RelayDevice

/-- A device with its features, of states `σ` and `φ`. -/
structure Dispatcher (σ φ : Type) where
  /-- The device's state. -/
  state : σ
  /-- What the device declares. -/
  registry : Registry σ
  /-- The features in order of installation. -/
  features : List (Installed φ)
  /-- Who signs the answers. -/
  account : Account

/-- What becomes of a message. -/
structure Dispatched (σ φ : Type) where
  /-- The device afterwards. -/
  dispatcher : Dispatcher σ φ
  /-- The frame to answer with, if any, or why the message was dropped. -/
  reply : Except DeviceError (Option Bytes)
  /-- What is reported on the way. -/
  log : List LogLine

namespace Dispatcher

variable {σ φ : Type}

/-! ### Composition -/

/-- The declarations of the device and of all features, in order. -/
def descriptor (d : Dispatcher σ φ) : Descriptor :=
  d.features.foldl (fun all f => all.append f.descriptor) d.registry.descriptor

/-- The names of all events that may be sent, as the relay knows them. -/
def eventNames (d : Dispatcher σ φ) : List String := d.descriptor.events.map (·.name)

/-- Refuses the first of some names that is taken already. -/
def checkClash (feature : String) (kind : CapabilityKind) (taken names : List String) :
    Except RegistryError Unit :=
  match names.find? (· ∈ taken) with
  | some name => .error (.clash feature kind name)
  | none => .ok ()

/-- Checks whether the declarations of a feature fit those that are there: no name is taken by
another part, and there are not too many status components. -/
def checkFit (feature : String) (current added : Descriptor) : Except RegistryError Unit := do
  checkClash feature .action (current.actions.map (·.name)) (added.actions.map (·.name))
  checkClash feature .event (current.events.map (·.name)) (added.events.map (·.name))
  checkClash feature .status (current.status.map (·.name)) (added.status.map (·.name))
  let count := current.status.length + added.status.length
  if entryLimit < count then throw (.statusOverflow feature count)

/-- Adds a feature, if it fits. -/
def install (d : Dispatcher σ φ) (f : Installed φ) : Except RegistryError (Dispatcher σ φ) :=
  match checkFit f.feature.name d.descriptor f.descriptor with
  | .ok () => .ok { d with features := d.features ++ [f] }
  | .error e => .error e

/-- Runs the setup of features in order, up to the first that fails. -/
def setupAll : List (Installed φ) → Except SessionError Unit × List (Installed φ)
  | [] => (.ok (), [])
  | f :: rest =>
    match f.setup with
    | (.error e, f) => (.error e, f :: rest)
    | (.ok (), f) =>
      let (result, rest) := setupAll rest
      (result, f :: rest)

/-- Runs the setup of every feature. -/
def setupFeatures (d : Dispatcher σ φ) : Except SessionError Unit × Dispatcher σ φ :=
  let (result, features) := setupAll d.features
  (result, { d with features })

/-- One iteration of the main loop for each of some features. -/
def iterateAll (c : DeviceContext) :
    List (Installed φ) → Outbox → List (Installed φ) × Outbox × List LogLine
  | [], o => ([], o, [])
  | f :: rest, o =>
    let (f, o, log) := f.iterate c o
    let (rest, o, more) := iterateAll c rest o
    (f :: rest, o, log ++ more)

/-- One iteration of the main loop for every feature. -/
def iterateFeatures (d : Dispatcher σ φ) (c : DeviceContext) (o : Outbox) :
    Dispatcher σ φ × Outbox × List LogLine :=
  let (features, o, log) := iterateAll c d.features o
  ({ d with features }, o, log)

/-! ### Actions -/

/-- Runs an action of the first feature that declares its name; `none` if no feature does. -/
def performOn (name : String) (m : Message) :
    List (Installed φ) → Option (Except DeviceError Unit × List (Installed φ))
  | [] => none
  | f :: rest =>
    match f.registry.action? name with
    | some action =>
      let (result, state) := action.invoke m f.state
      some (result, { f with state } :: rest)
    | none => (performOn name m rest).map fun (result, rest) => (result, f :: rest)

/-- Runs the action of a name, of the device or else of a feature. -/
def perform (d : Dispatcher σ φ) (name : String) (m : Message) :
    Except DeviceError Unit × Dispatcher σ φ :=
  match d.registry.action? name with
  | some action =>
    let (result, state) := action.invoke m d.state
    (result, { d with state })
  | none =>
    match performOn name m d.features with
    | some (result, features) => (result, { d with features })
    | none => (.error (.capability (.unknown .action name)), d)

/-- The signed answer that a request succeeded. -/
def succeed (d : Dispatcher σ φ) (time : UInt32) (m : Message) (extra : List Attribute) :
    Except DeviceError (Option Bytes) :=
  match d.account.successResponse time m extra (some d.account.username) with
  | .ok frame => .ok (some frame)
  | .error e => .error (.framing e)

/-- Runs the action that a request names and answers that it succeeded. -/
def performAction (d : Dispatcher σ φ) (time : UInt32) (m : Message) : Dispatched σ φ :=
  match m.text? .name with
  | none => ⟨d, .error (.message .actionWithoutName), []⟩
  | some name =>
    match d.perform name m with
    | (.ok (), d) => ⟨d, d.succeed time m [], []⟩
    | (.error e, d) => ⟨d, .error e, []⟩

/-! ### Status -/

/-- The status components of all parts as arguments, in order. -/
def statusDefs (d : Dispatcher σ φ) : List ArgumentDef :=
  d.registry.statusDefs ++ d.features.flatMap (·.registry.statusDefs)

/-- The values of the status components of features, in order. -/
def snapshotAll : List (Installed φ) → Except StatusFailure Assignment
  | [] => .ok []
  | f :: rest => do
    let values ← f.registry.snapshot f.state
    let more ← snapshotAll rest
    return values ++ more

/-- The values of all status components, or the first that cannot be read. -/
def snapshot (d : Dispatcher σ φ) : Except StatusFailure Assignment := do
  let values ← d.registry.snapshot d.state
  let more ← snapshotAll d.features
  return values ++ more

/-- Answers with the values of all status components. -/
def answerStatus (d : Dispatcher σ φ) (time : UInt32) (m : Message) : Dispatched σ φ :=
  match d.snapshot with
  | .ok values =>
    match ArgumentList.encode d.statusDefs values with
    | .ok payload => ⟨d, d.succeed time m [⟨.arguments, payload⟩], []⟩
    | .error e => ⟨d, .error (.argument e), []⟩
  | .error failure =>
    let reason := s!"Value for {failure.component} could not be retrieved"
    let reply := match d.account.errorResponse time m Refusal.notAvailable reason with
      | .ok frame => .ok (some frame)
      | .error e => .error (.framing e)
    ⟨d, reply, [.error s!"{reason}: {failure.cause.full}"]⟩

/-! ### Messages -/

/-- Handles one message. Responses, and requests of other methods, need no answer. -/
def dispatch (d : Dispatcher σ φ) (time : UInt32) (m : Message) : Dispatched σ φ :=
  if m.messageClass.isResponse then ⟨d, .ok none, []⟩
  else if m.method = Method.action then d.performAction time m
  else if m.method = Method.statusRequest then d.answerStatus time m
  else ⟨d, .ok none, []⟩

end Dispatcher

end RelayDevice
