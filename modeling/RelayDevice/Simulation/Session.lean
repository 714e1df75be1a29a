import RelayDevice.Simulation.Loopback
import RelayDevice.Simulation.Part
import RelayDevice.Simulation.Rehearsal

/-!
# Sessions of scripted devices

A scripted device with scripted features lives through a session on a connection in memory, against
a relay and an account service that follow a script as well.

* `SessionScript` — who takes part, and how the relay and the account service answer;
* `SessionStep` — what is done while the device is online;
* `SessionScript.play` — everything from the declarations of the device to the end of its session;
* `SessionOutcome` — how far that goes, and what is seen of it.
-/

namespace RelayDevice

/-! ### Scripts -/

/-- A feature with other names for some of its events. -/
structure FeatureScript where
  part : PartScript FeatureCall
  tickEvery : Nat
  aliases : List (String × String)

/-- Who takes part in a session, and what they do. -/
structure SessionScript where
  settings : Settings
  /-- How long the relay may be silent. -/
  silenceLimit : Nanoseconds
  sizes : QueueSizes
  device : PartScript DeviceCall
  tickPeriod : Option Nanoseconds
  features : List FeatureScript
  /-- What the identity store holds. -/
  identities : IdentityTable
  /-- How the account service answers a registration. -/
  registration : Except DeviceError Uuid
  /-- How the account service takes a descriptor. -/
  publication : Except DeviceError Unit
  /-- How the relay answers requests to open a session. -/
  answers : List OpeningAnswer

/-- Something that is done while a device is online. -/
inductive SessionStep
  | deliver (frames : List Bytes)
  | iterate (count : Nat)
  | sendErrors (count : Nat)
  | calls (list : List DeviceCall)
  | shutdown

/-- How many iterations of the main loop follow a step. -/
def SessionStep.iterations : SessionStep → Nat
  | iterate count => count
  | _ => 1

/-- A descriptor that the account service was given. -/
structure Publication where
  device : Uuid
  apiKey : String
  descriptor : String

/-! ### Parts and services that follow a script -/

/-- The device of a script. -/
def SessionScript.deviceOf (s : SessionScript) : Device PartState :=
  ⟨s.device.setup, s.device.tick, fun _ => s.tickPeriod⟩

/-- The feature of a script. -/
def FeatureScript.feature (f : FeatureScript) : Feature PartState :=
  { name := f.part.name
    declared := f.part.declarations
    initial := .start f.part.memory
    setup := f.part.setup
    tick := f.part.tick
    tickEvery := f.tickEvery }

/-- The account service of a script. It keeps the descriptors. -/
def SessionScript.service (s : SessionScript) : AccountService (List Publication) :=
  { register := fun given _ => (s.registration, given)
    publish := fun given device apiKey descriptor =>
      (s.publication, given ++ [⟨device, apiKey, descriptor⟩]) }

/-! ### Records of the parts -/

/-- A device with its features, all of them scripted. -/
abbrev ScriptedDispatcher := Dispatcher PartState PartState

/-- What was called on the device and then on each feature; what happened by itself comes first,
then the actions. -/
def ScriptedDispatcher.calls (d : ScriptedDispatcher) : List PartCall :=
  let all := d.state.calls ++ d.features.flatMap (·.state.calls)
  all.filter (!·.isAction) ++ all.filter (·.isAction)

/-- Clears the record of every part. -/
def ScriptedDispatcher.clearCalls (d : ScriptedDispatcher) : ScriptedDispatcher :=
  { d with
    state := { d.state with calls := [] }
    features := d.features.map fun f => { f with state := { f.state with calls := [] } } }

/-- A scripted device that is online, with what its parts were called for. -/
structure ScriptedOnline where
  online : Online Loopback PartState PartState
  calls : List PartCall

namespace ScriptedOnline

/-- Collects what the parts were called for. -/
def collect (a : ScriptedOnline) : ScriptedOnline :=
  let mainLoop := a.online.mainLoop
  let dispatcher : ScriptedDispatcher := mainLoop.dispatcher
  ⟨{ a.online with mainLoop := { mainLoop with dispatcher := dispatcher.clearCalls } },
    a.calls ++ dispatcher.calls⟩

/-- Several iterations of the main loop. -/
def iterate : Nat → ScriptedOnline → ScriptedOnline
  | 0, a => a
  | n + 1, a => iterate n { a with online := a.online.iterate Loopback.medium }.collect

/-- Does what a step says and lets the connection come to rest, before the next iteration; the
results of calls come with it. -/
def act (a : ScriptedOnline) : SessionStep → List (Except DeviceError Unit) × ScriptedOnline
  | .deliver frames =>
    ([], { a with online := a.online.withRehearsal (·.deliver Loopback.medium frames) })
  | .iterate _ => ([], a)
  | .sendErrors count =>
    ([], { a with
      online := a.online.withRehearsal (·.withLink fun l => { l with refusals := count }) })
  | .calls list =>
    let (results, online) := a.online.perform Loopback.medium list
    (results, { a with online })
  | .shutdown =>
    ([], { a with
      online := a.online.withRehearsal fun r =>
        (r.withWorker (·.shutdown)).settle Loopback.medium })

end ScriptedOnline

/-! ### Reports -/

/-- What is seen of a session over some time. -/
structure SessionReport (α : Type) where
  result : α
  /-- The frames that reached the transport. -/
  frames : List Bytes
  calls : List PartCall
  log : List LogLine
  /-- How often the connection was replaced since it began. -/
  reconnects : Nat

/-- What was seen since the last report. -/
def SessionReport.make {α : Type} (result : α) (r : Rehearsal Loopback) (calls : List PartCall) :
    SessionReport α :=
  ⟨result, r.frames, calls, r.log, r.connection.link.reconnects⟩

/-- A device of which a report was made. -/
def ScriptedOnline.reported (a : ScriptedOnline) : ScriptedOnline :=
  ⟨a.online.withRehearsal fun r => { r with frames := [], log := [] }, []⟩

/-- What is seen of a device that was created. -/
structure Creation where
  uuid : Uuid
  name : String
  state : SessionState
  /-- The identity that the store holds for the name afterwards. -/
  stored : Option Uuid

/-- What is seen of a step while a device is online. -/
structure StepReport where
  step : SessionStep
  /-- The report, with the results of calls. -/
  report : SessionReport (List (Except DeviceError Unit))
  /-- Whether the main loop is over. -/
  isOver : Bool

/-- What is seen of a session that was opened. -/
structure SessionTrace where
  start : SessionReport Unit
  published : List Publication
  steps : List StepReport
  stop : SessionReport Assignment
  isWorkerRunning : Bool

/-- How far a script gets. -/
inductive SessionOutcome
  | undeclared (cause : RegistryError)
  | uncreated (cause : DeviceError)
  | uncomposed (created : Creation) (cause : RegistryError)
  | unopened (created : Creation) (start : SessionReport DeviceError)
      (published : List Publication) (isWorkerRunning : Bool)
  | ended (created : Creation) (trace : SessionTrace)

/-! ### Playing a script -/

namespace SessionScript

/-- One step after the other. -/
def playSteps : List SessionStep → ScriptedOnline → List StepReport × ScriptedOnline
  | [], a => ([], a)
  | step :: rest, a =>
    let (results, a) := a.act step
    let a := a.iterate step.iterations
    let report := SessionReport.make results a.online.rehearsal a.calls
    let (reports, final) := playSteps rest a.reported
    (⟨step, report, a.online.isOver⟩ :: reports, final)

/-- Takes the steps with a device that has come online, and stops it. -/
def playOnline (steps : List SessionStep)
    (u : Underway Loopback (List Publication) PartState PartState)
    (backlog : List Message) : SessionTrace :=
  let first : ScriptedOnline := ⟨.enter u.rehearsal u.startup.session backlog, []⟩
  let first := ScriptedOnline.iterate 1 first.collect
  let (reports, last) := playSteps steps first.reported
  let stopped := last.online.stop Loopback.medium
  { start := .make () first.online.rehearsal first.calls
    published := u.service
    steps := reports
    stop := .make last.online.mainLoop.dispatcher.state.memory stopped last.calls
    isWorkerRunning := stopped.isRunning }

/-- Brings a device online, takes the steps and stops it. -/
def playSession (s : SessionScript) (steps : List SessionStep) (created : Creation)
    (d : DeviceSession PartState PartState) : SessionOutcome :=
  let connection := Connection.start s.silenceLimit s.sizes Loopback.start
  let u := Underway.bringOnline Loopback.medium s.service (.start connection s.answers) d []
  let failed (cause : DeviceError) : SessionOutcome :=
    let dispatcher : ScriptedDispatcher := u.startup.session.dispatcher
    .unopened created (.make cause u.rehearsal dispatcher.calls) u.service u.rehearsal.isRunning
  match u.startup.phase with
  | .online backlog => .ended created (playOnline steps u backlog)
  | .failed cause => failed cause
  | _ => failed (.session .workerStopped)

/-- Adds the features to a device. -/
def compose (features : List FeatureScript) (d : DeviceSession PartState PartState) :
    Except RegistryError (DeviceSession PartState PartState) :=
  features.foldlM (fun d f => d.addFeature f.feature f.aliases) d

/-- Plays a script to its end. -/
def play (s : SessionScript) (steps : List SessionStep) : SessionOutcome :=
  match s.device.declarations.build with
  | .error e => .undeclared e
  | .ok registry =>
    let initial := PartState.start s.device.memory
    match DeviceSession.create s.settings s.deviceOf registry initial IdentityTable.store s.service
        s.identities [] with
    | (.error e, _, _) => .uncreated e
    | (.ok d, identities, _) =>
      let created : Creation := ⟨d.uuid, d.name, d.state, IdentityTable.get identities d.name⟩
      match compose s.features d with
      | .error e => .uncomposed created e
      | .ok d => s.playSession steps created d

end SessionScript

end RelayDevice
