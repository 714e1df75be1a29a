import RelayDevice.Session.MainLoop
import RelayDevice.Session.Registration
import RelayDevice.Session.Start

/-!
# Bringing a device online

A device comes online in steps: it is set up, attached to the worker of its connection, described
to the account service, and then opens its session. What it asks of its surroundings and what it is
answered are data, so that a whole course of events is a list.

* `Startup` — a device on its way, and what it waits for;
* `StartupEvent`, `StartupRequest` — what it is told, and what it asks for;
* `Startup.step`, `Startup.run` — one event, and several;
* `Startup.enter` — the main loop of a device that is online.

A device that fails after it was attached asks to be detached, once; one that fails before was
never attached.
-/

namespace RelayDevice

/-- What a device on its way waits for. -/
inductive StartupPhase
  | idle
  | attaching
  | publishing
  | opening (start : SessionStart)
  | online (backlog : List Message)
  | failed (cause : DeviceError)

/-- What a device on its way asks of its surroundings. -/
inductive StartupRequest
  | attach (device : Uuid) (key : Bytes)
  | publish (device : Uuid) (apiKey descriptor : String)
  | send (frame : Bytes)
  | pause (delay : Nanoseconds)
  | detach (device : Uuid)
deriving DecidableEq

/-- What a device on its way is told. -/
inductive StartupEvent
  | launched
  | attached (result : Except NetworkError Unit)
  | published (result : Except DeviceError Unit)
  | opening (event : StartEvent)

/-- A device on its way. -/
structure Startup (σ φ : Type) where
  session : DeviceSession σ φ
  phase : StartupPhase

/-- What an event leads to. -/
structure StartupStep (σ φ : Type) where
  /-- The device afterwards. -/
  startup : Startup σ φ
  /-- What it asks for, in order. -/
  requests : List StartupRequest
  /-- What was reported. -/
  log : List LogLine

namespace Startup

variable {σ φ : Type}

/-- A device that nothing was asked of yet. -/
def ofSession (d : DeviceSession σ φ) : Startup σ φ := ⟨d, .idle⟩

/-- The device fails before it was attached. -/
def reject (s : Startup σ φ) (cause : DeviceError) : StartupStep σ φ :=
  ⟨{ s with phase := .failed cause }, [], []⟩

/-- What is reported when a device cannot come online. -/
def obituary (d : DeviceSession σ φ) (cause : DeviceError) : LogLine :=
  match cause with
  | .identity .unauthorized =>
    .error s!"Unauthorized. Provided credentials are not valid, device '{d.name}' cannot start"
  | .identity .unknownDevice =>
    .error (s!"Device {d.uuid.text} is not recognized by the relay. Was it deleted? "
      ++ "Remove its entry from the identity store and try again")
  | other => .error s!"Device '{d.name}' cannot start: {other.text}"

/-- The device fails after it was attached. -/
def abort (s : Startup σ φ) (cause : DeviceError) : StartupStep σ φ :=
  ⟨⟨{ s.session with state := .stopped }, .failed cause⟩, [.detach s.session.uuid],
    [obituary s.session cause]⟩

/-- The attempts to open a session of a device. -/
def firstAttempt (d : DeviceSession σ φ) : SessionStart :=
  .first d.account d.uuid (if d.isNew then some d.name else none) d.timing.startTimeout.toNat
    d.timing.retryDelay

/-- The device begins to open its session. -/
def beginOpening (s : Startup σ φ) (log : List LogLine) : StartupStep σ φ :=
  ⟨⟨{ s.session with state := .starting }, .opening (firstAttempt s.session)⟩, [], log⟩

/-- What a step of the attempts asks for. -/
def openingRequests (step : StartStep) : List StartupRequest :=
  step.frame.toList.map .send ++ step.pause.toList.map .pause

/-- An event of the attempts to open the session. -/
def advance (s : Startup σ φ) (start : SessionStart) (e : StartEvent) : StartupStep σ φ :=
  let next := start.step e
  match next.start.phase with
  | .finished (.ok ()) =>
    ⟨⟨{ s.session with state := .running }, .online next.start.backlog⟩, [], next.log⟩
  | .finished (.error cause) =>
    let aborted := s.abort cause
    { aborted with log := next.log ++ aborted.log }
  | .ready | .waiting _ =>
    ⟨{ s with phase := .opening next.start }, openingRequests next, next.log⟩

/-- One event. Events that the device does not wait for change nothing. -/
def step (s : Startup σ φ) (e : StartupEvent) : StartupStep σ φ :=
  match s.phase, e with
  | .idle, .launched =>
    match s.session.setup with
    | (.error cause, session) => { s with session }.reject (.session cause)
    | (.ok (), session) =>
      ⟨⟨session, .attaching⟩, [.attach session.uuid session.account.key], []⟩
  | .attaching, .attached (.error cause) => s.reject (.network cause)
  | .attaching, .attached (.ok ()) =>
    ⟨{ s with phase := .publishing },
      [.publish s.session.uuid s.session.account.apiKey s.session.dispatcher.descriptor.text], []⟩
  | .publishing, .published (.ok ()) => s.beginOpening []
  | .publishing, .published (.error cause) =>
    if cause.isRecoverable then s.beginOpening [.warn s!"Descriptor not sent: {cause.text}"]
    else s.abort cause
  | .opening start, .opening event => s.advance start event
  | _, _ => ⟨s, [], []⟩

/-- Several events; the requests and the log of all of them, in order. -/
def run (s : Startup σ φ) (events : List StartupEvent) : StartupStep σ φ :=
  events.foldl (fun done e =>
    let next := done.startup.step e
    ⟨next.startup, done.requests ++ next.requests, done.log ++ next.log⟩) ⟨s, [], []⟩

/-- The main loop of a device that is online, after its first keepalive was queued. -/
def enter (d : DeviceSession σ φ) (backlog : List Message) (now : Nanoseconds) (o : Outbox) :
    MainLoop σ φ × Outbox × List LogLine :=
  let context : DeviceContext := ⟨d.account, d.uuid, d.dispatcher.eventNames⟩
  let (result, o) := context.send .keepalive o
  let log := match result with
    | .ok () => []
    | .error e => [.warn s!"First keepalive not sent: {e.text}"]
  ({ dispatcher := d.dispatcher
     context
     device := d.device
     backlog
     keepaliveInterval := d.timing.keepaliveSpan
     lastKeepalive := now
     lastTick := none }, o, log)

end Startup

end RelayDevice
