import RelayDevice.Link.Worker
import RelayDevice.Simulation.Loopback

/-!
# A worker on a medium

* `Connection` — a worker with a medium and a clock that goes forward a little with each pass, so
  that a silence is noticed only by a heartbeat that tolerates none;
* `Connection.settle` — passes until all that arrived is handled and the worker is at rest;
* `WorkerRehearsal` — what can be done to a worker on a transport in memory from outside, step by
  step, and what is seen of it after each step.
-/

namespace RelayDevice

/-! ### Connections -/

/-- A worker with its transport. -/
structure Connection (τ : Type) where
  worker : Worker
  link : τ
  /-- The time that the worker reads next. -/
  clock : Nanoseconds

namespace Connection

variable {τ : Type}

/-- A connection that begins. -/
def start (timeout : Nanoseconds) (sizes : QueueSizes) (link : τ) : Connection τ :=
  ⟨.start timeout sizes, link, 0⟩

/-- One pass of the worker. -/
def pass (M : Medium τ) (c : Connection τ) : Connection τ × List LogLine :=
  let (worker, link, log) := c.worker.pass M.transport c.clock (c.clock + 1000) c.link
  (⟨worker, link, c.clock + 2000⟩, log)

/-- Several passes. -/
def passes (M : Medium τ) : Nat → Connection τ → Connection τ × List LogLine
  | 0, c => (c, [])
  | n + 1, c =>
    let (c, log) := c.pass M
    let (c, more) := passes M n c
    (c, log ++ more)

/-- Passes until the worker is at rest: each takes one frame, and two more see the effects of the
last. -/
def settle (M : Medium τ) (c : Connection τ) : Connection τ × List LogLine :=
  passes M (M.waiting c.link + 2) c

/-- Changes the worker. -/
def withWorker (c : Connection τ) (change : Worker → Worker) : Connection τ :=
  { c with worker := change c.worker }

/-- Changes the transport. -/
def withLink (c : Connection τ) (change : τ → τ) : Connection τ := { c with link := change c.link }

/-- A device takes up to `count` messages out of its inbox. -/
def takeMessages (device : Uuid) : Nat → Worker → List Message × Worker
  | 0, w => ([], w)
  | count + 1, w =>
    match w.read device with
    | (.message m, w) =>
      let (ms, w) := takeMessages device count w
      (m :: ms, w)
    | (_, w) => ([], w)

end Connection

/-! ### Rehearsals -/

/-- Something that is done to a worker from outside. -/
inductive WorkerStep
  | attach (device : Uuid) (key : Bytes)
  | detach (device : Uuid)
  | drop (device : Uuid)
  | inject (frames : List Bytes)
  | hold (frames : List Bytes)
  | outbound (frames : List Bytes)
  | receiveError (reason : String)
  | sendErrors (count : Nat)
  | reconnectFails (always : Bool)
  | shutdown
  | info
  | stopped
  | close (closing : Closing)
  | wait (milliseconds : Nat)

namespace WorkerStep

/-- The milliseconds that a step takes. -/
def duration : WorkerStep → Nat
  | wait milliseconds => milliseconds + 300
  | _ => 300

/-- Whether devices leave their inboxes alone after a step. -/
def isHold : WorkerStep → Bool
  | hold _ => true
  | _ => false

end WorkerStep

/-- What a step tells at once. -/
inductive StepResult
  | nothing
  | attached (device : Uuid)
  | refused (cause : DeviceError)
  | queued (results : List (Except QueueRefusal Unit))
  | told (transport report : String)
  | verdict (answer : Bool)

/-- What is seen of a worker after a step. -/
structure WorkerReport where
  result : StepResult
  sent : List Bytes
  /-- What devices found in their inboxes; those that found nothing are left out. -/
  delivered : List (Uuid × List Message)
  owner : Option Uuid
  /-- The devices that were answered. -/
  acknowledged : List Uuid
  isRunning : Bool
  reconnects : Nat
  closes : Nat
  /-- What was logged, in the order of the texts. -/
  log : List String

/-- A worker and the devices that deal with it. -/
structure WorkerRehearsal where
  connection : Connection Loopback
  /-- The devices that were attached and did not close their inboxes, in order. -/
  devices : List Uuid
  /-- The milliseconds for which the transport has been closing. -/
  closingFor : Nat

namespace WorkerRehearsal

/-- The milliseconds after which a worker gives up closing its transport. -/
def closingLimit : Nat := 2000

/-- A worker that no device has dealt with. -/
def start (timeout : Nanoseconds) (sizes : QueueSizes) : WorkerRehearsal :=
  ⟨.start timeout sizes .start, [], 0⟩

/-- A device queues frames one after the other. -/
def queueAll (w : Worker) : List Bytes → List (Except QueueRefusal Unit) × Worker
  | [] => ([], w)
  | frame :: frames =>
    match w.outbound.push frame with
    | .ok outbound =>
      let (results, w) := queueAll { w with outbound } frames
      (.ok () :: results, w)
    | .error e =>
      let (results, w) := queueAll w frames
      (.error e :: results, w)

/-- Adds a device to those in order. -/
def enlist (device : Uuid) (devices : List Uuid) : List Uuid :=
  (devices.filter (·.le device)).filter (· ≠ device) ++ device
    :: devices.filter fun d => !d.le device

/-- Does what a step says, before the worker takes notice. -/
def act (r : WorkerRehearsal) (s : WorkerStep) : StepResult × WorkerRehearsal :=
  let c := r.connection
  match s with
  | .attach device key =>
    match c.worker.attach device key with
    | .ok worker =>
      (.attached device,
        { r with connection := { c with worker }, devices := enlist device r.devices })
    | .error e => (.refused (.network e), r)
  | .detach device => (.nothing, { r with connection := c.withWorker (·.detach device) })
  | .drop device =>
    (.nothing, { r with
      connection := c.withWorker (·.closeInbox device)
      devices := r.devices.filter (· ≠ device) })
  | .inject frames | .hold frames =>
    (.nothing, { r with connection := c.withLink (·.deliver frames) })
  | .outbound frames =>
    let (results, worker) := queueAll c.worker frames
    (.queued results, { r with connection := { c with worker } })
  | .receiveError reason =>
    let failure := DeviceError.network (.stated reason)
    (.nothing, { r with
      connection := c.withLink fun l => { l with incoming := l.incoming ++ [.error failure] } })
  | .sendErrors count =>
    (.nothing, { r with connection := c.withLink fun l => { l with refusals := count } })
  | .reconnectFails always =>
    (.nothing, { r with connection := c.withLink fun l => { l with isStuck := always } })
  | .shutdown => (.nothing, { r with connection := c.withWorker (·.shutdown) })
  | .info =>
    let name := Loopback.transport.name
    (.told name (c.worker.report name), r)
  | .stopped => (.verdict c.worker.cancelled, r)
  | .close closing => (.nothing, { r with connection := c.withLink fun l => { l with closing } })
  | .wait _ => (.nothing, r)

/-- Counts the time of a step if the transport is closing, and gives up closing when it is over. -/
def elapse (r : WorkerRehearsal) (milliseconds : Nat) : WorkerRehearsal × List LogLine :=
  if r.connection.worker.phase = .closing then
    let closingFor := r.closingFor + milliseconds
    if closingLimit ≤ closingFor then
      let (worker, log) := r.connection.worker.abandon
      ({ r with connection := { r.connection with worker }, closingFor }, log)
    else ({ r with closingFor }, [])
  else (r, [])

/-- All devices empty their inboxes. -/
def collect : List Uuid → Worker → List (Uuid × List Message) × Worker
  | [], w => ([], w)
  | device :: devices, w =>
    let (messages, w) := Connection.takeMessages device w.inboxCapacity w
    let (rest, w) := collect devices w
    (if messages.isEmpty then rest else (device, messages) :: rest, w)

/-- One step, after which the worker comes to rest. -/
def step (r : WorkerRehearsal) (s : WorkerStep) : WorkerReport × WorkerRehearsal :=
  let (result, r) := r.act s
  let (connection, log) := r.connection.settle Loopback.medium
  let (r, more) := elapse { r with connection } s.duration
  let c := r.connection
  let (sent, link) := c.link.takeSent
  let (delivered, worker) := if s.isHold then ([], c.worker) else collect r.devices c.worker
  ({ result
     sent
     delivered
     owner := worker.heartbeat.owner
     acknowledged := r.devices.filter worker.heartbeat.isAcknowledged
     isRunning := !worker.cancelled
     reconnects := link.reconnects
     closes := link.closes
     log := ((log ++ more).map LogLine.text).mergeSort (· ≤ ·) },
    { r with connection := { c with worker, link } })

/-- Several steps. -/
def run (r : WorkerRehearsal) : List WorkerStep → List WorkerReport
  | [] => []
  | s :: rest =>
    let (report, r) := r.step s
    report :: run r rest

end WorkerRehearsal

end RelayDevice
