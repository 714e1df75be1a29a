import RelayDevice.Link.Worker
import RelayDevice.Session.Startup

/-!
# The life of a device

A device and the worker of its connection share their time. They live in turns: in each the worker
does a pass, and then the device does what it can at that moment. So the life of a device is a
function of the moments at which its turns come and of what its transport receives.

* `Life` — a device and its worker, and how far they are;
* `Life.turn` — one turn;
* `Life.leave` — the device is told to go offline, which takes further turns.

On its way online a device tells the account service about itself. The service answers at once.
-/

namespace RelayDevice

/-- How far a device is. -/
inductive LifeStage (σ φ : Type)
  | underway (startup : Startup σ φ)
  | online (mainLoop : MainLoop σ φ) (isOver : Bool)
  | leaving (state : σ)
  | over (result : Except DeviceError σ)

/-- A device and the worker of its connection. -/
structure Life (τ σ φ : Type) where
  worker : Worker
  link : τ
  stage : LifeStage σ φ
  /-- When the device has waited enough, for an answer or for its next iteration. -/
  due : Nanoseconds
  /-- The time between two iterations of the main loop. -/
  period : Nanoseconds

/-- When a turn comes, and the stamps for the frames that are built in it. -/
structure Moment where
  now : Nanoseconds
  stamps : Nat → Stamp

namespace Life

variable {τ σ φ : Type}

/-- A device that is about to come online. -/
def start (link : τ) (settings : Settings) (d : DeviceSession σ φ) : Life τ σ φ :=
  let sizes : QueueSizes :=
    ⟨settings.session.inboundQueue.toNat, settings.transport.outboundQueue.toNat⟩
  { worker := .start settings.session.silenceLimit sizes
    link
    stage := .underway (.ofSession d)
    due := 0
    period := settings.session.tickPeriod }

/-- The sending end of the worker's queue. -/
def outbox (l : Life τ σ φ) (m : Moment) : Outbox := ⟨l.worker.outbound, m.stamps, 0⟩

/-- Puts the sending end of the queue back. -/
def withOutbox (l : Life τ σ φ) (o : Outbox) : Life τ σ φ :=
  { l with worker := { l.worker with outbound := o.queue } }

/-! ### On the way -/

/-- Does what a device on its way asks for. What it learns at once is the second part. -/
def serve (publish : Uuid → String → String → Except DeviceError Unit) (now : Nanoseconds)
    (l : Life τ σ φ) : StartupRequest → Life τ σ φ × Option StartupEvent
  | .attach device key =>
    match l.worker.attach device key with
    | .ok worker => ({ l with worker }, some (.attached (.ok ())))
    | .error e => (l, some (.attached (.error e)))
  | .publish device apiKey descriptor => (l, some (.published (publish device apiKey descriptor)))
  | .send frame =>
    match l.worker.queue frame with
    | .ok worker => ({ l with worker }, none)
    | .error _ => (l, some (.opening .workerGone))
  | .pause delay => ({ l with due := now + delay }, none)
  | .detach device => ({ l with worker := l.worker.detach device }, none)

/-- The stage that follows a step of a device on its way. -/
def settled (l : Life τ σ φ) (m : Moment) (s : Startup σ φ) : Life τ σ φ × List LogLine :=
  match s.phase with
  | .online backlog =>
    let (mainLoop, o, log) := Startup.enter s.session backlog m.now (l.outbox m)
    ({ l with stage := .online mainLoop false, due := m.now }.withOutbox o, log)
  | .failed cause => ({ l with stage := .over (.error cause) }, [])
  | _ => ({ l with stage := .underway s }, [])

/-- Tells a device on its way something, and what it then learns at once. -/
def tell (publish : Uuid → String → String → Except DeviceError Unit) (m : Moment) :
    Nat → Life τ σ φ → Startup σ φ → StartupEvent → Life τ σ φ × List LogLine
  | 0, l, _, _ => (l, [])
  | fuel + 1, l, s, event =>
    let step := s.step event
    let (l, learnt) := step.requests.foldl (fun (l, learnt) request =>
      let (l, event) := l.serve publish m.now request
      (l, event.or learnt)) (l, none)
    let (l, entered) := l.settled m step.startup
    match learnt with
    | none => (l, step.log ++ entered)
    | some event =>
      let (l, log) := tell publish m fuel l step.startup event
      (l, step.log ++ entered ++ log)

/-- What a device on its way meets at a moment, if anything. -/
def meets (l : Life τ σ φ) (m : Moment) (s : Startup σ φ) : Option StartupEvent × Life τ σ φ :=
  match s.phase with
  | .idle => (some .launched, l)
  | .opening start =>
    match start.phase with
    | .ready =>
      if l.due ≤ m.now then
        (some (.opening (.sending (m.stamps 0))),
          { l with due := m.now + .ofMillis start.patience })
      else (none, l)
    | .waiting _ =>
      let (arrival, worker) := l.worker.read s.session.uuid
      let event := match arrival with
        | .message message => some (.opening (.received message))
        | .disconnected => some (.opening .workerGone)
        | .nothing => if l.due ≤ m.now then some (.opening .timedOut) else none
      (event, { l with worker })
    | .finished _ => (none, l)
  | _ => (none, l)

/-! ### Turns -/

/-- A device that is online does an iteration of its main loop if it is due. -/
def iterate (l : Life τ σ φ) (m : Moment) (mainLoop : MainLoop σ φ) :
    Life τ σ φ × List LogLine :=
  if l.due ≤ m.now then
    let done := mainLoop.iterate (fun w => w.read mainLoop.context.device) m.now (l.outbox m)
      l.worker
    let l := { l with
      worker := done.inbox
      stage := .online done.mainLoop done.isOver
      due := m.now + l.period }
    (l.withOutbox done.outbox, done.log)
  else (l, [])

/-- How many things a device can learn at once: that it is attached, and that it is published. -/
def lessons : Nat := 4

/-- One turn. -/
def turn (T : Transport τ) (publish : Uuid → String → String → Except DeviceError Unit)
    (m : Moment) (l : Life τ σ φ) : Life τ σ φ × List LogLine :=
  let (worker, link, passed) := l.worker.pass T m.now m.now l.link
  let l := { l with worker, link }
  let (l, lived) := match l.stage with
    | .underway s =>
      match l.meets m s with
      | (some event, l) => l.tell publish m lessons s event
      | (none, l) => (l, [])
    | .online mainLoop false => l.iterate m mainLoop
    | .online _ true | .over _ => (l, [])
    | .leaving state =>
      (if l.worker.phase = .ended then { l with stage := .over (.ok state) } else l, [])
  (l, passed ++ lived)

/-- A device that is online leaves: it asks the relay to end its session, and is detached. At any
other time it stays as it is. -/
def leave (m : Moment) (l : Life τ σ φ) : Life τ σ φ × List LogLine :=
  match l.stage with
  | .online mainLoop _ =>
    let device := mainLoop.context.device
    let l := { l with worker := l.worker.closeInbox device }
    let (o, log) := mainLoop.leave (l.outbox m)
    let l := l.withOutbox o
    ({ l with
      worker := l.worker.detach device
      stage := .leaving mainLoop.dispatcher.state }, log)
  | _ => (l, [])

end Life

end RelayDevice
