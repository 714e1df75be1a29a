import RelayDevice.Link.Arrival
import RelayDevice.Session.Device
import RelayDevice.Session.Dispatcher

/-!
# The main loop of a running device

Each iteration of the main loop sends a keepalive if one is due, lets the device tick if its time
has come, lets every feature take part, and handles at most one message: those that were put aside
while the session started come first, then those in the inbox. The loop ends when nothing is left
to handle and the worker of the connection is gone.

* `MainLoop` — what the loop keeps between two iterations;
* `MainLoop.keepalive`, `MainLoop.tick`, `MainLoop.next`, `MainLoop.handle` — the parts of an
  iteration;
* `MainLoop.iterate` — all of them in order. The inbox is read by a function on a state `ι` of its
  own, whatever holds it.
-/

namespace RelayDevice

/-- What the main loop keeps. -/
structure MainLoop (σ φ : Type) where
  /-- The device and its features. -/
  dispatcher : Dispatcher σ φ
  /-- Who speaks, and which events may be sent. -/
  context : DeviceContext
  /-- What the application supplied. -/
  device : Device σ
  /-- The messages that were put aside while the session started. -/
  backlog : List Message
  /-- The time between two keepalives. -/
  keepaliveInterval : Nanoseconds
  /-- When the last keepalive was due. -/
  lastKeepalive : Nanoseconds
  /-- When the device last ticked. -/
  lastTick : Option Nanoseconds

/-- What an iteration leads to. -/
structure Iteration (σ φ ι : Type) where
  /-- The loop afterwards. -/
  mainLoop : MainLoop σ φ
  /-- The sending end of the outbound queue. -/
  outbox : Outbox
  /-- What holds the inbox. -/
  inbox : ι
  /-- The message that was handled, if there was one. -/
  handled : Option Message
  /-- Whether the loop has ended. -/
  isOver : Bool
  /-- What was reported. -/
  log : List LogLine

namespace MainLoop

variable {σ φ ι : Type}

/-- Sends a keepalive if the last one lies too far back. -/
def keepalive (l : MainLoop σ φ) (now : Nanoseconds) (o : Outbox) :
    MainLoop σ φ × Outbox × List LogLine :=
  if l.keepaliveInterval < now - l.lastKeepalive then
    let (result, o) := l.context.send .keepalive o
    let log := match result with
      | .ok () => []
      | .error e => [.warn s!"Keepalive not sent: {e.text}"]
    ({ l with lastKeepalive := now }, o, log)
  else (l, o, [])

/-- Whether the device ticks now. -/
def isTickDue (l : MainLoop σ φ) (now : Nanoseconds) : Bool :=
  match l.lastTick, l.device.tickPeriod l.dispatcher.state with
  | some last, some period => period ≤ now - last
  | _, _ => true

/-- Lets the device tick if its time has come. -/
def tick (l : MainLoop σ φ) (now : Nanoseconds) (o : Outbox) :
    MainLoop σ φ × Outbox × List LogLine :=
  if l.isTickDue now then
    let ((state, failure), o) := (l.device.tick l.dispatcher.state).run l.context.perform o
    let log := match failure with
      | none => []
      | some f => [.warn s!"Periodic callback failed: {f.full}"]
    ({ l with dispatcher := { l.dispatcher with state }, lastTick := some now }, o, log)
  else (l, o, [])

/-- Lets every feature take part. -/
def features (l : MainLoop σ φ) (o : Outbox) : MainLoop σ φ × Outbox × List LogLine :=
  let (dispatcher, o, log) := l.dispatcher.iterateFeatures l.context o
  ({ l with dispatcher }, o, log)

/-- Takes the next message: one that was put aside, or else one from the inbox. -/
def next (l : MainLoop σ φ) (read : ι → Arrival × ι) (inbox : ι) : Arrival × MainLoop σ φ × ι :=
  match l.backlog with
  | m :: rest => (.message m, { l with backlog := rest }, inbox)
  | [] =>
    let (arrival, inbox) := read inbox
    (arrival, l, inbox)

/-- What is reported of a message that was dropped. -/
def dropped (m : Message) (e : DeviceError) : LogLine :=
  match e with
  | .action _ _ => .error e.text
  | _ => .warn s!"Dropping {m.method.name} {m.messageClass.name}: {e.text}"

/-- Handles a message and queues the answer, if there is one. -/
def handle (l : MainLoop σ φ) (m : Message) (o : Outbox) : MainLoop σ φ × Outbox × List LogLine :=
  let (stamp, o) := o.stamp
  let done := l.dispatcher.dispatch stamp.time m
  let l := { l with dispatcher := done.dispatcher }
  match done.reply with
  | .error e => (l, o, done.log ++ [dropped m e])
  | .ok none => (l, o, done.log)
  | .ok (some frame) =>
    match o.push frame with
    | (.ok (), o) => (l, o, done.log)
    | (.error e, o) =>
      (l, o, done.log ++ [.warn s!"Response to {m.method.name} not sent: {e.text}"])

/-- One iteration. -/
def iterate (l : MainLoop σ φ) (read : ι → Arrival × ι) (now : Nanoseconds) (o : Outbox)
    (inbox : ι) : Iteration σ φ ι :=
  let (l, o, kept) := l.keepalive now o
  let (l, o, ticked) := l.tick now o
  let (l, o, taken) := l.features o
  let before := kept ++ ticked ++ taken
  match l.next read inbox with
  | (.message m, l, inbox) =>
    let (l, o, log) := l.handle m o
    ⟨l, o, inbox, some m, false, before ++ log⟩
  | (.nothing, l, inbox) => ⟨l, o, inbox, none, false, before⟩
  | (.disconnected, l, inbox) =>
    ⟨l, o, inbox, none, true,
      before ++ [.warn "Transport worker went away, leaving main loop"]⟩

/-- The device leaves: it asks the relay to end the session. -/
def leave (l : MainLoop σ φ) (o : Outbox) : Outbox × List LogLine :=
  match l.context.send .endSession o with
  | (.ok (), o) => (o, [])
  | (.error e, o) => (o, [.warn s!"Session could not be ended: {e.text}"])

end MainLoop

end RelayDevice
