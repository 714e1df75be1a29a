import RelayDevice.Link.Arrival
import RelayDevice.Link.Heartbeat
import RelayDevice.Link.Queue
import RelayDevice.Link.Transport
import RelayDevice.Log
import RelayDevice.Text.Record

/-!
# The worker of a connection

Devices that share a connection leave it to one worker, which owns the transport. A pass of the
worker

* applies what devices asked for (`Worker.applyCommands`) and stops once the last device has left;
* polls the transport for one frame (`Worker.poll`) and hands it on (`Worker.route`);
* sends all frames that devices queued, as far as the heartbeat lets them (`Worker.drain`);
* replaces the connection when the heartbeat has failed (`Worker.watch`).

A frame that names an attached device is for that device alone, any other for every device. A frame
with an authentication attribute reaches a device only if it is authentic under that device's key.

A device has one inbox at a time, known by the identity of the device: whoever attaches again has
given up the inbox it had.

Each part of a pass is a function of its own, so that devices may act between any two of them;
`Worker.pass` is all of them in a row. When the worker stops, it sends what is still queued and
closes the transport (`Worker.finish`).
-/

namespace RelayDevice

/-! ### The state of a worker -/

/-- A device on the connection. -/
structure Attachment where
  /-- The key of the device's account. -/
  key : Bytes
  /-- The messages that wait for the device. -/
  inbox : BoundedQueue Message
deriving DecidableEq

/-- What a device asks of the worker. -/
inductive WorkerCommand
  | attach (device : Uuid) (attachment : Attachment)
  | detach (device : Uuid)
deriving DecidableEq

/-- Whether the worker still does its passes. -/
inductive WorkerPhase
  | running
  | closing
  | ended
deriving DecidableEq, Repr

/-- The worker of a connection. -/
structure Worker where
  /-- The keepalives of the connection. -/
  heartbeat : Heartbeat
  /-- The attached devices. -/
  attached : List (Uuid × Attachment)
  /-- The inboxes of devices that are attached no more. -/
  detached : List (Uuid × BoundedQueue Message)
  /-- What devices asked for, the oldest first. -/
  commands : List WorkerCommand
  /-- The frames that devices queued. -/
  outbound : BoundedQueue Bytes
  /-- Whether a device was ever attached. -/
  hadDevices : Bool
  /-- Whether the worker was told, or decided, to stop. -/
  cancelled : Bool
  /-- Whether the worker still does its passes. -/
  phase : WorkerPhase
  /-- The room in a device's inbox. -/
  inboxCapacity : Nat
deriving DecidableEq

/-- The sizes of a worker's queues. -/
structure QueueSizes where
  inbound : Nat
  outbound : Nat
deriving DecidableEq, Repr

namespace Worker

/-- A worker that begins. -/
def start (timeout : Nanoseconds) (sizes : QueueSizes) : Worker :=
  { heartbeat := .start timeout
    attached := []
    detached := []
    commands := []
    outbound := .empty sizes.outbound
    hadDevices := false
    cancelled := false
    phase := .running
    inboxCapacity := max sizes.inbound 1 }

/-! ### What devices do -/

/-- The attachment of a device. -/
def attachment? (w : Worker) (device : Uuid) : Option Attachment := List.lookup device w.attached

/-- Whether a device is attached. -/
def isAttached (w : Worker) (device : Uuid) : Bool := (w.attachment? device).isSome

/-- A device asks to be attached. The worker takes it up in its next pass. -/
def attach (w : Worker) (device : Uuid) (key : Bytes) : Except NetworkError Worker :=
  if w.phase = .ended then .error .workerStopped
  else
    .ok { w with
      commands := w.commands ++ [.attach device ⟨key, .empty w.inboxCapacity⟩] }

/-- A device asks to be detached. -/
def detach (w : Worker) (device : Uuid) : Worker :=
  if w.phase = .ended then w else { w with commands := w.commands ++ [.detach device] }

/-- A device queues a frame. -/
def queue (w : Worker) (frame : Bytes) : Except NetworkError Worker :=
  match w.outbound.push frame with
  | .ok outbound => .ok { w with outbound }
  | .error .full => .error .outboundFull
  | .error .closed => .error .workerStopped

/-- Tells the worker to stop. -/
def shutdown (w : Worker) : Worker := { w with cancelled := true }

/-- A device closes its inbox without asking to be detached. This is the one inbox of the device,
whether the worker has taken it up already or not. -/
def closeInbox (w : Worker) (device : Uuid) : Worker :=
  { w with
    attached := w.attached.map fun (d, a) =>
      if d = device then (d, { a with inbox := a.inbox.close }) else (d, a)
    commands := w.commands.map fun
      | .attach d a =>
        if d = device then .attach d { a with inbox := a.inbox.close } else .attach d a
      | .detach d => .detach d
    detached := w.detached.filter (·.1 ≠ device) }

/-- A device takes the oldest message out of its inbox. The inbox of a device that is attached no
more, or whose worker has ended, can be read to its end. -/
def read (w : Worker) (device : Uuid) : Arrival × Worker :=
  match w.attachment? device with
  | some a =>
    match a.inbox.pop with
    | some (m, inbox) =>
      (.message m, { w with
        attached := w.attached.map fun (d, b) =>
          if d = device then (d, { b with inbox }) else (d, b) })
    | none => (if w.phase = .ended then .disconnected else .nothing, w)
  | none =>
    match List.lookup device w.detached with
    | some inbox =>
      match inbox.pop with
      | some (m, inbox) =>
        (.message m, { w with
          detached := w.detached.map fun (d, q) => if d = device then (d, inbox) else (d, q) })
      | none => (.disconnected, w)
    | none =>
      let waiting := w.phase ≠ .ended ∧ w.commands.any fun
        | .attach d _ => d = device
        | .detach _ => false
      (if waiting then .nothing else .disconnected, w)

/-! ### The parts of a pass -/

/-- Applies one command. A device that attaches again is given a new inbox in place of the one that
it has given up. -/
def applyCommand (w : Worker) : WorkerCommand → Worker
  | .attach device a =>
    { w with
      attached := w.attached.filter (·.1 ≠ device) ++ [(device, a)]
      detached := w.detached.filter (·.1 ≠ device)
      hadDevices := true }
  | .detach device =>
    { w with
      attached := w.attached.filter (·.1 ≠ device)
      detached := (w.attached.filter (·.1 = device)).map (fun (d, a) => (d, a.inbox))
        ++ w.detached }

/-- Applies all commands, in the order in which they were given. -/
def applyCommands (w : Worker) : Worker :=
  w.commands.foldl applyCommand { w with commands := [] }

/-- Whether the last device has left. -/
def isDeserted (w : Worker) : Bool := w.hadDevices && w.attached.isEmpty

/-- Whether a message is for a device: it names that device, or no attached one. -/
def isAddressed (w : Worker) (m : Message) (device : Uuid) : Bool :=
  match m.deviceId? with
  | some named => if w.isAttached named then named = device else true
  | none => true

/-- What becomes of a message that is offered to a device. -/
inductive Delivery
  | refused (cause : IntegrityError)
  | delivered (inbox : BoundedQueue Message)
  | full
  | closed
deriving DecidableEq

/-- Offers a message to a device: it must be authentic, and there must be room. -/
def Attachment.offer (a : Attachment) (frame : Bytes) (m : Message) : Delivery :=
  match Integrity.verify frame a.key with
  | .error cause => .refused cause
  | .ok _ =>
    match a.inbox.push m with
    | .ok inbox => .delivered inbox
    | .error .full => .full
    | .error .closed => .closed

/-- The attachment after an offer; a device whose inbox is closed is forgotten. -/
def Delivery.apply (a : Attachment) : Delivery → Option Attachment
  | refused _ | full => some a
  | delivered inbox => some { a with inbox }
  | closed => none

/-- What an offer leaves in the log. -/
def Delivery.log (c : MessageClass) : Delivery → List LogLine
  | refused cause => [.warn s!"Dropping {c.name} frame: {cause.toDeviceError.text}"]
  | full => [.warn "Inbound queue full, dropping frame"]
  | delivered _ | closed => []

/-- Offers a message to every device it is for. -/
def distribute (w : Worker) (frame : Bytes) (m : Message) : Worker × List LogLine :=
  let offers := w.attached.map fun (d, a) =>
    (d, a, if w.isAddressed m d then some (Attachment.offer a frame m) else none)
  ({ w with
      attached := offers.filterMap fun (d, a, offer) =>
        match offer with
        | none => some (d, a)
        | some delivery => (delivery.apply a).map (d, ·) },
    offers.flatMap fun (_, _, offer) =>
      match offer with
      | none => []
      | some delivery => delivery.log m.messageClass)

/-- Hands a frame on. Octets that are no frame are dropped, and answers to keepalives are for the
heartbeat alone. -/
def route (w : Worker) (now : Nanoseconds) (frame : Bytes) : Worker × List LogLine :=
  match Message.decode frame with
  | .error _ => (w, [])
  | .ok m =>
    match w.heartbeat.acknowledge now m with
    | (true, heartbeat) => ({ w with heartbeat }, [])
    | (false, _) => w.distribute frame m

/-- The heartbeat after an operation of the transport. -/
def renew {τ α : Type} (w : Worker) (s : Served τ α) : Worker :=
  if s.renewed then { w with heartbeat := w.heartbeat.reset } else w

variable {τ : Type} (T : Transport τ)

/-- Polls the transport for one frame and hands it on. -/
def poll (now : Nanoseconds) (w : Worker) (t : τ) : Worker × τ × List LogLine :=
  let served := T.receive t
  let w := w.renew served
  match served.result with
  | .error e => (w, served.transport, [.warn s!"Receive failed: {e.text}"])
  | .ok none => (w, served.transport, [])
  | .ok (some frame) =>
    let (w, log) := w.route now frame
    (w, served.transport, log)

/-- Sends one frame, unless the heartbeat holds it back. -/
def sendOne (frame : Bytes) (w : Worker) (t : τ) : Worker × τ × List LogLine :=
  match w.heartbeat.gate frame with
  | (false, heartbeat) => ({ w with heartbeat }, t, [])
  | (true, heartbeat) =>
    let served := T.send t frame
    let w := { w with heartbeat }.renew served
    match served.result with
    | .ok () => (w, served.transport, [])
    | .error e => (w, served.transport, [.warn s!"Send failed: {e.text}"])

/-- Sends frames one after the other. -/
def sendAll : List Bytes → Worker → τ → Worker × τ × List LogLine
  | [], w, t => (w, t, [])
  | frame :: frames, w, t =>
    let (w, t, log) := sendOne T frame w t
    let (w, t, more) := sendAll frames w t
    (w, t, log ++ more)

/-- Sends all frames that devices queued, in the order in which they were queued. -/
def drain (w : Worker) (t : τ) : Worker × τ × List LogLine :=
  sendAll T w.outbound.items { w with outbound := { w.outbound with items := [] } } t

/-- Replaces the connection when the heartbeat has failed. -/
def watch (now : Nanoseconds) (w : Worker) (t : τ) : Worker × τ × List LogLine :=
  match w.heartbeat.checkLiveness now with
  | (.ok (), heartbeat) => ({ w with heartbeat }, t, [])
  | (.error e, heartbeat) =>
    let served := T.reconnect t
    let w := { w with heartbeat }.renew served
    let warning := LogLine.warn s!"{(DeviceError.network e).text}. Reconnecting..."
    match served.result with
    | .ok () => (w, served.transport, [warning])
    | .error e => (w, served.transport, [warning, .error s!"Reconnect failed: {e.text}"])

/-! ### Passes and the end -/

/-- Nothing is taken from devices any more. -/
def finalize (w : Worker) : Worker := { w with phase := .ended, outbound := w.outbound.close }

/-- The worker gave up waiting for the transport to close. -/
def abandon (w : Worker) : Worker × List LogLine :=
  (w.finalize, [.warn "Transport did not close within 2s"])

/-- Sends what is still queued and closes the transport. -/
def finish (w : Worker) (t : τ) : Worker × τ × List LogLine :=
  let (w, t, log) := drain T { w with cancelled := true } t
  match T.close t with
  | (t, .hanging) => ({ w with phase := .closing }, t, log)
  | (t, .done) | (t, .failed) => (w.finalize, t, log)

/-- One pass. The clock is read when a frame is handed on and again when the heartbeat is
watched. -/
def pass (now later : Nanoseconds) (w : Worker) (t : τ) : Worker × τ × List LogLine :=
  if w.phase ≠ .running then (w, t, [])
  else if w.cancelled then finish T w t
  else
    let w := w.applyCommands
    if w.isDeserted then finish T w t
    else
      let (w, t, received) := poll T now w t
      let (w, t, sent) := drain T w t
      let (w, t, watched) := watch T later w t
      (w, t, received ++ sent ++ watched)

/-- The worker as reports show it. -/
def report (w : Worker) (transport : String) : String :=
  Record.withheld "TransportHandle" [("transport", Quoted.text transport),
    ("running", if w.cancelled then "false" else "true")]

end Worker

end RelayDevice
