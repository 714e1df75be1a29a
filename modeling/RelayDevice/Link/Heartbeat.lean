import RelayDevice.Error
import RelayDevice.Link.Backoff

/-!
# One heartbeat for a shared connection

Several devices can share a connection. The relay needs a steady heartbeat from one of them, the
owner, and a single keepalive from each other device to learn that it is reached there.

* `Heartbeat.offer` — whether a device's keepalive is sent: the first device to offer one becomes
  the owner, whose keepalives are all sent; any other device gets one per connection;
* `Heartbeat.gate` — the same for an outbound frame; what is no keepalive request of a device is
  always sent and changes nothing;
* `Heartbeat.acknowledge` — takes note of an answer to a keepalive;
* `Heartbeat.checkLiveness` — fails once the owner has been silent for too long, and then not again
  until a further answer to the owner.

A `Heartbeat` lasts as long as a connection: `Heartbeat.reset` forgets all but the time limit. Times
are readings of a clock that does not run backwards.
-/

namespace RelayDevice

/-- The keepalives of a connection. -/
structure Heartbeat where
  /-- The silence after which the connection counts as down. -/
  timeout : Nanoseconds
  /-- The device whose keepalives are all sent. -/
  owner : Option Uuid
  /-- The devices whose keepalive was sent or answered, and whether it was answered. -/
  seen : List (Uuid × Bool)
  /-- When the owner was last answered. -/
  lastOwnerAnswer : Option Nanoseconds
deriving DecidableEq

namespace Heartbeat

/-- A fresh connection. -/
def start (timeout : Nanoseconds) : Heartbeat := ⟨timeout, none, [], none⟩

/-- The silence that is tolerated unless a device says otherwise. -/
def defaultTimeout : Nanoseconds := Nanoseconds.ofSeconds 180

/-- What is left when the connection is replaced. -/
def reset (h : Heartbeat) : Heartbeat := start h.timeout

/-- Takes down whether a device was answered. -/
def note (h : Heartbeat) (device : Uuid) (answered : Bool) : Heartbeat :=
  { h with seen := (device, answered) :: h.seen.filter (·.1 ≠ device) }

/-- Whether a device's keepalive was sent or answered on this connection. -/
def hasSeen (h : Heartbeat) (device : Uuid) : Bool := h.seen.any (·.1 = device)

/-- Whether a device's keepalive was answered on this connection. -/
def isAcknowledged (h : Heartbeat) (device : Uuid) : Bool :=
  (List.lookup device h.seen).getD false

/-- A device offers a keepalive. The answer says whether it is sent. -/
def offer (h : Heartbeat) (device : Uuid) : Bool × Heartbeat :=
  match h.owner with
  | none => (true, { h.note device false with owner := some device })
  | some owner =>
    if owner = device then (true, h)
    else if h.hasSeen device then (false, h)
    else (true, h.note device false)

/-- The device whose keepalive request a frame is. -/
def keepaliveOf? (frame : Bytes) : Option Uuid :=
  match Header.parse frame with
  | .error _ => none
  | .ok header =>
    if header.method = Method.keepalive ∧ header.messageClass.isResponse = false then
      match Message.decode frame with
      | .error _ => none
      | .ok m => m.deviceId?
    else none

/-- Whether an outbound frame is sent. -/
def gate (h : Heartbeat) (frame : Bytes) : Bool × Heartbeat :=
  match keepaliveOf? frame with
  | none => (true, h)
  | some device => h.offer device

/-- Whether a message answers a keepalive. -/
def isAnswer (m : Message) : Bool :=
  decide (m.method = Method.keepalive) && m.messageClass.isResponse

/-- Takes note of a message if it answers a keepalive, and says whether it does. An answer that
names no device is for the owner. -/
def acknowledge (h : Heartbeat) (now : Nanoseconds) (m : Message) : Bool × Heartbeat :=
  if isAnswer m then
    match m.deviceId? <|> h.owner with
    | none => (true, h)
    | some device =>
      let noted := h.note device true
      (true, if h.owner = some device then { noted with lastOwnerAnswer := some now } else noted)
  else (false, h)

/-- Fails when the owner was answered, but too long ago. -/
def checkLiveness (h : Heartbeat) (now : Nanoseconds) : Except NetworkError Unit × Heartbeat :=
  match h.lastOwnerAnswer with
  | none => (.ok (), h)
  | some last =>
    let silence := now - last
    if h.timeout < silence then
      (.error (.silent (Nanoseconds.seconds silence)), { h with lastOwnerAnswer := none })
    else (.ok (), h)

@[simp] theorem reset_start (timeout : Nanoseconds) : (start timeout).reset = start timeout := rfl

end Heartbeat

end RelayDevice
