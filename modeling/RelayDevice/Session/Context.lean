import RelayDevice.Account
import RelayDevice.Link.Queue

/-!
# What a running device sends on its own

Events, log lines and subscriptions are put into the outbound queue without waiting; when there is
no room, the caller is told and the frame is gone.

* `Outbox` — the sending end of the queue, with a supply of stamps for further frames;
* `DeviceContext` — the account and identity that speak, and the events that may be sent;
* `DeviceCall`, `DeviceContext.perform` — what can be sent, and sending it.
-/

namespace RelayDevice

/-- The sending end of an outbound queue. -/
structure Outbox where
  /-- The frames that wait to be sent. -/
  queue : BoundedQueue Bytes
  /-- The stamps of all frames that may be built. -/
  stamps : Nat → Stamp
  /-- How many stamps are used up. -/
  used : Nat

namespace Outbox

/-- The next stamp, which is then used up. -/
def stamp (o : Outbox) : Stamp × Outbox := (o.stamps o.used, { o with used := o.used + 1 })

/-- Queues a frame. -/
def push (o : Outbox) (frame : Bytes) : Except DeviceError Unit × Outbox :=
  match o.queue.push frame with
  | .ok queue => (.ok (), { o with queue })
  | .error .full => (.error (.network .outboundFull), o)
  | .error .closed => (.error (.network .workerStopped), o)

end Outbox

/-- What a running device can send on its own. -/
inductive DeviceCall
  | event (name : String) (payload : Bytes)
  | log (level : UInt8) (text : String)
  | subscribe (event : String)
  | unsubscribe (event : String)
deriving DecidableEq

/-- The request that a call sends. -/
def DeviceCall.request : DeviceCall → DeviceRequest
  | event name payload => .event name payload
  | log level text => .log level text
  | subscribe feed => .subscribe feed
  | unsubscribe feed => .unsubscribe feed

/-- Who speaks, and which events may be sent. -/
structure DeviceContext where
  /-- The account that signs. -/
  account : Account
  /-- The device. -/
  device : Uuid
  /-- The names of all declared events, as the relay knows them. -/
  events : List String
deriving DecidableEq

namespace DeviceContext

/-- Builds the frame of a request and queues it. -/
def send (c : DeviceContext) (r : DeviceRequest) (o : Outbox) : Except DeviceError Unit × Outbox :=
  let (stamp, o) := o.stamp
  match c.account.frame stamp c.device r with
  | .error e => (.error (.framing e), o)
  | .ok frame => o.push frame

/-- Carries out a call. Only declared events may be sent. -/
def perform (c : DeviceContext) (call : DeviceCall) (o : Outbox) :
    Except DeviceError Unit × Outbox :=
  match call with
  | .event name _ =>
    if name ∈ c.events then c.send call.request o
    else (.error (.capability (.unknown .event name)), o)
  | _ => c.send call.request o

end DeviceContext

end RelayDevice
