import RelayDevice.Link.Datagram
import RelayDevice.Link.Heartbeat
import RelayDevice.Link.Stream
import RelayDevice.Simulation.Medium

/-!
# Rehearsing a transport

What can be done to a transport, and what can happen to it, step by step. The heartbeat of the
connection is at hand as well, because a new connection makes it begin anew.

* `LinkScene` — a medium together with what can happen to it;
* `LinkStep`, `LinkReport` — a step, and what is seen after it;
* `LinkRehearsal.step`, `LinkRehearsal.run` — one step, and several;
* `DatagramLink.scene`, `StreamLink.scene` — the scenes of the two transports.
-/

namespace RelayDevice

/-! ### Scenes -/

/-- A medium to which things of type `ε` can happen. -/
structure LinkScene (τ ε : Type) extends Medium τ where
  /-- Opens the transport for the first time. -/
  begin : τ → Served τ Unit
  /-- What something does to the transport. -/
  happen : ε → τ → τ
  /-- Takes away the delays that were waited. -/
  takeDelays : τ → List Nanoseconds × τ
  /-- Whether a local port is known. -/
  hasPort : τ → Bool
  /-- Whether there is a connection. -/
  isConnected : τ → Bool

/-- Something that is done to a transport, or happens to it. -/
inductive LinkStep (ε : Type)
  | begin
  | send (frame : Bytes)
  /-- Polls until a frame comes. -/
  | await
  /-- Polls once. -/
  | poll
  /-- Polls until the connection was replaced. -/
  | outlast
  | reconnect
  | close
  | offer (device : Uuid)
  | name
  | isConnected
  | happen (event : ε)

/-- What a step tells. -/
inductive LinkResult
  | nothing
  | done
  | refused (cause : DeviceError)
  | received (frame : Option Bytes)
  | sent (frame : Bytes)
  | verdict (answer : Bool)
  | named (name : String)

/-- What is seen after a step. -/
structure LinkReport where
  result : LinkResult
  hasPort : Bool
  owner : Option Uuid
  /-- The delays that were waited during the step. -/
  delays : List Nanoseconds

/-- A transport and the heartbeat of its connection. -/
structure LinkRehearsal (τ : Type) where
  link : τ
  heartbeat : Heartbeat

namespace LinkRehearsal

variable {τ ε : Type}

/-- A transport that was not used yet. -/
def start (link : τ) : LinkRehearsal τ := ⟨link, .start Heartbeat.defaultTimeout⟩

/-- The rehearsal after an operation. -/
def follow {α : Type} (r : LinkRehearsal τ) (s : Served τ α) : LinkRehearsal τ :=
  ⟨s.transport, if s.renewed then r.heartbeat.reset else r.heartbeat⟩

/-- What an operation without a result tells. -/
def outcome (s : Served τ Unit) : LinkResult :=
  match s.result with
  | .ok () => .done
  | .error e => .refused e

/-- What a poll tells. -/
def polled (s : Served τ (Option Bytes)) : LinkResult :=
  match s.result with
  | .ok frame => .received frame
  | .error e => .refused e

/-- Polls until `isEnough`, but no more than so many times. -/
def pollUntil (S : LinkScene τ ε) (isEnough : Served τ (Option Bytes) → Bool) :
    Nat → LinkRehearsal τ → LinkResult × LinkRehearsal τ
  | 0, r => (.received none, r)
  | n + 1, r =>
    let served := S.transport.receive r.link
    let r := r.follow served
    if isEnough served then (polled served, r) else pollUntil S isEnough n r

/-- Whether a poll gave a frame or failed. -/
def isFrame (s : Served τ (Option Bytes)) : Bool :=
  match s.result with
  | .ok none => false
  | _ => true

/-- Does what a step says. -/
def act (S : LinkScene τ ε) (r : LinkRehearsal τ) : LinkStep ε → LinkResult × LinkRehearsal τ
  | .begin => let served := S.begin r.link; (outcome served, r.follow served)
  | .send frame =>
    let served := S.transport.send r.link frame
    let (sent, link) := S.takeSent served.transport
    let result := match served.result with
      | .ok () => .sent sent.flatten
      | .error e => .refused e
    (result, r.follow { served with transport := link })
  | .await => pollUntil S isFrame (S.waiting r.link + 1) r
  | .poll => let served := S.transport.receive r.link; (polled served, r.follow served)
  | .outlast => pollUntil S (·.renewed) (S.waiting r.link + 1) r
  | .reconnect => let served := S.transport.reconnect r.link; (outcome served, r.follow served)
  | .close => (.done, { r with link := (S.transport.close r.link).1 })
  | .offer device =>
    let (sent, heartbeat) := r.heartbeat.offer device
    (.verdict sent, { r with heartbeat })
  | .name => (.named S.transport.name, r)
  | .isConnected => (.verdict (S.isConnected r.link), r)
  | .happen event => (.nothing, { r with link := S.happen event r.link })

/-- One step. -/
def step (S : LinkScene τ ε) (r : LinkRehearsal τ) (s : LinkStep ε) :
    LinkReport × LinkRehearsal τ :=
  let (result, r) := r.act S s
  let (delays, link) := S.takeDelays r.link
  (⟨result, S.hasPort link, r.heartbeat.owner, delays⟩, { r with link })

/-- Several steps. -/
def run (S : LinkScene τ ε) (r : LinkRehearsal τ) : List (LinkStep ε) → List LinkReport
  | [] => []
  | s :: rest =>
    let (report, r) := r.step S s
    report :: run S r rest

end LinkRehearsal

/-! ### The two transports -/

/-- A transport by datagrams as a medium. -/
def DatagramLink.medium : Medium DatagramLink :=
  { transport := transport
    waiting := fun l => (l.socket.getD []).length
    deliver := fun l frames => frames.foldl (fun l frame => l.arrive ⟨.relay, frame⟩) l
    takeSent := takeSent }

/-- A transport by datagrams, at which datagrams arrive. -/
def DatagramLink.scene : LinkScene DatagramLink Datagram :=
  { medium with
    begin := bind
    happen := fun d l => l.arrive d
    takeDelays := fun l => ([], l)
    hasPort := isBound
    isConnected := isBound }

/-- A transport over a stream whose octets are read in pieces of at most `size`, as a medium. -/
def StreamLink.medium (size : Nat) : Medium StreamLink :=
  { transport := transport
    waiting := fun l => (l.stream.getD []).length + l.reassembly.pending
    deliver := fun l frames => l.arrive size frames.flatten
    takeSent := takeSent }

/-- What the relay does to a stream. -/
inductive StreamEvent
  | write (octets : Bytes)
  | hangUp (refusals : Nat)
  | breakOff (refusals : Nat)
deriving DecidableEq, Repr

/-- A transport over a stream whose octets are read in pieces of at most `size`. -/
def StreamLink.scene (size : Nat) : LinkScene StreamLink StreamEvent :=
  { medium size with
    begin := begin
    happen := fun
      | .write octets, l => l.arrive size octets
      | .hangUp refusals, l => l.hangUp refusals
      | .breakOff refusals, l => l.breakOff refusals
    takeDelays := takeDelays
    hasPort := hasPort
    isConnected := isConnected }

end RelayDevice
