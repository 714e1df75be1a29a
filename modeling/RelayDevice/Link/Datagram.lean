import RelayDevice.Decimal.Whole
import RelayDevice.Link.Transport

/-!
# Frames as datagrams

A transport that sends each frame as one datagram. There is no connection that could be lost: all
it needs is a local socket, and replacing the connection is binding a new one.

* `relayPort` — the port in the address of a relay;
* `DatagramLink` — the address of the relay, and the local socket with the datagrams that wait;
* `DatagramLink.bind` — binds a new local socket;
* `DatagramLink.transport` — the operations of the transport. A datagram longer than the buffer is
  cut off, and one that does not come from the relay is dropped.
-/

namespace RelayDevice

/-! ### Addresses -/

/-- The port of a relay, which follows the last colon of its address. -/
def relayPort (relay : String) : Except NetworkError UInt16 :=
  let cs := relay.toList.reverse
  if ':' ∈ cs then
    match Whole.word16? (String.ofList (cs.takeWhile (· ≠ ':')).reverse) with
    | some port => .ok port
    | none => .error (.badPort relay)
  else .error (.noSocketAddress relay)

/-! ### Datagrams -/

/-- Where a datagram comes from. -/
inductive Sender
  | relay
  | stranger
deriving DecidableEq, Repr

/-- A datagram that arrived. -/
structure Datagram where
  sender : Sender
  octets : Bytes
deriving DecidableEq, Repr

/-- A transport by datagrams. -/
structure DatagramLink where
  /-- The address of the relay. -/
  relay : String
  /-- The octets that are taken of a datagram. -/
  bufferSize : Nat
  /-- The datagrams that wait at the local socket, the oldest first, if there is a socket. -/
  socket : Option (List Datagram)
  /-- The datagrams that reached the relay and were not yet taken away, the oldest first. -/
  sent : List Bytes
  /-- How many local sockets were bound so far. -/
  bindings : Nat
deriving DecidableEq, Repr

namespace DatagramLink

/-- A transport without a socket. -/
def start (relay : String) (bufferSize : Nat) : DatagramLink := ⟨relay, bufferSize, none, [], 0⟩

/-- Whether there is a local socket. -/
def isBound (l : DatagramLink) : Bool := l.socket.isSome

/-- Binds a new local socket. What waits at the old one is lost. -/
def bind (l : DatagramLink) : Served DatagramLink Unit :=
  match relayPort l.relay with
  | .ok _ => ⟨{ l with socket := some [], bindings := l.bindings + 1 }, true, .ok ()⟩
  | .error e => ⟨l, false, .error (.network e)⟩

/-- Takes the datagram that arrived first. -/
def receive (l : DatagramLink) : Served DatagramLink (Option Bytes) :=
  match l.socket with
  | none => ⟨l, false, .error (.network .datagramClosed)⟩
  | some [] => ⟨l, false, .ok none⟩
  | some (d :: rest) =>
    let l := { l with socket := some rest }
    match d.sender with
    | .relay => ⟨l, false, .ok (some (d.octets.take l.bufferSize))⟩
    | .stranger => ⟨l, false, .ok none⟩

/-- Sends a frame. -/
def send (l : DatagramLink) (frame : Bytes) : Served DatagramLink Unit :=
  match l.socket with
  | none => ⟨l, false, .error (.network .datagramClosed)⟩
  | some _ => ⟨{ l with sent := l.sent ++ [frame] }, false, .ok ()⟩

/-- Gives the local socket up and binds a new one. -/
def reconnect (l : DatagramLink) : Served DatagramLink Unit := { l with socket := none }.bind

/-- Gives the local socket up. -/
def close (l : DatagramLink) : DatagramLink × Closing := ({ l with socket := none }, .done)

/-- The operations of a transport by datagrams. -/
def transport : Transport DatagramLink := ⟨"UDP", receive, send, reconnect, close⟩

/-- A datagram arrives, if there is a socket. -/
def arrive (l : DatagramLink) (d : Datagram) : DatagramLink :=
  { l with socket := l.socket.map (· ++ [d]) }

/-- Takes away what reached the relay. -/
def takeSent (l : DatagramLink) : List Bytes × DatagramLink := (l.sent, { l with sent := [] })

end DatagramLink

end RelayDevice
