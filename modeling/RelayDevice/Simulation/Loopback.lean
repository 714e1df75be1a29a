import RelayDevice.Simulation.Medium

/-!
# A transport in memory

A transport that carries nothing anywhere: what arrives on it is put there, and what is sent on it
is kept. Its operations can be made to fail.
-/

namespace RelayDevice

/-- A transport in memory. -/
structure Loopback where
  /-- What arrives, in order: frames, and failures to receive. -/
  incoming : List (Except DeviceError Bytes)
  /-- What was sent and not yet taken away, the oldest first. -/
  sent : List Bytes
  /-- How many of the next frames cannot be sent. -/
  refusals : Nat
  /-- Whether the connection cannot be replaced. -/
  isStuck : Bool
  /-- What closing leads to. -/
  closing : Closing
  /-- How often the connection was to be replaced. -/
  reconnects : Nat
  /-- How often the transport was to be closed. -/
  closes : Nat

namespace Loopback

/-- A transport on which nothing has happened. -/
def start : Loopback := ⟨[], [], 0, false, .done, 0, 0⟩

/-- Takes what arrived first. -/
def receive (l : Loopback) : Served Loopback (Option Bytes) :=
  match l.incoming with
  | [] => ⟨l, false, .ok none⟩
  | .ok frame :: rest => ⟨{ l with incoming := rest }, false, .ok (some frame)⟩
  | .error e :: rest => ⟨{ l with incoming := rest }, false, .error e⟩

/-- Keeps a frame, unless it is to be refused. -/
def send (l : Loopback) (frame : Bytes) : Served Loopback Unit :=
  match l.refusals with
  | 0 => ⟨{ l with sent := l.sent ++ [frame] }, false, .ok ()⟩
  | n + 1 => ⟨{ l with refusals := n }, false, .error (.network (.stated "send refused"))⟩

/-- Replaces the connection, unless it is stuck. -/
def reconnect (l : Loopback) : Served Loopback Unit :=
  let l := { l with reconnects := l.reconnects + 1 }
  if l.isStuck then ⟨l, false, .error (.network (.stated "reconnect refused"))⟩
  else ⟨l, true, .ok ()⟩

/-- Closes the transport as it is told to. -/
def close (l : Loopback) : Loopback × Closing := ({ l with closes := l.closes + 1 }, l.closing)

/-- The operations of a transport in memory. -/
def transport : Transport Loopback := ⟨"mock", receive, send, reconnect, close⟩

/-- Puts frames where they arrive. -/
def deliver (l : Loopback) (frames : List Bytes) : Loopback :=
  { l with incoming := l.incoming ++ frames.map .ok }

/-- Takes away what was sent. -/
def takeSent (l : Loopback) : List Bytes × Loopback := (l.sent, { l with sent := [] })

/-- A transport in memory as a medium. -/
def medium : Medium Loopback :=
  { transport := transport
    waiting := fun l => l.incoming.length
    deliver := deliver
    takeSent := takeSent }

end Loopback

end RelayDevice
