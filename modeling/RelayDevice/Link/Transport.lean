import RelayDevice.Error

/-!
# Transports

A transport carries whole frames to and from the relay. Whatever it is made of, it is a state and
five operations on it. An operation may replace the connection underneath, which it tells, so that
the heartbeat starts over.
-/

namespace RelayDevice

/-- What an operation of a transport leads to. -/
structure Served (τ α : Type) where
  /-- The transport afterwards. -/
  transport : τ
  /-- Whether a new connection was opened. -/
  renewed : Bool
  /-- What the operation gives. -/
  result : Except DeviceError α

/-- What closing a transport leads to. -/
inductive Closing
  | done
  | failed
  | hanging
deriving DecidableEq, Repr

/-- A way to carry frames, with a state of type `τ`. -/
structure Transport (τ : Type) where
  /-- What the transport is called. -/
  name : String
  /-- Waits a bounded time for a frame. -/
  receive : τ → Served τ (Option Bytes)
  /-- Sends a frame. -/
  send : τ → Bytes → Served τ Unit
  /-- Replaces the connection. -/
  reconnect : τ → Served τ Unit
  /-- Gives the connection up. -/
  close : τ → τ × Closing

/-- Maps what an operation gives. -/
def Served.map {τ α β : Type} (f : α → β) (s : Served τ α) : Served τ β :=
  ⟨s.transport, s.renewed, s.result.map f⟩

end RelayDevice
