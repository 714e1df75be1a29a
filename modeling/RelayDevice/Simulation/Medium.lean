import RelayDevice.Link.Transport

/-!
# Media

A transport whose other side is at hand: frames can be made to arrive on it, and what is sent on it
can be seen.
-/

namespace RelayDevice

/-- A transport of state `τ` with its other side. -/
structure Medium (τ : Type) where
  transport : Transport τ
  /-- How many polls take all that waits. -/
  waiting : τ → Nat
  /-- Makes frames arrive, in order. -/
  deliver : τ → List Bytes → τ
  /-- Takes away what was sent. -/
  takeSent : τ → List Bytes × τ

end RelayDevice
