import RelayDevice.Capability.Registry
import RelayDevice.Link.Backoff
import RelayDevice.Session.Context
import RelayDevice.Session.Interaction

/-!
# Devices

What an application supplies for a device, besides its declarations: what is done before a session
and how the device works while nobody asks it to.
-/

namespace RelayDevice

/-- The behaviour of a device with a state of type `σ`. -/
structure Device (σ : Type) where
  /-- Runs once, before the session starts. -/
  setup : σ → Outcome σ
  /-- Runs on every tick. -/
  tick : σ → Interaction DeviceCall (Outcome σ)
  /-- The least time between two ticks; without one the device ticks on every iteration of the
  main loop. -/
  tickPeriod : σ → Option Nanoseconds

end RelayDevice
