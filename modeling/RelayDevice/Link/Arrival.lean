import RelayDevice.Wire.Message

/-!
# What a device finds in its inbox

`Arrival` is the outcome of a look into the inbox that a worker fills.
-/

namespace RelayDevice

/-- What a device finds in its inbox. -/
inductive Arrival
  | message (m : Message)
  | nothing
  | disconnected
deriving DecidableEq

end RelayDevice
