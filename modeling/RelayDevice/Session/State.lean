/-!
# The life of a session

A device goes from `unregistered` over `registered` and `starting` to `running`, and from anywhere
to `stopped`. `SessionState.canBecome` holds of exactly these steps.
-/

namespace RelayDevice

/-- Where a device is in its life. -/
inductive SessionState
  | unregistered
  | registered
  | starting
  | running
  | stopped
deriving DecidableEq, Repr

namespace SessionState

/-- The name of a state. -/
def name : SessionState → String
  | unregistered => "unregistered"
  | registered => "registered"
  | starting => "session-starting"
  | running => "running"
  | stopped => "stopped"

/-- Whether one state may follow another. -/
def canBecome : SessionState → SessionState → Bool
  | unregistered, registered => true
  | registered, starting => true
  | starting, running => true
  | _, stopped => true
  | _, _ => false

end SessionState

end RelayDevice
