import RelayDevice.Session.Registration

/-!
# An oven

A device to try things out with: it heats up to a target, stays there for some minutes and tells
when it is done. A second stands for a minute.

* `Oven` — the state of an oven;
* `Oven.bake`, `Oven.tick` — what a request to bake does, and what a minute does;
* `Oven.declarations`, `Oven.device` — the oven as a device;
* `AccountService.offline` — an account service that is not there: identities are made up and
  descriptors go nowhere.
-/

namespace RelayDevice

/-- An oven. -/
structure Oven where
  /-- The temperature in degrees. -/
  temperature : Int32
  /-- The temperature to be reached. -/
  target : Int32
  /-- The minutes that are left to bake. -/
  minutesLeft : Int32
deriving DecidableEq, Repr

namespace Oven

/-- An oven that was never switched on. -/
def start : Oven := ⟨0, 0, 0⟩

/-- The temperature of the room. -/
def roomTemperature : Int32 := 20

/-- The name of the event that tells that the oven is done. -/
def finishedEvent : String := "finished"

/-- The arguments of a request to bake. -/
def bakeArguments : List ArgumentDef := [⟨"temperature", .integer⟩, ⟨"time", .integer⟩]

/-- Sets a target and a time. Targets from 0 to 300 degrees are allowed. -/
def bake (o : Oven) : List ArgumentValue → Outcome Oven
  | .integer target :: .integer minutes :: _ =>
    if 0 ≤ target ∧ target ≤ 300 then ({ o with target, minutesLeft := minutes }, none)
    else (o, some (.ofText s!"temperature {target.toInt} out of range"))
  | .integer _ :: _ => (o, some (.ofText "time"))
  | _ => (o, some (.ofText "temperature"))

/-- Switches the oven off. -/
def off (o : Oven) : Outcome Oven := ({ o with target := 0, minutesLeft := 0 }, none)

/-- The oven cools down for a minute. -/
def cool (o : Oven) : Oven := { o with temperature := max (o.temperature - 10) roomTemperature }

/-- The oven heats for a minute. -/
def heat (o : Oven) : Oven :=
  ⟨min (o.temperature + 25) o.target, o.target, o.minutesLeft - 1⟩

/-- Why telling that the oven is done failed, if it did. -/
def announced : Except DeviceError Unit → Option Failure
  | .ok () => none
  | .error e => some (.ofText e.text)

/-- What a minute does: without anything to bake the oven cools down, else it heats, and tells when
the last minute is over. -/
def tick (o : Oven) : Interaction DeviceCall (Outcome Oven) :=
  if o.minutesLeft = (0 : Int32) then .done (o.cool, none)
  else if o.heat.minutesLeft = (0 : Int32) then
    .call (.event finishedEvent []) fun answer =>
      .done ({ o.heat with target := 0 }, announced answer)
  else .done (o.heat, none)

/-- What an oven declares. -/
def declarations : Declarations Oven :=
  { actions := [
      ⟨"bake", "Bake food", .arguments bakeArguments bake⟩,
      ⟨"stop", "Turn the oven off", .arguments [] fun o _ => o.off⟩]
    events := [⟨finishedEvent, []⟩]
    status := [
      ⟨"temperature", .integer, fun o => .ok (.integer o.temperature)⟩,
      ⟨"baking", .boolean, fun o => .ok (.boolean (0 < o.minutesLeft))⟩]
    info := { DeviceInfo.unknown with
      modelName := "demo-oven"
      manufacturer := "LyncNat"
      serialNumber := "0001" } }

/-- What an oven does by itself. -/
def device : Device Oven :=
  { setup := fun o => ({ o with temperature := roomTemperature }, none)
    tick := tick
    tickPeriod := fun _ => some (Nanoseconds.ofSeconds 1) }

end Oven

/-- An account service that makes up identities and takes descriptors nowhere. -/
def AccountService.offline {γ : Type} (fresh : γ → Uuid × γ) : AccountService γ :=
  { register := fun g _ => (.ok (fresh g).1, (fresh g).2)
    publish := fun g _ _ _ => (.ok (), g) }

end RelayDevice
