import RelayDevice.Session.Feature

/-!
# Scripted parts

A part of a device whose behaviour is a script, for rehearsing a session without an application. Its
state is a table of variables, which actions and ticks change and status components show, and it
keeps a record of everything that is called.

* `PartScript` — a script, over the calls `κ` that a tick can make: those of a device or those of a
  feature;
* `PartState` — the variables and the record;
* `PartScript.declarations`, `PartScript.setup`, `PartScript.tick` — the part that follows a script.
-/

namespace RelayDevice

/-! ### The record -/

/-- A call of a scripted part. -/
inductive PartCall
  | setup (part : String)
  | tick (part : String) (number : Nat) (results : List (Except DeviceError Unit))
  | arguments (action part : String) (values : List ArgumentValue)
  | payload (action part : String) (octets : Bytes)

/-- Whether a call is that of an action. -/
def PartCall.isAction : PartCall → Bool
  | setup _ | tick _ _ _ => false
  | arguments _ _ _ | payload _ _ _ => true

/-- The state of a scripted part. -/
structure PartState where
  /-- The variables with their values. -/
  memory : Assignment
  /-- How many ticks there were. -/
  ticks : Nat
  /-- The calls, the oldest first. -/
  calls : List PartCall

namespace PartState

/-- A part to which nothing has happened. -/
def start (memory : Assignment) : PartState := ⟨memory, 0, []⟩

/-- Puts a call on record. -/
def record (s : PartState) (call : PartCall) : PartState := { s with calls := s.calls ++ [call] }

/-- Gives a variable a value. -/
def store (s : PartState) (name : String) (value : ArgumentValue) : PartState :=
  { s with memory := s.memory.filter (·.1 ≠ name) ++ [(name, value)] }

/-- Gives several variables their values. -/
def storeAll (s : PartState) (values : List (String × ArgumentValue)) : PartState :=
  values.foldl (fun s (name, value) => s.store name value) s

/-- The value of a variable. -/
def value (s : PartState) (name : String) : Except Failure ArgumentValue :=
  match List.lookup name s.memory with
  | some value => .ok value
  | none => .error (.ofText s!"no variable {name}")

end PartState

/-! ### Scripts -/

/-- How a scripted action takes its input. -/
inductive ActionInput
  | arguments (defs : List ArgumentDef)
  | payload
deriving DecidableEq

/-- An action that stores its input, unless it fails. -/
structure ActionScript where
  name : String
  description : String
  input : ActionInput
  failure : Option Failure
deriving DecidableEq

/-- Where a scripted status component takes its value from. -/
inductive StatusSource
  | variable (name : String)
  | failing (failure : Failure)
  | fixed (value : ArgumentValue)
deriving DecidableEq

/-- A scripted status component. -/
structure StatusScript where
  name : String
  kind : ArgumentType
  source : StatusSource
deriving DecidableEq

/-- One step of a tick. -/
inductive TickStep (κ : Type)
  | store (name : String) (value : ArgumentValue)
  | fail (failure : Failure)
  | call (request : κ)
deriving DecidableEq

/-- The behaviour of a part. -/
structure PartScript (κ : Type) where
  /-- What the part is called. -/
  name : String
  /-- The variables at the beginning. -/
  memory : Assignment
  actions : List ActionScript
  events : List Event
  status : List StatusScript
  info : DeviceInfo
  /-- Why the setup fails, if it does. -/
  setupFailure : Option Failure
  /-- What each tick does; further ticks do nothing. -/
  ticks : List (Option (List (TickStep κ)))
  /-- Whether ticks that do nothing are kept off the record. -/
  quiet : Bool

/-- The value of a status component. -/
def StatusScript.read (c : StatusScript) (s : PartState) : Except Failure ArgumentValue :=
  match c.source with
  | .variable name => s.value name
  | .failing failure => .error failure
  | .fixed value => .ok value

/-- Records the call of an action, and stores its input unless the action fails. -/
def ActionScript.conclude (a : ActionScript) (s : PartState) (call : PartCall)
    (values : List (String × ArgumentValue)) : Outcome PartState :=
  match a.failure with
  | some failure => (s.record call, some failure)
  | none => ((s.record call).storeAll values, none)

/-- The handler of a scripted action. Octets are stored as hexadecimal text. -/
def ActionScript.handler (a : ActionScript) (part : String) : Handler PartState :=
  match a.input with
  | .arguments defs =>
    .arguments defs fun s values =>
      a.conclude s (.arguments a.name part values) ((defs.map (·.name)).zip values)
  | .payload =>
    .payload fun s octets =>
      a.conclude s (.payload a.name part octets) [("payload", .string (Bytes.hex octets))]

namespace PartScript

variable {κ : Type}

/-- What a scripted part declares. -/
def declarations (p : PartScript κ) : Declarations PartState :=
  { actions := p.actions.map fun a => ⟨a.name, a.description, a.handler p.name⟩
    events := p.events
    status := p.status.map fun c => ⟨c.name, c.kind, c.read⟩
    info := p.info }

/-- The setup of a scripted part. -/
def setup (p : PartScript κ) (s : PartState) : Outcome PartState :=
  (s.record (.setup p.name), p.setupFailure)

/-- Follows the steps of a tick, given the results of the calls so far and the failure so far. At
the end the tick is put on record. -/
def follow (p : PartScript κ) (results : List (Except DeviceError Unit)) (failure : Option Failure)
    (s : PartState) : List (TickStep κ) → Interaction κ (Outcome PartState)
  | [] => .done (s.record (.tick p.name s.ticks results), failure)
  | .store name value :: rest => p.follow results failure (s.store name value) rest
  | .fail later :: rest => p.follow results (some later) s rest
  | .call request :: rest =>
    .call request fun result => p.follow (results ++ [result]) failure s rest

/-- Counts a tick. -/
def counted (outcome : Outcome PartState) : Outcome PartState :=
  ({ outcome.1 with ticks := outcome.1.ticks + 1 }, outcome.2)

/-- The tick of a scripted part. -/
def tick (p : PartScript κ) (s : PartState) : Interaction κ (Outcome PartState) :=
  match p.ticks[s.ticks]?.join with
  | some steps => (p.follow [] none s steps).map counted
  | none =>
    .done (counted (if p.quiet then s else s.record (.tick p.name s.ticks []), none))

end PartScript

end RelayDevice
