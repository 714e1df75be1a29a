import RelayDevice.Error
import RelayDevice.Text.Record

/-!
# What a device can do

A device declares its actions, events and status components up front. Their handlers work on the
state of the part that declares them, a type `σ` that the application chooses.

* `Action`, `Event`, `StatusComponent`, `DeviceInfo` — the declarations;
* `Declarations.ofSequence` — what is declared one after the other (`Declaration`);
* `Declarations.check` — names are letters, digits and underscores, and unique among their kind;
  an action takes at most eight arguments and a device has at most eight status components; the
  arguments of one owner have distinct names of 1 to 255 octets;
* `Registry` — declarations that passed the check, made by `Declarations.build`;
* `Registry.action?` — the action of a name, through a table of the places of actions;
* `Registry.snapshot` — reads every status component, up to the first that fails.
-/

namespace RelayDevice

/-! ### Declarations -/

/-- What calling an application leads to: its state afterwards, and what went wrong if anything
did. -/
abbrev Outcome (σ : Type) := σ × Option Failure

/-- How an action receives its input: as typed arguments in the order of their declarations, or as
octets. -/
inductive Handler (σ : Type)
  | arguments (defs : List ArgumentDef) (run : σ → List ArgumentValue → Outcome σ)
  | payload (run : σ → Bytes → Outcome σ)

/-- Something that a device can be asked to do. -/
structure Action (σ : Type) where
  /-- What the action is called. -/
  name : String
  /-- What it does, for readers. -/
  description : String
  /-- What is run. -/
  handler : Handler σ

namespace Action

variable {σ : Type}

/-- The arguments that the action takes. -/
def arguments (a : Action σ) : List ArgumentDef :=
  match a.handler with
  | .arguments defs _ => defs
  | .payload _ => []

/-- Whether the action takes octets. -/
def needsPayload (a : Action σ) : Bool :=
  match a.handler with
  | .arguments _ _ => false
  | .payload _ => true

end Action

/-- Something that a device can tell about on its own. -/
structure Event where
  /-- What the event is called. -/
  name : String
  /-- What its payload carries. -/
  components : List ArgumentDef
deriving DecidableEq, Repr

/-- A value of a device that can be asked for. -/
structure StatusComponent (σ : Type) where
  /-- What the component is called. -/
  name : String
  /-- The type that its values must have. -/
  kind : ArgumentType
  /-- Gives the value, or fails. -/
  accessor : σ → Except Failure ArgumentValue

namespace StatusComponent

variable {σ : Type}

/-- The declaration of a component as an argument. -/
def toDef (c : StatusComponent σ) : ArgumentDef := ⟨c.name, c.kind⟩

/-- The value of a component. A value of another type than declared is a failure. -/
def read (c : StatusComponent σ) (state : σ) : Except Failure ArgumentValue :=
  match c.accessor state with
  | .error failure => .error failure
  | .ok value =>
    if value.kind ≠ c.kind then
      .error (.ofText
        s!"status '{c.name}' is declared {c.kind.name} but read as {value.kind.name}")
    else .ok value

theorem kind_of_read {c : StatusComponent σ} {state : σ} {value : ArgumentValue}
    (h : c.read state = .ok value) : value.kind = c.kind := by
  unfold read at h
  split at h
  · cases h
  · split at h
    · cases h
    · next hkind =>
      injection h with h
      subst h
      simpa using hkind

end StatusComponent

/-- What is known of the make of a device. -/
structure DeviceInfo where
  modelName : String
  manufacturer : String
  deviceType : String
  serialNumber : String
deriving DecidableEq, Repr

/-- What is said of a device whose make is not declared. -/
def DeviceInfo.unknown : DeviceInfo := ⟨"", "", "lyncnat-rust", ""⟩

/-- All that a part of a device declares, in order. -/
structure Declarations (σ : Type) where
  actions : List (Action σ)
  events : List Event
  status : List (StatusComponent σ)
  info : DeviceInfo

/-- A single step in declaring what a part of a device can do. -/
inductive Declaration (σ : Type)
  | action (name description : String) (arguments : List ArgumentDef)
      (run : σ → List ArgumentValue → Outcome σ)
  | payloadAction (name description : String) (run : σ → Bytes → Outcome σ)
  | event (name : String) (components : List ArgumentDef)
  | status (name : String) (kind : ArgumentType) (accessor : σ → Except Failure ArgumentValue)
  | make (info : DeviceInfo)

namespace Declarations

variable {σ : Type}

/-- Nothing is declared yet. -/
def nothing : Declarations σ := ⟨[], [], [], .unknown⟩

/-- Declares something more. A make takes over from the one that was declared before. -/
def declare (d : Declarations σ) : Declaration σ → Declarations σ
  | .action name description arguments run =>
    { d with actions := d.actions ++ [⟨name, description, .arguments arguments run⟩] }
  | .payloadAction name description run =>
    { d with actions := d.actions ++ [⟨name, description, .payload run⟩] }
  | .event name components => { d with events := d.events ++ [⟨name, components⟩] }
  | .status name kind accessor => { d with status := d.status ++ [⟨name, kind, accessor⟩] }
  | .make info => { d with info }

/-- What is declared one after the other. -/
def ofSequence (sequence : List (Declaration σ)) : Declarations σ := sequence.foldl declare nothing

end Declarations

/-- The most arguments of an action, and the most status components of a device. -/
def entryLimit : Nat := 8

/-! ### Checking -/

/-- Names consist of ASCII letters, digits and underscores, and of at least one of these. -/
def isValidName (name : String) : Bool :=
  !name.isEmpty && name.toList.all fun c => c.isAlphanum || c == '_'

/-- Checks the form of a name and that it is none of those seen before. -/
def checkName (kind : CapabilityKind) (seen : List String) (name : String) :
    Except RegistryError Unit :=
  if !isValidName name then .error (.invalidName kind name)
  else if name ∈ seen then .error (.duplicate kind name)
  else .ok ()

/-- Checks that argument names are distinct and of 1 to 255 octets. -/
def checkArguments (owner : String) (seen : List String) :
    List ArgumentDef → Except RegistryError Unit
  | [] => .ok ()
  | d :: defs =>
    if d.name.utf8ByteSize = 0 ∨ 255 < d.name.utf8ByteSize then
      .error (.argumentNameSize d.name owner)
    else if d.name ∈ seen then .error (.duplicateArgument d.name owner)
    else checkArguments owner (d.name :: seen) defs

namespace Declarations

variable {σ : Type}

/-- Checks actions, given the names of those before them. -/
def checkActions (seen : List String) : List (Action σ) → Except RegistryError Unit
  | [] => .ok ()
  | a :: rest => do
    checkName .action seen a.name
    if entryLimit < a.arguments.length then
      throw (.tooManyArguments a.name a.arguments.length)
    checkArguments a.name [] a.arguments
    checkActions (a.name :: seen) rest

/-- Checks events, given the names of those before them. -/
def checkEvents (seen : List String) : List Event → Except RegistryError Unit
  | [] => .ok ()
  | e :: rest => do
    checkName .event seen e.name
    checkArguments e.name [] e.components
    checkEvents (e.name :: seen) rest

/-- Checks status components, given the names of those before them. -/
def checkStatus (seen : List String) : List (StatusComponent σ) → Except RegistryError Unit
  | [] => .ok ()
  | c :: rest => do
    checkName .status seen c.name
    checkStatus (c.name :: seen) rest

/-- Checks everything: actions, then events, then status components. -/
def check (d : Declarations σ) : Except RegistryError Unit := do
  checkActions [] d.actions
  checkEvents [] d.events
  if entryLimit < d.status.length then throw (.tooManyStatus d.status.length)
  checkStatus [] d.status

/-- Enters the names of actions into a table, along with the places of the actions, counted from the
given one. A new entry takes over from an older one of the same name. -/
def enter (entries : List (String × Nat)) (place : Nat) : List (Action σ) → List (String × Nat)
  | [] => entries
  | a :: rest => enter ((a.name, place) :: entries) (place + 1) rest

end Declarations

/-! ### Registries -/

/-- Declarations that passed the check. -/
structure Registry (σ : Type) where
  /-- What is declared. -/
  declared : Declarations σ
  /-- It passed the check. -/
  check_eq : declared.check = .ok ()

/-- The registry of declarations, or the first fault found in them. -/
def Declarations.build {σ : Type} (d : Declarations σ) : Except RegistryError (Registry σ) :=
  match h : d.check with
  | .ok () => .ok ⟨d, h⟩
  | .error e => .error e

/-- A status component that could not be read, and why. -/
structure StatusFailure where
  component : String
  cause : Failure
deriving DecidableEq, Repr

namespace Registry

variable {σ : Type}

/-- The places of actions in their list, by name. -/
def index (r : Registry σ) : List (String × Nat) := Declarations.enter [] 0 r.declared.actions

/-- The action of a name. -/
def action? (r : Registry σ) (name : String) : Option (Action σ) :=
  (r.index.lookup name).bind (r.declared.actions[·]?)

/-- The event of a name. -/
def event? (r : Registry σ) (name : String) : Option Event :=
  r.declared.events.find? (·.name = name)

/-- Whether an event is declared. -/
def hasEvent (r : Registry σ) (name : String) : Bool := (r.event? name).isSome

/-- The status components as arguments, in order. -/
def statusDefs (r : Registry σ) : List ArgumentDef :=
  r.declared.status.map StatusComponent.toDef

/-- Reads status components one after the other. -/
def readAll (state : σ) : List (StatusComponent σ) → Except StatusFailure Assignment
  | [] => .ok []
  | c :: rest =>
    match c.read state with
    | .error cause => .error ⟨c.name, cause⟩
    | .ok value => (readAll state rest).map ((c.name, value) :: ·)

/-- The values of all status components, or the first that cannot be read. -/
def snapshot (r : Registry σ) (state : σ) : Except StatusFailure Assignment :=
  readAll state r.declared.status

end Registry

/-! ### Reports -/

/-- A type with a capital letter. -/
def ArgumentType.title : ArgumentType → String
  | integer => "Integer"
  | float => "Float"
  | string => "String"
  | boolean => "Boolean"
  | timestamp => "Timestamp"

/-- An argument as reports show it. -/
def ArgumentDef.report (d : ArgumentDef) : String :=
  Record.text "ArgumentDef" [("name", Quoted.text d.name), ("kind", d.kind.title)]

/-- An event as reports show it. -/
def Event.report (e : Event) : String :=
  Record.text "Event" [("name", Quoted.text e.name),
    ("components", Record.list (e.components.map ArgumentDef.report))]

/-- The make of a device as reports show it. -/
def DeviceInfo.report (i : DeviceInfo) : String :=
  Record.text "DeviceInfo" [("model_name", Quoted.text i.modelName),
    ("manufacturer", Quoted.text i.manufacturer), ("device_type", Quoted.text i.deviceType),
    ("serial_number", Quoted.text i.serialNumber)]

/-- An action as reports show it, without its description and handler. -/
def Action.report {σ : Type} (a : Action σ) : String :=
  Record.withheld "Action" [("name", Quoted.text a.name),
    ("arguments", Record.list (a.arguments.map ArgumentDef.report)),
    ("payload_needed", if a.needsPayload then "true" else "false")]

/-- A registry as reports show it. -/
def Registry.report {σ : Type} (r : Registry σ) : String :=
  Record.text "CapabilityRegistry" [
    ("actions", Record.list (r.declared.actions.map Action.report)),
    ("events", Record.list (r.declared.events.map Event.report)),
    ("status", Quoted.list (r.declared.status.map (·.name))),
    ("info", r.declared.info.report)]

end RelayDevice
