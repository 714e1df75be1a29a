import RelayDevice.Capability.Registry
import RelayDevice.Text.Json

/-!
# How a device describes itself

The descriptor lists all declarations of a device, in order, together with the make of the device.
It is uploaded as a JSON document.

* `Registry.descriptor` — the descriptor of one part of a device;
* `Descriptor.append` — joins the lists of a further part to it;
* `Descriptor.text` — the document.
-/

namespace RelayDevice

/-- An action as the descriptor lists it. -/
structure ActionEntry where
  name : String
  description : String
  inputs : List ArgumentDef
deriving DecidableEq, Repr

/-- The declarations of a device as others see them. -/
structure Descriptor where
  actions : List ActionEntry
  status : List ArgumentDef
  events : List Event
  info : DeviceInfo
deriving DecidableEq, Repr

/-- The entry of an action. -/
def Action.entry {σ : Type} (a : Action σ) : ActionEntry :=
  ⟨a.name, a.description, a.arguments⟩

/-- The descriptor of a registry. -/
def Registry.descriptor {σ : Type} (r : Registry σ) : Descriptor :=
  { actions := r.declared.actions.map Action.entry
    status := r.statusDefs
    events := r.declared.events
    info := r.declared.info }

namespace Descriptor

/-- Appends the lists of another descriptor; the make of the device stays. -/
def append (d other : Descriptor) : Descriptor :=
  { d with
    actions := d.actions ++ other.actions
    status := d.status ++ other.status
    events := d.events ++ other.events }

/-- An argument in the document. -/
def ofArgument (d : ArgumentDef) : JsonValue :=
  .object [("name", .string d.name), ("type", .string d.kind.name)]

/-- An action in the document. -/
def ofAction (a : ActionEntry) : JsonValue :=
  .object [("name", .string a.name), ("description", .string a.description),
    ("inputs", .list (a.inputs.map ofArgument))]

/-- An event in the document. -/
def ofEvent (e : Event) : JsonValue :=
  .object [("name", .string e.name), ("components", .list (e.components.map ofArgument))]

/-- The descriptor as a document. -/
def document (d : Descriptor) : JsonValue :=
  .object [("actionList", .list (d.actions.map ofAction)),
    ("stateVariableList", .list (d.status.map ofArgument)),
    ("eventList", .list (d.events.map ofEvent)),
    ("modelName", .string d.info.modelName), ("manufacturer", .string d.info.manufacturer),
    ("deviceType", .string d.info.deviceType), ("serialNumber", .string d.info.serialNumber)]

/-- The text of the document. -/
def text (d : Descriptor) : String := d.document.text

end Descriptor

end RelayDevice
