import RelayDevice.Decimal.Whole
import RelayDevice.Settings.Basic

/-!
# Settings from the environment

Some settings can be given by environment variables. A variable whose value cannot be read is
ignored.

* `Environment` — the variables that are set;
* `Environment.identityFile` — where identities are kept unless settings say otherwise;
* `Settings.ofEnvironment` — the settings that the variables give.
-/

namespace RelayDevice

/-- The environment variables that are set, with their values. -/
abbrev Environment := List (String × String)

namespace Environment

/-- The value of a variable. -/
def value? (e : Environment) (name : String) : Option String := List.lookup name e

/-- The directory for configuration: the one that is named by its full path, or one below the home
directory. -/
def directory? (e : Environment) : Option String :=
  match (e.value? "XDG_CONFIG_HOME").filter (·.startsWith "/") with
  | some directory => some directory
  | none =>
    ((e.value? "HOME").filter (!·.isEmpty)).map fun home =>
      if home.endsWith "/" then home ++ ".config" else home ++ "/.config"

/-- Where identities are kept unless settings say otherwise. -/
def identityFile (e : Environment) : Option String := e.directory?.map identityFileIn

/-- A variable that overrides a setting, if its value can be read. -/
def override {α : Type} (e : Environment) (name : String) (read : String → Option α) (usual : α) :
    α :=
  ((e.value? name).bind read).getD usual

end Environment

/-- The settings that environment variables give. -/
def Settings.ofEnvironment (e : Environment) : Settings :=
  let usual := Settings.blank e.identityFile
  { usual with
    device := { usual.device with
      name := e.override "LYNCNAT_DEVICE_NAME" some usual.device.name
      username := e.override "LYNCNAT_USERNAME" some usual.device.username
      apiKey := e.override "LYNCNAT_API_KEY" some usual.device.apiKey
      uuid := e.override "LYNCNAT_DEVICE_UUID" (fun s => (Uuid.ofText? s).map some) none }
    relay := { usual.relay with
      host := e.override "LYNCNAT_RELAY_HOST" some usual.relay.host
      transport := e.override "LYNCNAT_TRANSPORT" TransportKind.ofText? usual.relay.transport
      udpPort := e.override "LYNCNAT_UDP_PORT" Whole.word16? usual.relay.udpPort
      tlsPort := e.override "LYNCNAT_TLS_PORT" Whole.word16? usual.relay.tlsPort
      trustFile := e.override "LYNCNAT_CA_FILE" (fun s => some (some s)) none } }

end RelayDevice
