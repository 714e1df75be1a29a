import RelayDevice.Settings.Basic
import RelayDevice.Toml.Document

/-!
# Settings files

A settings file is a TOML document with a table for each group of settings. Settings that it leaves
out have their usual values, but a device that is described at all needs a name and an account.
Entries of other names are ignored.

* `Toml.group?` — a table, or a list of its entries in their order, as a function of the name;
* `Settings.ofToml?` — reads a settings file.
-/

namespace RelayDevice

namespace Toml

/-! ### Typed values -/

/-- A text. -/
def text? : Toml → Option String
  | text s => some s
  | _ => none

/-- A whole number that is not negative and below a bound. -/
def below? (bound : Nat) : Toml → Option Nat
  | integer n => if 0 ≤ n ∧ n < bound then some n.toNat else none
  | _ => none

/-- A number of sixteen bits. -/
def word16? (v : Toml) : Option UInt16 := (v.below? 65536).map .ofNat

/-- A number of thirty-two bits. -/
def word32? (v : Toml) : Option UInt32 := (v.below? 4294967296).map .ofNat

/-- A number of sixty-four bits. -/
def word64? (v : Toml) : Option UInt64 := (v.below? 18446744073709551616).map .ofNat

/-- A device identity: any of its written forms, or its octets. -/
def uuid? : Toml → Option Uuid
  | text s => Uuid.ofText? s
  | list items => do
    let octets ← (items.take 16).mapM (·.below? 256)
    Uuid.ofBytes? (octets.map .ofNat)
  | _ => none

/-- A kind of transport: its word, or its word over an empty table or list. -/
def kind? : Toml → Option TransportKind
  | text s => TransportKind.ofSetting? s
  | table _ [(word, table _ [])] | table _ [(word, list [])] => TransportKind.ofSetting? word
  | _ => none

/-! ### Groups -/

/-- The entries of a list under the names of a group, in order. -/
def named (names : List String) (items : List Toml) (name : String) : Option Toml :=
  List.lookup name (names.zip items)

/-- A group of entries: a table, or a list of its entries in their order. -/
def group? (names : List String) : Toml → Option (String → Option Toml)
  | table _ members => some fun name => List.lookup name members
  | list items => some (named names items)
  | tables elements => some (named names (elements.map (table .header)))
  | _ => none

/-- An entry that must be there. -/
def required {α : Type} (entries : String → Option Toml) (read : Toml → Option α) (name : String) :
    Option α :=
  entries name >>= read

/-- An entry that has a usual value. -/
def withDefault {α : Type} (entries : String → Option Toml) (read : Toml → Option α)
    (usual : α) (name : String) : Option α :=
  match entries name with
  | some v => read v
  | none => some usual

/-- An entry that may be missing. -/
def maybe {α : Type} (entries : String → Option Toml) (read : Toml → Option α)
    (name : String) : Option (Option α) :=
  withDefault entries (fun v => (read v).map some) none name

end Toml

/-! ### The groups of a settings file -/

/-- Reads who the device is. -/
def DeviceSettings.ofToml? (identityFile : Option String) (v : Toml) : Option DeviceSettings := do
  let entries ← v.group? ["name", "username", "api_key", "uuid", "identity_file"]
  let name ← Toml.required entries Toml.text? "name"
  let username ← Toml.required entries Toml.text? "username"
  let apiKey ← Toml.required entries Toml.text? "api_key"
  let uuid ← Toml.maybe entries Toml.uuid? "uuid"
  let identityFile ←
    Toml.withDefault entries (fun v => v.text?.map some) identityFile "identity_file"
  return { name, username, apiKey, uuid, identityFile }

/-- Reads where the relay is. -/
def RelaySettings.ofToml? (v : Toml) : Option RelaySettings := do
  let usual := RelaySettings.standard
  let entries ← v.group?
    ["host", "udp_port", "tls_port", "transport", "ca_file", "server_name"]
  let host ← Toml.withDefault entries Toml.text? usual.host "host"
  let udpPort ← Toml.withDefault entries Toml.word16? usual.udpPort "udp_port"
  let tlsPort ← Toml.withDefault entries Toml.word16? usual.tlsPort "tls_port"
  let transport ← Toml.withDefault entries Toml.kind? usual.transport "transport"
  let trustFile ← Toml.maybe entries Toml.text? "ca_file"
  let certifiedName ← Toml.maybe entries Toml.text? "server_name"
  return { host, udpPort, tlsPort, transport, trustFile, certifiedName }

/-- Reads the timing of a session. -/
def SessionSettings.ofToml? (v : Toml) : Option SessionSettings := do
  let usual := SessionSettings.standard
  let entries ← v.group? ["loop_frequency_hz", "keepalive_interval_secs",
    "keepalive_timeout_secs", "start_retry_initial_ms", "start_timeout_ms", "inbound_queue"]
  let span := Toml.withDefault entries Toml.word64?
  let loopFrequency ← Toml.withDefault entries Toml.word32? usual.loopFrequency "loop_frequency_hz"
  let keepaliveInterval ← span usual.keepaliveInterval "keepalive_interval_secs"
  let keepaliveTimeout ← span usual.keepaliveTimeout "keepalive_timeout_secs"
  let startRetryInitial ← span usual.startRetryInitial "start_retry_initial_ms"
  let startTimeout ← span usual.startTimeout "start_timeout_ms"
  let inboundQueue ← span usual.inboundQueue "inbound_queue"
  return ⟨loopFrequency, keepaliveInterval, keepaliveTimeout, startRetryInitial, startTimeout,
    inboundQueue⟩

/-- Reads the handling of a connection. -/
def TransportSettings.ofToml? (v : Toml) : Option TransportSettings := do
  let usual := TransportSettings.standard
  let entries ← v.group? ["receive_timeout_ms", "reconnect_initial_ms", "reconnect_max_ms",
    "buffer_size", "outbound_queue"]
  let size := Toml.withDefault entries Toml.word64?
  let receiveTimeout ← size usual.receiveTimeout "receive_timeout_ms"
  let reconnectInitial ← size usual.reconnectInitial "reconnect_initial_ms"
  let reconnectMax ← size usual.reconnectMax "reconnect_max_ms"
  let bufferSize ← size usual.bufferSize "buffer_size"
  let outboundQueue ← size usual.outboundQueue "outbound_queue"
  return { receiveTimeout, reconnectInitial, reconnectMax, bufferSize, outboundQueue }

/-- Reads the text of a settings file, given where identities are kept unless it says otherwise. -/
def Settings.ofToml? (identityFile : Option String) (file : String) : Option Settings := do
  let members ← Toml.document? file
  let usual := Settings.blank identityFile
  let entries (name : String) : Option Toml := List.lookup name members
  let device ←
    Toml.withDefault entries (DeviceSettings.ofToml? identityFile) usual.device "device"
  let relay ← Toml.withDefault entries RelaySettings.ofToml? usual.relay "relay"
  let session ← Toml.withDefault entries SessionSettings.ofToml? usual.session "session"
  let transport ← Toml.withDefault entries TransportSettings.ofToml? usual.transport "transport"
  return { device, relay, session, transport }

/-- The settings in a file of the given text; `none` stands for a file that cannot be read. -/
def Settings.load (identityFile : Option String) (file : Option String) :
    Except ConfigError Settings :=
  match file with
  | none => .error (.unreadable "config file")
  | some text =>
    match Settings.ofToml? identityFile text with
    | none => .error (.malformed "config")
    | some settings => .ok settings

end RelayDevice
