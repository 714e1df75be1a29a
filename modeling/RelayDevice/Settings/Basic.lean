import RelayDevice.Decimal.Nearest
import RelayDevice.Error
import RelayDevice.Link.Backoff
import RelayDevice.Link.Heartbeat
import RelayDevice.Link.Kind

/-!
# Settings

What a device needs to know before it can start: who it is, where the relay is, and how patient it
should be.

* `Settings` — all settings, in the four groups of a settings file;
* `Settings.validate` — whether a device can start with them;
* `SessionSettings.tickPeriod` — the time between two iterations of the main loop.
-/

namespace RelayDevice

/-- Who the device is. -/
structure DeviceSettings where
  /-- The name of the device, under which its identity is kept. -/
  name : String
  /-- The name of the account. -/
  username : String
  /-- The secret of the account. -/
  apiKey : String
  /-- The identity, if it is fixed beforehand. -/
  uuid : Option Uuid
  /-- The file that keeps identities. -/
  identityFile : Option String
deriving DecidableEq

/-- Where the relay is. -/
structure RelaySettings where
  host : String
  udpPort : UInt16
  tlsPort : UInt16
  transport : TransportKind
  /-- The file with the certificates that vouch for the relay. -/
  trustFile : Option String
  /-- The name that the relay's certificate must bear; that of the host if not given. -/
  certifiedName : Option String
deriving DecidableEq, Repr

/-- The timing of a session. -/
structure SessionSettings where
  /-- Iterations of the main loop per second. -/
  loopFrequency : UInt32
  /-- Seconds between two keepalives. -/
  keepaliveInterval : UInt64
  /-- Seconds of silence after which the connection counts as down. -/
  keepaliveTimeout : UInt64
  /-- Milliseconds before the first further attempt to start. -/
  startRetryInitial : UInt64
  /-- Milliseconds for which an attempt to start waits. -/
  startTimeout : UInt64
  /-- The room in a device's inbox. -/
  inboundQueue : UInt64
deriving DecidableEq, Repr

/-- The handling of a connection. -/
structure TransportSettings where
  /-- Milliseconds for which a poll waits. -/
  receiveTimeout : UInt64
  /-- Milliseconds before the first further attempt to connect. -/
  reconnectInitial : UInt64
  /-- The most milliseconds between two attempts to connect. -/
  reconnectMax : UInt64
  /-- The octets that are taken from a connection at once. -/
  bufferSize : UInt64
  /-- The room in the queue of outbound frames. -/
  outboundQueue : UInt64
deriving DecidableEq, Repr

/-- All settings of a device. -/
structure Settings where
  device : DeviceSettings
  relay : RelaySettings
  session : SessionSettings
  transport : TransportSettings
deriving DecidableEq

/-! ### Defaults -/

/-- The relay that is used unless settings name another. -/
def RelaySettings.standard : RelaySettings :=
  { host := "www.lhings.com", udpPort := 3478, tlsPort := 3480, transport := .tls,
    trustFile := none, certifiedName := none }

/-- The usual timing. -/
def SessionSettings.standard : SessionSettings :=
  { loopFrequency := 10, keepaliveInterval := 30, keepaliveTimeout := 180,
    startRetryInitial := 1000, startTimeout := 5000, inboundQueue := 64 }

/-- The usual handling of a connection. -/
def TransportSettings.standard : TransportSettings :=
  { receiveTimeout := 40, reconnectInitial := 100, reconnectMax := 20000, bufferSize := 2048,
    outboundQueue := 256 }

/-- Settings that say nothing, with a place to keep identities. -/
def Settings.blank (identityFile : Option String) : Settings :=
  { device := ⟨"", "", "", none, identityFile⟩
    relay := .standard
    session := .standard
    transport := .standard }

/-- Where identities are kept unless settings say otherwise, below the directory for
configuration. -/
def identityFileIn (directory : String) : String :=
  let base := if directory.endsWith "/" then directory else directory ++ "/"
  base ++ "lyncnat/devices.toml"

/-! ### Derived values -/

namespace RelaySettings

/-- The port for the chosen transport. -/
def port (r : RelaySettings) : UInt16 :=
  match r.transport with
  | .udp => r.udpPort
  | .tls => r.tlsPort

/-- Host and port of the relay. -/
def address (r : RelaySettings) : String := s!"{r.host}:{r.port.toNat}"

/-- The name that the relay's certificate must bear. -/
def serverName (r : RelaySettings) : String := r.certifiedName.getD r.host

end RelaySettings

namespace SessionSettings

/-- The time between two iterations of the main loop. The second is divided in binary floating
point of 53 digits, and the quotient is rounded to nanoseconds. -/
def tickPeriod (s : SessionSettings) : Nanoseconds :=
  let frequency := max s.loopFrequency.toNat 1
  let scale := Nat.pow 2 (Nat.log2 frequency + 53)
  Nearest.quotient (Nearest.quotient scale frequency * 1000000000) scale

/-- The time between two keepalives. -/
def keepaliveSpan (s : SessionSettings) : Nanoseconds :=
  Nanoseconds.ofSeconds s.keepaliveInterval.toNat

/-- The silence after which the connection counts as down. -/
def silenceLimit (s : SessionSettings) : Nanoseconds :=
  Nanoseconds.ofSeconds s.keepaliveTimeout.toNat

/-- The delay before the first further attempt to start. -/
def retryDelay (s : SessionSettings) : Nanoseconds :=
  Nanoseconds.ofMillis s.startRetryInitial.toNat

/-- How long an attempt to start waits. -/
def startSpan (s : SessionSettings) : Nanoseconds := Nanoseconds.ofMillis s.startTimeout.toNat

end SessionSettings

namespace TransportSettings

/-- How long a poll waits. -/
def receiveSpan (t : TransportSettings) : Nanoseconds :=
  Nanoseconds.ofMillis t.receiveTimeout.toNat

/-- The delay before the first further attempt to connect. -/
def reconnectDelay (t : TransportSettings) : Nanoseconds :=
  Nanoseconds.ofMillis t.reconnectInitial.toNat

/-- The longest delay between two attempts to connect. -/
def reconnectCeiling (t : TransportSettings) : Nanoseconds :=
  Nanoseconds.ofMillis t.reconnectMax.toNat

end TransportSettings

/-! ### Validation -/

/-- Whether a device can start with the settings: it has a name and an account, and its main loop
runs. -/
def Settings.validate (s : Settings) : Except ConfigError Unit :=
  if s.device.name.isEmpty then .error .emptyName
  else if s.device.username.isEmpty then .error .emptyUsername
  else if s.device.apiKey.isEmpty then .error .emptyApiKey
  else if s.session.loopFrequency = 0 then .error .zeroFrequency
  else .ok ()

end RelayDevice
