import RelayDevice.Link.Datagram
import RelayDevice.Link.Stream
import RelayDevice.Settings.Basic
import RelayDevice.Settings.Trust

/-!
# The transport that settings choose

* `Connector` — a transport that is ready to be opened;
* `Settings.connector` — the one that settings choose. A secure stream needs certificates that vouch
  for the relay, and a name that the relay's own certificate can bear.
-/

namespace RelayDevice

/-- A transport that is ready to be opened. -/
inductive Connector
  | datagram (link : DatagramLink)
  | stream (link : StreamLink) (relay certifiedName : String) (anchors : List Bytes)

/-- A transport by datagrams, as settings have it. -/
def Settings.datagramLink (s : Settings) : DatagramLink :=
  .start s.relay.address s.transport.bufferSize.toNat

/-- A transport over a stream, as settings have it. -/
def Settings.streamLink (s : Settings) : StreamLink :=
  .start s.transport.reconnectDelay s.transport.reconnectCeiling

/-- The transport that settings choose. `trust` gives the certificates in a file, and `fit` tells
which of them can vouch for a relay. -/
def Settings.connector (s : Settings) (trust : String → TrustSource) (fit : Bytes → Bool) :
    Except DeviceError Connector :=
  match s.relay.transport with
  | .udp => .ok (.datagram s.datagramLink)
  | .tls =>
    match s.relay.trustFile with
    | none => .error (.config .trustFileMissing)
    | some path => do
      (checkServerName s.relay.serverName).mapError .tls
      let anchors ← (trust path).anchors fit
      return .stream s.streamLink s.relay.address s.relay.serverName anchors

end RelayDevice
