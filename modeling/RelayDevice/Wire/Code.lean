/-!
# Numbers of the protocol

The codes that a frame carries and the names they have in reports:

* `Method` — the twelve-bit operation code, with `Method.name`;
* `AttributeKind` — the sixteen-bit attribute code, with `AttributeKind.name`;
* `Expiry.seconds`, `SessionMark` — fixed values that some attributes hold;
* `Refusal` — the error numbers that the device itself tells apart or sends.

Codes are numbers rather than an enumeration: a frame with a code that has no name is a lawful
frame, which is passed on and ignored.
-/

namespace RelayDevice

/-! ### Methods -/

/-- An operation code of twelve bits. -/
abbrev Method := Fin 4096

namespace Method

/-- Opens, closes and registers sessions, and finds the reflexive address. -/
def binding : Method := 0x001

/-- A remote log line. -/
def log : Method := 0x00A

/-- Tells a device that no address translation stands before it. -/
def noNat : Method := 0xAAA

/-- Asks for a snapshot of the status components. -/
def statusRequest : Method := 0xAEE

/-- Renames a device. -/
def changeName : Method := 0xCAE

/-- The heartbeat. -/
def keepalive : Method := 0xEEA

/-- A reachability probe. -/
def ping : Method := 0xEE0

/-- Asks a device to reset. -/
def reset : Method := 0xEE1

/-- Joins an event feed. -/
def subscribe : Method := 0xEE2

/-- Leaves an event feed. -/
def unsubscribe : Method := 0xEE3

/-- An event that a device raises. -/
def event : Method := 0xEE4

/-- Runs an action. Notifications share this code. -/
def action : Method := 0xEE5

/-- A free-form command. -/
def customCommand : Method := 0xEE6

/-- Deletes a device. -/
def delete : Method := 0xEEE

/-- The method of the low twelve bits of a word. -/
def ofWord (w : UInt16) : Method := Fin.ofNat 4096 w.toNat

/-- The name of a method in reports. -/
def name (m : Method) : String :=
  if m = binding then "binding"
  else if m = log then "log"
  else if m = noNat then "no-nat"
  else if m = statusRequest then "status-request"
  else if m = changeName then "change-name"
  else if m = keepalive then "keepalive"
  else if m = ping then "ping"
  else if m = reset then "reset"
  else if m = subscribe then "subscribe"
  else if m = unsubscribe then "unsubscribe"
  else if m = event then "event"
  else if m = action then "action"
  else if m = customCommand then "custom-command"
  else if m = delete then "delete"
  else "unknown"

end Method

/-! ### Attributes -/

/-- An attribute code. -/
abbrev AttributeKind := UInt16

namespace AttributeKind

/-- The address that the relay sees, in the clear. -/
def mappedAddress : AttributeKind := 0x0001

/-- The account a frame belongs to. -/
def username : AttributeKind := 0x0006

/-- The authentication tag of a frame. -/
def messageIntegrity : AttributeKind := 0x0008

/-- Why a request was refused. -/
def errorCode : AttributeKind := 0x0009

/-- The attributes that were not understood. -/
def unknownAttributes : AttributeKind := 0x000A

/-- The authentication realm. -/
def realm : AttributeKind := 0x0014

/-- The authentication nonce. -/
def nonce : AttributeKind := 0x0015

/-- The address that the relay sees, masked by the cookie. -/
def xorMappedAddress : AttributeKind := 0x0020

/-- The sender's software. -/
def software : AttributeKind := 0x8022

/-- Another relay to turn to. -/
def alternateServer : AttributeKind := 0x8023

/-- A checksum of the frame. -/
def fingerprint : AttributeKind := 0x8028

/-- The sender's clock. -/
def timestamp : AttributeKind := 0x0C01

/-- Marks the opening, the end or the registration of a session. -/
def beginSession : AttributeKind := 0x0C02

/-- The sixteen octets of a device's identity. -/
def deviceId : AttributeKind := 0x0C03

/-- The device that is called. -/
def deviceIdCallee : AttributeKind := 0x0C04

/-- The device that calls. -/
def deviceIdCaller : AttributeKind := 0x0C05

/-- The name a device is to take. -/
def newName : AttributeKind := 0x0C06

/-- The name of a device, an action or an event. -/
def name : AttributeKind := 0x0C12

/-- The relay's clock. -/
def serverTime : AttributeKind := 0x0C13

/-- How long a frame stays valid. -/
def expirationPolicy : AttributeKind := 0x0C14

/-- The text of a log line. -/
def logMessage : AttributeKind := 0x0C15

/-- The level of a log line. -/
def errorLevel : AttributeKind := 0x0C16

/-- The event of a subscription. -/
def eventName : AttributeKind := 0x0C17

/-- Raw content of an event or an action. -/
def payload : AttributeKind := 0x0C18

/-- A typed argument list. -/
def arguments : AttributeKind := 0x0C19

/-- The name of an attribute in reports. -/
def title (k : AttributeKind) : String :=
  if k = mappedAddress then "MAPPED-ADDRESS"
  else if k = username then "USERNAME"
  else if k = messageIntegrity then "MESSAGE-INTEGRITY"
  else if k = errorCode then "ERROR-CODE"
  else if k = unknownAttributes then "UNKNOWN-ATTRIBUTES"
  else if k = realm then "REALM"
  else if k = nonce then "NONCE"
  else if k = xorMappedAddress then "XOR-MAPPED-ADDRESS"
  else if k = software then "SOFTWARE"
  else if k = alternateServer then "ALTERNATE-SERVER"
  else if k = fingerprint then "FINGERPRINT"
  else if k = timestamp then "TIMESTAMP"
  else if k = beginSession then "BEGIN-SESSION"
  else if k = deviceId then "DEVICE-ID"
  else if k = deviceIdCallee then "DEVICE-ID-CALLEE"
  else if k = deviceIdCaller then "DEVICE-ID-CALLER"
  else if k = newName then "NEW-NAME"
  else if k = name then "NAME"
  else if k = serverTime then "SERVER-TIME"
  else if k = expirationPolicy then "EXPIRATION-POLICY"
  else if k = logMessage then "LOG-MESSAGE"
  else if k = errorLevel then "ERROR-LEVEL"
  else if k = eventName then "EVENT-NAME"
  else if k = payload then "PAYLOAD"
  else if k = arguments then "ARGUMENTS"
  else "UNKNOWN"

end AttributeKind

/-! ### Fixed values -/

/-- What a binding request does to the session of its device. -/
inductive SessionMark
  | finish
  | start
  | register
deriving DecidableEq, Repr

/-- The octet of a session mark. -/
def SessionMark.octet : SessionMark → UInt8
  | .finish => 0
  | .start => 1
  | .register => 2

/-- Seconds for which a frame of the relay stays valid. -/
def Expiry.seconds : UInt32 := 60

namespace Refusal

/-- The credentials were rejected. -/
def unauthorized : Nat := 401

/-- The relay does not know the device. -/
def unknownDevice : Nat := 404

/-- A status component could not be read. -/
def notAvailable : UInt16 := 604

end Refusal

end RelayDevice
