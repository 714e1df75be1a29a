import RelayDevice.Error

/-!
# Frames of an account

An account signs what it sends with its API key. This module builds every frame that a device, or
a relay that answers it, sends.

* `DeviceRequest` — what a device can ask of the relay, as a method and attributes;
* `Account.request`, `Account.frame` — a request on behalf of a device, and its signed frame;
* `Account.successResponse`, `Account.errorResponse`, `Account.addressResponse` — answers to a
  request, which carry its transaction identifier and method. Refusals with a number from 400 to
  499 are sent to a peer that may hold no key, so they alone are neither signed nor named.
-/

namespace RelayDevice

/-! ### Requests of a device -/

/-- What a device asks of the relay. -/
inductive DeviceRequest
  | keepalive
  | startSession (name : Option String)
  | endSession
  | log (level : UInt8) (text : String)
  | event (name : String) (payload : Bytes)
  | subscribe (event : String)
  | unsubscribe (event : String)
deriving DecidableEq

namespace DeviceRequest

/-- The method of a request. -/
def method : DeviceRequest → Method
  | keepalive => .keepalive
  | startSession _ | endSession => .binding
  | log _ _ => .log
  | event _ _ => .event
  | subscribe _ => .subscribe
  | unsubscribe _ => .unsubscribe

/-- The attributes that a request adds to those that name its sender. -/
def attributes : DeviceRequest → List Attribute
  | keepalive => []
  | startSession none => [⟨.beginSession, [SessionMark.start.octet]⟩]
  | startSession (some name) =>
    [⟨.name, Utf8.encode name⟩, ⟨.beginSession, [SessionMark.start.octet]⟩]
  | endSession => [⟨.beginSession, [SessionMark.finish.octet]⟩]
  | log level text => [⟨.errorLevel, [level]⟩, ⟨.logMessage, Utf8.encode text⟩]
  | event name payload => [⟨.name, Utf8.encode name⟩, ⟨.payload, payload⟩]
  | subscribe name | unsubscribe name => [⟨.eventName, Utf8.encode name⟩]

end DeviceRequest

/-! ### Attribute values of answers -/

/-- The value that tells the number and the reason of a refusal. -/
def errorCodeValue (code : UInt16) (reason : String) : Bytes :=
  0 :: 0 :: .ofNat (code.toNat / 100) :: .ofNat (code.toNat % 100)
    :: Bytes.zeroPad (Utf8.encode reason)

/-- The value that tells how long a frame stays valid. -/
def expiryValue : Bytes := Bytes.ofUInt32 Expiry.seconds

/-! ### Accounts -/

/-- What differs between two frames that say the same. -/
structure Stamp where
  /-- The identifier that an answer will carry. -/
  transactionId : TransactionId
  /-- The sender's clock in seconds since the beginning of 1970. -/
  time : UInt32
deriving DecidableEq, Inhabited

/-- The clock of a stamp as an attribute value. -/
def Stamp.timeValue (s : Stamp) : Bytes := Bytes.ofUInt32 s.time

/-- The credentials under which a device speaks. -/
structure Account where
  /-- The name of the account. -/
  username : String
  /-- The secret that keys every tag. -/
  apiKey : String
deriving DecidableEq, Repr

namespace Account

/-- The key of every tag. -/
def key (a : Account) : Bytes := Utf8.encode a.apiKey

/-- The username as an attribute value. -/
def usernameValue (a : Account) : Bytes := Utf8.encode a.username

/-- The signed frame of a message. -/
def sign (a : Account) (m : Message) : Except FramingError Bytes :=
  m.encode (some a.key)

/-- The account as reports show it, without its secret. -/
def report (a : Account) : String :=
  "MessageFactory \x7b username: " ++ Quoted.text a.username
    ++ ", api_key: \"<redacted>\" \x7d"

/-- A request on behalf of a device: who sends it and when, then what it is about. -/
def request (a : Account) (s : Stamp) (device : Uuid) (r : DeviceRequest) : Message :=
  { messageClass := .request
    method := r.method
    transactionId := s.transactionId
    attributes := ⟨.username, a.usernameValue⟩ :: ⟨.timestamp, s.timeValue⟩
      :: ⟨.deviceId, device.octets⟩ :: r.attributes }

/-- The signed frame of a request on behalf of a device. -/
def frame (a : Account) (s : Stamp) (device : Uuid) (r : DeviceRequest) :
    Except FramingError Bytes :=
  a.sign (a.request s device r)

/-- The request that opens a session, with the identifier that its answer will carry. A name is
sent along on a device's first session. -/
def startSession (a : Account) (s : Stamp) (device : Uuid) (name : Option String) :
    Except FramingError (TransactionId × Bytes) :=
  (a.frame s device (.startSession name)).map fun f => (s.transactionId, f)

/-- The request that registers a device under a name; the device has no identity yet. -/
def registerDevice (a : Account) (s : Stamp) (name : String) :
    Except FramingError (TransactionId × Bytes) :=
  let m : Message :=
    { messageClass := .request
      method := .binding
      transactionId := s.transactionId
      attributes := [⟨.username, a.usernameValue⟩, ⟨.timestamp, s.timeValue⟩,
        ⟨.name, Utf8.encode name⟩, ⟨.beginSession, [SessionMark.register.octet]⟩] }
  (a.sign m).map fun f => (s.transactionId, f)

/-! ### Answers -/

/-- The account that an answer names: that of the request, or else this one. -/
def answeredUsername (a : Account) (request : Message) : Bytes :=
  (request.attribute? .username).getD a.usernameValue

/-- The signed answer that a request succeeded. It names the given username, or else the account
that the request names, or else this one. -/
def successResponse (a : Account) (time : UInt32) (request : Message) (extra : List Attribute)
    (username : Option String) : Except FramingError Bytes :=
  let sender := (username.map Utf8.encode).getD (a.answeredUsername request)
  a.sign {
    messageClass := .success
    method := request.method
    transactionId := request.transactionId
    attributes := extra ++ [⟨.timestamp, Bytes.ofUInt32 time⟩, ⟨.username, sender⟩] }

/-- Whether a refusal goes out without a signature. -/
def isOpenRefusal (code : UInt16) : Bool := code.toNat / 100 == 4

/-- The answer that a request failed. -/
def errorResponse (a : Account) (time : UInt32) (request : Message) (code : UInt16)
    (reason : String) : Except FramingError Bytes :=
  let response : Message :=
    { messageClass := .error
      method := request.method
      transactionId := request.transactionId
      attributes := [⟨.errorCode, errorCodeValue code reason⟩,
        ⟨.serverTime, Bytes.ofUInt32 time⟩, ⟨.expirationPolicy, expiryValue⟩] }
  if isOpenRefusal code then response.encode none
  else a.sign (response.push .username (a.answeredUsername request))

/-- The signed answer that tells a client the address it is seen under. -/
def addressResponse (a : Account) (time : UInt32) (request : Message) (client : PeerAddress)
    (device : Option Uuid) : Except DeviceError Bytes := do
  let value ← client.maskedValue.mapError .message
  let response : Message :=
    { messageClass := .success
      method := request.method
      transactionId := request.transactionId
      attributes := [⟨.xorMappedAddress, value⟩, ⟨.timestamp, Bytes.ofUInt32 time⟩,
        ⟨.serverTime, Bytes.ofUInt32 time⟩, ⟨.expirationPolicy, expiryValue⟩]
        ++ device.toList.map fun d => ⟨.deviceId, d.octets⟩ }
  (a.sign response).mapError .framing

end Account

end RelayDevice
