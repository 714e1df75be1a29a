import RelayDevice.Argument.Layout
import RelayDevice.Text.Base64
import RelayDevice.Text.Place
import RelayDevice.Wire.Address
import RelayDevice.Wire.Integrity

/-!
# What can go wrong

Every operation that fails says why by a cause of its own domain; this module gathers the causes
and holds their wording.

* `Failure` — what the code of an application reports, with the causes behind it;
* `NetworkError`, `RegistryError`, `SessionError`, `ConfigError`, `TlsError` — the causes that do
  not belong to a single format;
* `DeviceError`, `DeviceError.message` — any of them, and its text;
* `DeviceError.isRecoverable` — only a rejected identity ends a session for good.

Each cause has a case `stated` for a reason that a collaborator of the device puts into words.
-/

namespace RelayDevice

/-! ### Failures of applications -/

/-- What went wrong in an application, with the reasons behind it, the nearest first. -/
structure Failure where
  /-- What is reported first. -/
  outer : String
  /-- Why it happened, and why that happened, and so on. -/
  causes : List String
deriving DecidableEq, Repr

namespace Failure

/-- A failure with a single text. -/
def ofText (s : String) : Failure := ⟨s, []⟩

/-- All texts of a failure in one line. -/
def full (f : Failure) : String := String.intercalate ": " (f.outer :: f.causes)

end Failure

/-! ### Causes -/

/-- Why a connection does not do what is asked of it. -/
inductive NetworkError
  | outboundFull
  | workerStopped
  | silent (seconds : Nat)
  | startTimeout (milliseconds : Nat)
  | noSocketAddress (relay : String)
  | badPort (relay : String)
  | datagramClosed
  | streamClosed
  | streamBroken
  | stated (reason : String)
deriving DecidableEq, Repr

/-- The three kinds of capability, as errors call them. -/
inductive CapabilityKind
  | action
  | event
  | status
deriving DecidableEq, Repr

/-- The word for a kind of capability. -/
def CapabilityKind.word : CapabilityKind → String
  | action => "action"
  | event => "event"
  | status => "status component"

/-- Why declarations make no table of capabilities, or a feature does not fit a device. -/
inductive RegistryError
  | invalidName (kind : CapabilityKind) (name : String)
  | duplicate (kind : CapabilityKind) (name : String)
  | tooManyArguments (action : String) (count : Nat)
  | tooManyStatus (count : Nat)
  | argumentNameSize (argument owner : String)
  | duplicateArgument (argument owner : String)
  | aliasWithoutEvent (feature event : String)
  | clash (feature : String) (kind : CapabilityKind) (name : String)
  | statusOverflow (feature : String) (count : Nat)
  | stated (reason : String)
deriving DecidableEq, Repr

/-- A name that nothing is declared under. -/
inductive CapabilityError
  | unknown (kind : CapabilityKind) (name : String)
  | stated (reason : String)
deriving DecidableEq, Repr

/-- Why the relay refused the identity of a device. -/
inductive IdentityRefusal
  | unauthorized
  | unknownDevice
deriving DecidableEq, Repr

/-- Why a session cannot go on. -/
inductive SessionError
  | deviceSetup (failure : Failure)
  | featureSetup (feature : String) (failure : Failure)
  | workerStopped
  | stated (reason : String)
deriving DecidableEq, Repr

/-- Why a text file with certificates cannot be read. -/
inductive CertificateTextError
  | badOpening (line : Bytes)
  | unclosed (closing : Bytes)
  | badLetters (cause : Base64Error)
deriving DecidableEq, Repr

/-- Why settings are of no use. -/
inductive ConfigError
  | emptyName
  | emptyUsername
  | emptyApiKey
  | zeroFrequency
  | trustFileMissing
  | noCertificates
  | trustFileUnreadable (path reason : String)
  | trustFileMalformed (cause : CertificateTextError)
  | unreadable (what : String)
  | malformed (what : String)
  | identitiesMalformed (path : String) (place : TextPlace)
  | stated (reason : String)
deriving DecidableEq, Repr

/-- Why a secure connection cannot be set up. -/
inductive TlsError
  | invalidServerName (name : String)
  | unfitCertificate
  | stated (reason : String)
deriving DecidableEq, Repr

/-- Any cause of failure. -/
inductive DeviceError
  | framing (cause : FramingError)
  | authentication
  | capability (cause : CapabilityError)
  | argument (cause : ArgumentError)
  | network (cause : NetworkError)
  | identity (cause : IdentityRefusal)
  | action (name : String) (failure : Failure)
  | message (cause : MessageError)
  | registry (cause : RegistryError)
  | session (cause : SessionError)
  | config (cause : ConfigError)
  | tls (cause : TlsError)
  | json (reason : String)
  | io (reason : String)
deriving DecidableEq

/-! ### Wording -/

/-- The text of a framing error. -/
def FramingError.text : FramingError → String
  | shortFrame size => s!"frame shorter than 20 bytes ({size})"
  | topBitsSet => "two first bits in header are not zero"
  | wrongCookie => "magic cookie is not correct"
  | transactionIdSize size => s!"transaction ID must be 12 bytes, got {size}"
  | lengthMismatch declared body =>
    s!"message length field is {declared} but body is {body} bytes"
  | truncatedAttribute offset => s!"truncated attribute header at offset {offset}"
  | attributeOverrun kind declared left =>
    "attribute " ++ AttributeKind.title kind ++ " (" ++ Column.hexadecimal 4 kind.toNat
      ++ s!") declares {declared} bytes, only {left} left"
  | bodyTooLarge size => s!"message body of {size} bytes is too large"
  | attributeTooLarge kind => "attribute " ++ AttributeKind.title kind ++ " value too large"
  | truncatedIntegrity => "truncated MESSAGE-INTEGRITY"
  | stated reason => reason

/-- The text of an argument error. -/
def ArgumentError.text : ArgumentError → String
  | tooMany count => s!"{count} arguments exceed the limit of 255"
  | noValue name => s!"no value for argument '{name}'"
  | wrongValue name declared given =>
    s!"argument '{name}' is declared {declared.name} but the value is {given.name}"
  | lateString name position =>
    s!"string argument '{name}' at position {position} cannot be flagged in the mask"
  | longString name size => s!"argument '{name}' is {size} bytes, limit is 255"
  | longName name => s!"argument name '{name}' is longer than 255 bytes"
  | instantOutOfRange instant => s!"timestamp {instant.text} does not fit in 32-bit seconds"
  | stringInWord => "string value in a non-string record"
  | empty => "empty argument list"
  | headerTruncated => "argument header truncated"
  | recordTruncated position => s!"argument {position} truncated"
  | valueOverrun position declared size =>
    s!"string argument {position} declares {declared} value bytes in a {size} byte record"
  | valueNotText position => s!"argument {position} value is not UTF-8"
  | nameNotText position => s!"argument {position} name is not UTF-8"
  | undeclared name => s!"unknown argument '{name}'"
  | wrongRecord name declared sent =>
    s!"argument '{name}' is declared {declared.name} but was sent as {sent.name}"
  | repeated name => s!"argument '{name}' appears twice"
  | wrongCount expected received => s!"expected {expected} arguments, got {received}"
  | missing name => s!"missing argument '{name}'"
  | stated reason => reason

/-- The text of a message error. -/
def MessageError.text : MessageError → String
  | addressTooShort => "mapped address shorter than 4 bytes"
  | addressTruncated => "truncated IPv4 mapped address"
  | addressOfSixteenOctets => "IPv6 mapped addresses are not supported"
  | unknownFamily family => "unknown address family " ++ Column.hexadecimal 2 family.toNat
  | actionWithoutName => "action request without NAME"
  | payloadNeeded action => s!"action '{action}' needs a PAYLOAD"
  | argumentsNeeded action => s!"action '{action}' needs ARGUMENTS"
  | startRefused code reason => s!"start-session refused: {code} {reason}"
  | startRefusedWithoutCode => "start-session error response without ERROR-CODE"
  | stated reason => reason

/-- The text of a network error. -/
def NetworkError.text : NetworkError → String
  | outboundFull => "outbound queue full"
  | workerStopped => "transport worker has stopped"
  | silent seconds =>
    s!"no keepalive acknowledgement for {seconds}s, connection seems to be down"
  | startTimeout milliseconds => s!"no start-session response within {milliseconds} ms"
  | noSocketAddress relay => s!"Failed to resolve {relay}: invalid socket address"
  | badPort relay => s!"Failed to resolve {relay}: invalid port value"
  | datagramClosed => "UDP transport not initialized"
  | streamClosed => "TLS transport not connected"
  | streamBroken => "TLS write failed"
  | stated reason => reason

/-- The text of a registry error. -/
def RegistryError.text : RegistryError → String
  | invalidName kind name =>
    s!"'{name}' is not a valid {kind.word} name, use only letters, digits and underscores"
  | duplicate kind name => s!"duplicate {kind.word} '{name}'"
  | tooManyArguments action count => s!"action '{action}' declares {count} arguments, limit is 8"
  | tooManyStatus count => s!"{count} status components declared, limit is 8"
  | argumentNameSize argument owner =>
    s!"argument name '{argument}' of '{owner}' must be 1 to 255 bytes"
  | duplicateArgument argument owner => s!"duplicate argument '{argument}' in '{owner}'"
  | aliasWithoutEvent feature event => s!"feature '{feature}' has no event '{event}' to alias"
  | clash feature kind name =>
    s!"feature '{feature}' declares {kind.word} '{name}', which already exists"
  | statusOverflow feature count =>
    s!"feature '{feature}' brings the device to {count} status components, limit is 8"
  | stated reason => reason

/-- The text for a name that nothing is declared under. -/
def CapabilityError.text : CapabilityError → String
  | unknown kind name => s!"{kind.word} '{name}'"
  | stated reason => reason

/-- The text of a refused identity. -/
def IdentityRefusal.text : IdentityRefusal → String
  | unauthorized => "credentials rejected by relay"
  | unknownDevice => "device not recognized by relay"

/-- The text of a session error. -/
def SessionError.text : SessionError → String
  | deviceSetup failure => s!"device setup failed: {failure.full}"
  | featureSetup feature failure => s!"feature '{feature}' setup failed: {failure.full}"
  | workerStopped => "transport worker has stopped"
  | stated reason => reason

/-- The text of an error in a file with certificates. -/
def CertificateTextError.text : CertificateTextError → String
  | badOpening line => "illegal section start: " ++ Quoted.text (Utf8.repair line)
  | unclosed closing => "section end " ++ Quoted.text (Utf8.repair closing) ++ " missing"
  | badLetters cause => cause.text

/-- The text of a configuration error. -/
def ConfigError.text : ConfigError → String
  | emptyName => "device.name is empty"
  | emptyUsername => "device.username is empty"
  | emptyApiKey => "device.api_key is empty"
  | zeroFrequency => "session.loop_frequency_hz must be positive"
  | trustFileMissing => "relay.ca_file is required for the TLS transport"
  | noCertificates => "No CA certificates found"
  | trustFileUnreadable path reason =>
    "Failed to read CA file " ++ Quoted.path path ++ ": " ++ reason
  | trustFileMalformed cause => "Failed to parse CA PEM: " ++ cause.text
  | unreadable what => s!"Failed to read {what}"
  | malformed what => s!"Failed to parse {what}"
  | identitiesMalformed path place =>
    "Failed to parse identity file " ++ Quoted.path path ++ ": TOML parse error at line "
      ++ s!"{place.line}, column {place.column}"
  | stated reason => reason

/-- The text of a set-up error. -/
def TlsError.text : TlsError → String
  | invalidServerName name => s!"Invalid server name '{name}': invalid dns name"
  | unfitCertificate => "invalid peer certificate: BadEncoding"
  | stated reason => reason

namespace DeviceError

/-- The whole text of an error. -/
def text : DeviceError → String
  | framing cause => "Framing error: " ++ cause.text
  | authentication => "Message integrity check failed"
  | capability cause => "Unknown capability: " ++ cause.text
  | argument cause => "Argument mismatch: " ++ cause.text
  | network cause => "Network error: " ++ cause.text
  | identity cause => "Fatal identity error: " ++ cause.text
  | action name failure => s!"Action '{name}' failed: {failure.outer}"
  | message cause => "Invalid message: " ++ cause.text
  | registry cause => "Registry error: " ++ cause.text
  | session cause => "Session error: " ++ cause.text
  | config cause => "Config error: " ++ cause.text
  | tls cause => "TLS error: " ++ cause.text
  | json reason => "JSON error: " ++ reason
  | io reason => "IO error: " ++ reason

/-- Whether a session can go on after the error. -/
def isRecoverable : DeviceError → Bool
  | identity _ => false
  | _ => true

end DeviceError

/-- The error of a failed check. -/
def IntegrityError.toDeviceError : IntegrityError → DeviceError
  | truncated => .framing .truncatedIntegrity
  | mismatch => .authentication

/-- Reads a frame and checks it. A frame without an authentication attribute is accepted. -/
def Message.decodeVerified (frame key : Bytes) : Except DeviceError Message := do
  let m ← (Message.decode frame).mapError .framing
  let _ ← (Integrity.verify frame key).mapError IntegrityError.toDeviceError
  return m

end RelayDevice
