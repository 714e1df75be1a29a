import RelayDevice.Account
import RelayDevice.CommandLine.Command
import RelayDevice.CommandLine.Surroundings
import RelayDevice.Demo.Oven
import RelayDevice.Settings.Connector
import RelayDevice.Settings.File
import RelayDevice.Text.Hexadecimal
import RelayDevice.Wire.Report

/-!
# What commands lead to

* `decodeAnswer`, `keepaliveAnswer`, `argumentsAnswer` — what these commands print, or why they
  fail;
* `RunOptions.settings` — the settings with which a device is run;
* `RunOptions.prepare` — the same with the transport that they choose;
* `Command.answer` — what any command prints, or why it fails.
-/

namespace RelayDevice

/-! ### Answers -/

/-- What a command prints. -/
structure CommandAnswer where
  /-- To standard output. -/
  output : String
  /-- To standard error. -/
  remark : String
deriving DecidableEq, Repr

/-- Why a command fails. -/
inductive CommandError
  | hexadecimal (cause : HexError)
  | device (cause : DeviceError)
  | settingsFile (path : String)
  | transport (word : String)

namespace CommandError

/-- The text of a failure. -/
def text : CommandError → String
  | hexadecimal cause => cause.text
  | device cause => cause.text
  | settingsFile path => "loading " ++ path
  | transport word => TransportKind.unknownText word

/-- The exit code of a failure. Text that cannot be cut into pairs of digits ends the program
abnormally. -/
def exitCode : CommandError → Nat
  | hexadecimal (.splitCharacter _) => 101
  | _ => 1

end CommandError

/-! ### Decoding -/

/-- What is said of the authentication of a frame. -/
def integrityLine (frame key : Bytes) : String :=
  "integrity: " ++ (match Integrity.verify frame key with
    | .ok .verified => "verified"
    | .ok .absent => "absent"
    | .error e => e.toDeviceError.text) ++ "\n"

/-- What is said of the address that a message tells. -/
def addressLine (m : Message) : String :=
  match m.mappedAddress with
  | .ok (some address) => "mapped address: " ++ address.text ++ "\n"
  | _ => ""

/-- A frame in words, with the state of its authentication if a key is given. -/
def decodeAnswer (hex : String) (key : Option String) : Except CommandError CommandAnswer := do
  let frame ← (Hexadecimal.read hex).mapError .hexadecimal
  let m ← (Message.decode frame).mapError fun e => .device (.framing e)
  let checked := match key with
    | some key => integrityLine frame (Utf8.encode key)
    | none => ""
  return ⟨m.report ++ checked ++ addressLine m, ""⟩

/-! ### Building a keepalive -/

/-- A keepalive in hexadecimal. -/
def keepaliveAnswer (stamp : Stamp) (username : String) (device : Uuid) (apiKey : String) :
    Except CommandError CommandAnswer := do
  let frame ← ((⟨username, apiKey⟩ : Account).frame stamp device .keepalive).mapError
    fun e => .device (.framing e)
  return ⟨Bytes.hex frame ++ "\n", ""⟩

/-! ### Encoding arguments -/

/-- A number in binary behind its marker, with at least `width` digits. -/
def binary (width n : Nat) : String :=
  let digits := Nat.toDigits 2 n
  "0b" ++ String.ofList (List.replicate (width - digits.length) '0' ++ digits)

/-- The parts of an encoded argument list in words. -/
def layoutRemark (defs : List ArgumentDef) (octets : Bytes) (values : List ArgumentValue) :
    String :=
  let lengths := ((octets.drop 1).take defs.length).map fun (b : UInt8) => toString b.toNat
  let mask := (octets.getD (defs.length + 1) 0).toNat
  let rows := (defs.zip values).map fun (d, v) =>
    "  " ++ Column.left 13 (d.name ++ ":") ++ " " ++ d.kind.name ++ " = " ++ v.text ++ "\n"
  "\nLayout:\n" ++ s!"  Arguments:    {(octets.headD 0).toNat}\n"
    ++ "  Lengths:      [" ++ String.intercalate ", " lengths ++ "]\n"
    ++ "  String mask:  " ++ binary 8 mask ++ "\n" ++ String.join rows

/-- The arguments of a request to bake in hexadecimal, and their layout. -/
def argumentsAnswer (temperature time : Int32) : Except CommandError CommandAnswer := do
  let defs := Oven.bakeArguments
  let octets ← (ArgumentList.encode defs
    [("temperature", .integer temperature), ("time", .integer time)]).mapError
      fun e => .device (.argument e)
  let values ← (ArgumentList.decodeOrdered octets defs).mapError fun e => .device (.argument e)
  return ⟨Bytes.hex octets ++ "\n", layoutRemark defs octets values⟩

/-! ### Running a device -/

namespace RunOptions

/-- The settings that a settings file or the environment gives. -/
def given (o : RunOptions) (s : Surroundings) : Except CommandError Settings :=
  match o.settingsFile with
  | none => .ok (.ofEnvironment s.environment)
  | some path =>
    (Settings.load s.environment.identityFile (s.fileText path).toOption).mapError
      fun _ => .settingsFile path

/-- Overrides the kind of transport, and checks whether a device can start with the settings. -/
def override (o : RunOptions) (s : Settings) : Except CommandError Settings := do
  let kind ← match o.transport with
    | none => .ok s.relay.transport
    | some word =>
      match TransportKind.ofText? word with
      | some kind => .ok kind
      | none => .error (.transport word)
  let s := { s with relay := { s.relay with transport := kind } }
  (s.validate).mapError fun e => .device (.config e)
  return s

/-- The settings with which a device is run. -/
def settings (o : RunOptions) (s : Surroundings) : Except CommandError Settings := do
  o.override (← o.given s)

/-- The settings with which a device is run, and the transport that they choose. -/
def prepare (o : RunOptions) (s : Surroundings) (fit : Bytes → Bool) :
    Except CommandError (Settings × Connector) := do
  let settings ← o.settings s
  let connector ← (settings.connector s.trust fit).mapError .device
  return (settings, connector)

end RunOptions

/-! ### Commands -/

/-- What a command prints, or why it fails. A device that is run prints nothing by itself; the
answer tells only whether it can be. -/
def Command.answer (stamp : Stamp) (s : Surroundings) (fit : Bytes → Bool) :
    Command → Except CommandError CommandAnswer
  | .decode hex key => decodeAnswer hex key
  | .keepalive username device apiKey => keepaliveAnswer stamp username device apiKey
  | .arguments temperature time => argumentsAnswer temperature time
  | .run options => (options.prepare s fit).map fun _ => ⟨"", ""⟩

end RelayDevice
