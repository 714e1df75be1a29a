import RelayDevice.CommandLine.Answer
import RelayDevice.Session.Life
import Std.Async.DNS
import Std.Async.Signal
import Std.Async.Timer
import Std.Async.UDP
import Std.Time

/-!
# The program

Carries out what a command line asks for. Everything that is decided is decided elsewhere: here
files are read and written, datagrams are sent and received, and time passes.
-/

namespace RelayDevice.Program

open Std.Async

/-! ### Surroundings -/

/-- The variables that are looked up. -/
def variableNames : List String :=
  ["HOME", "XDG_CONFIG_HOME", "LYNCNAT_DEVICE_NAME", "LYNCNAT_USERNAME", "LYNCNAT_API_KEY",
    "LYNCNAT_DEVICE_UUID", "LYNCNAT_RELAY_HOST", "LYNCNAT_TRANSPORT", "LYNCNAT_UDP_PORT",
    "LYNCNAT_TLS_PORT", "LYNCNAT_CA_FILE"]

/-- The environment variables that are set. -/
def environment : IO Environment :=
  variableNames.filterMapM fun name => return (← IO.getEnv name).map (name, ·)

/-- The text of a file, or the reason why there is none. -/
def readFile (path : String) : IO (Except String String) := do
  try return .ok (← IO.FS.readFile path)
  catch
    | .noFileOrDirectory .. => return .error "No such file or directory (os error 2)"
    | e => return .error (toString e)

/-- The surroundings in which only certain files can be seen. -/
def surroundings (paths : List String) : IO Surroundings := do
  let texts ← paths.mapM fun path => return (path, ← readFile path)
  return ⟨← environment, fun path => (List.lookup path texts).getD (.error "not at hand")⟩

/-- The file with identities at a path. -/
def identities (path : String) : IO IdentityFile := do
  try return .holding (← IO.FS.readFile path)
  catch
    | .noFileOrDirectory .. => return .absent
    | _ => return .unusable

/-- Writes the file with identities, if there is one. -/
def keep (path : String) (file : IdentityFile) : IO Unit := do
  match file.content? with
  | none => return ()
  | some text =>
    let directory := String.intercalate "/" (path.splitOn "/").dropLast
    if !directory.isEmpty then IO.FS.createDirAll directory
    IO.FS.writeFile path text

/-! ### Chance and time -/

/-- Octets that cannot be foreseen. -/
def chance (count : Nat) : IO Bytes := do
  return (← IO.getRandomBytes (.ofNat count)).toList

/-- A random identity, with the marks of one. -/
def freshIdentity : IO Uuid := do
  let octets ← chance 16
  let marked := octets.mapIdx fun i (b : UInt8) =>
    if i = 6 then b &&& 0x0f ||| 0x40 else if i = 8 then b &&& 0x3f ||| 0x80 else b
  return (Uuid.ofBytes? marked).getD default

/-- This moment. -/
def moment : IO Moment := do
  let mark ← chance 8
  let time := (← Std.Time.Timestamp.now).toSecondsSinceUnixEpoch.toInt.toNat
  return {
    now := ← IO.monoNanosNow
    stamps := fun n =>
      ⟨(TransactionId.ofBytes? (mark ++ Bytes.ofUInt32 (.ofNat n))).getD .zero, .ofNat time⟩ }

/-! ### Failures and the log -/

/-- Tells why the program fails, and its exit code. -/
def fail (e : CommandError) : IO UInt32 := do
  IO.eprintln ("Error: " ++ e.text)
  return .ofNat e.exitCode

/-- A line of the log, perhaps as an object. -/
def logText (asJson : Bool) (l : LogLine) : String :=
  if asJson then
    JsonValue.text (.object [("level", .string l.level.word), ("message", .string l.message)])
  else l.text

/-! ### Running a device -/

/-- A local socket and the address of the relay. -/
structure LocalSocket where
  socket : UDP.Socket
  relay : Std.Net.SocketAddress

/-- The address of a relay. -/
def resolve (settings : Settings) : IO Std.Net.SocketAddress := do
  let host := settings.relay.host
  let found ← (DNS.getAddrInfo host "" none).block
  match (found.toList.head? : Option Std.Net.IPAddr) with
  | some (.v4 addr) => return .v4 ⟨addr, settings.relay.port⟩
  | some (.v6 addr) => return .v6 ⟨addr, settings.relay.port⟩
  | none => throw (.userError ("no address of " ++ host))

/-- Binds a local socket. -/
def openSocket (relay : Std.Net.SocketAddress) : IO LocalSocket := do
  let socket ← UDP.Socket.mk
  match relay with
  | .v4 _ => socket.bind (.v4 ⟨.ofParts 0 0 0 0, 0⟩)
  | .v6 _ => socket.bind (.v6 ⟨.ofParts 0 0 0 0 0 0 0 0, 0⟩)
  return ⟨socket, relay⟩

/-- Waits a bounded time for a datagram. -/
def await (e : LocalSocket) (settings : Settings) : IO (Option Datagram) := do
  let span := Std.Time.Millisecond.Offset.ofNat settings.transport.receiveTimeout.toNat
  let race : Async (Option Datagram) := do
    Selectable.one #[
      .case (e.socket.recvSelector settings.transport.bufferSize) fun (octets, from?) =>
        return some ⟨if from? = some e.relay then .relay else .stranger, octets.toList⟩,
      .case (← Selector.sleep span) fun _ => return none]
  race.block

/-- Lets the life of a device go on until it is over. A new local socket takes the place of one that
the transport gave up. -/
partial def live (e : LocalSocket) (settings : Settings) (asJson : Bool) (interrupted : IO Bool)
    (l : Life DatagramLink Oven Empty) : IO (Except DeviceError Oven) := do
  if let .over result := l.stage then return result
  let l ← match ← await e settings with
    | some d => pure { l with link := l.link.arrive d }
    | none => pure l
  let now ← moment
  let (l, before) := if ← interrupted then l.leave now else (l, [])
  let bound := l.link.bindings
  let (l, log) := l.turn DatagramLink.transport (fun _ _ _ => .ok ()) (← moment)
  for line in before ++ log do
    IO.println (logText asJson line)
  (← IO.getStdout).flush
  let e ← if l.link.bindings = bound then pure e else openSocket e.relay
  let (frames, link) := l.link.takeSent
  for frame in frames do
    (e.socket.send ⟨frame.toArray⟩ (some e.relay)).block
  live e settings asJson interrupted { l with link }

/-- Runs the oven until it is interrupted. -/
def runOven (options : RunOptions) (settings : Settings) (link : DatagramLink) : IO UInt32 := do
  match link.bind.result, Oven.declarations.build with
  | .error cause, _ => fail (.device cause)
  | .ok (), .error cause => fail (.device (.registry cause))
  | .ok (), .ok registry =>
    let fresh ← freshIdentity
    let path := settings.device.identityFile.getD ""
    let (created, file, _) := DeviceSession.create settings Oven.device registry .start
      (IdentityFile.store path) (.offline fun (_ : Unit) => (fresh, ())) (← identities path) ()
    match created with
    | .error cause => fail (.device cause)
    | .ok device =>
      keep path file
      let e ← openSocket (← resolve settings)
      let interrupt ← (← Signal.Waiter.mk .sigint false).wait
      let result ← live e settings options.logsJson (IO.hasFinished interrupt)
        (.start link.bind.transport settings device)
      match result with
      | .error cause => fail (.device cause)
      | .ok oven =>
        IO.println (s!"Oven left at {oven.temperature.toInt} degrees")
        return 0

/-- Runs a device. -/
def runDevice (options : RunOptions) : IO UInt32 := do
  let first ← surroundings options.settingsFile.toList
  match options.settings first with
  | .error e => fail e
  | .ok settings =>
    let all ← surroundings (options.settingsFile.toList ++ settings.relay.trustFile.toList)
    match options.prepare all (fun _ => true) with
    | .error e => fail e
    | .ok (settings, .datagram link) => runOven options settings link
    | .ok (_, .stream ..) => fail (.device (.tls (.stated "no secure stream is available")))

/-! ### Commands -/

/-- Carries out a command. -/
def perform : Command → IO UInt32
  | .run options => runDevice options
  | command => do
    match command.answer ((← moment).stamps 0) (← surroundings []) (fun _ => true) with
    | .error e => fail e
    | .ok answer =>
      IO.print answer.output
      IO.eprint answer.remark
      return 0

end RelayDevice.Program

open RelayDevice in
/-- Carries out what a command line asks for. A command line that cannot be understood is answered
with the help text. -/
def main (words : List String) : IO UInt32 := do
  match Invocation.ofWords words with
  | .command command => Program.perform command
  | .text output =>
    IO.print output
    return 0
  | .mistake =>
    IO.eprint programHelp
    return 2
