import RelayDevice.CommandLine.Answer
import RelayDevice.Simulation.Link
import RelayDevice.Simulation.Rehearsal

/-!
# Running the oven against a relay

The oven is run as the command line asks for it, with datagrams as its transport, until it is told
to stop.

* `OvenScript` — the settings, the identities that are on file, the words of the command line, and
  what the relay does;
* `OvenScript.play` — the run of the oven, from the command line to its end;
* `OvenTrace` — what is seen of it.

The clock goes forward so little that the oven ticks only once, before anything is asked of it.
-/

namespace RelayDevice

/-- How the oven is run and what the relay does. -/
structure OvenScript where
  /-- The settings that are on file. -/
  settings : Settings
  /-- The file with identities. -/
  identities : IdentityFile
  /-- The words behind the name of the command. -/
  words : List String
  /-- The refusals with which the relay answers the first requests to open a session. -/
  refusals : List UInt16
  /-- The frames that the relay sends, in groups. -/
  deliveries : List (List Bytes)

/-- How a run ends. -/
inductive OvenEnd
  | left (temperature : Int32)
  | failed (cause : CommandError)
  | text (output : String)
  | mistake

/-- What is seen of a run. -/
structure OvenTrace where
  /-- The requests to open a session. -/
  opening : List Bytes
  /-- The first keepalive. -/
  keepalive : Option Bytes
  /-- What the oven sends after each group of frames. -/
  answers : List (List Bytes)
  /-- The request to end the session. -/
  closing : Option Bytes
  result : OvenEnd
  /-- The file with identities afterwards. -/
  identities : IdentityFile

namespace OvenScript

/-- The path of the file with identities. -/
def identityPath : String := "ids.toml"

/-- The settings of a rehearsal. -/
def settingsFor (name username apiKey : String) (uuid : Option Uuid) : Settings :=
  let usual := Settings.blank (some identityPath)
  { device := ⟨name, username, apiKey, uuid, some identityPath⟩
    relay := { usual.relay with host := "127.0.0.1", transport := .udp }
    session := { usual.session with
      loopFrequency := 200, startRetryInitial := 5, keepaliveInterval := 3600 }
    transport := { usual.transport with receiveTimeout := 3 } }

/-- The identity that a new device is given. -/
def freshIdentity : Uuid :=
  (Uuid.ofText? "7d3f4a52-91c6-4e0b-8a2d-5c1e9f60b347").getD default

/-- The account service of a rehearsal. -/
def service : AccountService Unit := .offline fun _ => (freshIdentity, ())

/-- A run that ends before anything was sent. -/
def quiet (s : OvenScript) (identities : IdentityFile) (result : OvenEnd) : OvenTrace :=
  ⟨[], none, s.deliveries.map fun _ => [], none, result, identities⟩

/-- The frame that an account builds, or no octets. -/
def built {ε : Type} : Except ε Bytes → Bytes
  | .ok frame => frame
  | .error _ => []

/-- How the relay answers requests to open a session: with refusals at first, and then with the
address that it sees. -/
def answers (s : OvenScript) (account : Account) : List OpeningAnswer :=
  let peer := PeerAddress.ipv4 ⟨Bytes.toUInt32 127 0 0 1, 40000⟩
  s.refusals.map (fun code =>
      .frames [fun request => built (account.errorResponse 0 request code "Refused")])
    ++ [.frames [fun request =>
      built (account.addressResponse 0 request peer request.deviceId?)]]

/-- The oven handles frames one after the other. -/
def handle (frames : List Bytes) (a : Online DatagramLink Oven Empty) :
    Online DatagramLink Oven Empty :=
  frames.foldl (fun a frame =>
    (a.withRehearsal (·.deliver DatagramLink.medium [frame])).iterate DatagramLink.medium) a

/-- Takes away the frames that went out. -/
def taken (a : Online DatagramLink Oven Empty) : List Bytes × Online DatagramLink Oven Empty :=
  (a.rehearsal.frames, a.withRehearsal fun r => { r with frames := [] })

/-- The oven handles groups of frames; its answers are kept apart. -/
def handleAll : List (List Bytes) → Online DatagramLink Oven Empty →
    List (List Bytes) × Online DatagramLink Oven Empty
  | [], a => ([], a)
  | frames :: rest, a =>
    let (sent, a) := taken (handle frames a)
    let (more, a) := handleAll rest a
    (sent :: more, a)

/-- The oven is online: it handles everything and is told to stop. -/
def playOnline (s : OvenScript) (u : Underway DatagramLink Unit Oven Empty)
    (backlog : List Message) (identities : IdentityFile) : OvenTrace :=
  let opening := u.rehearsal.frames
  let entered := Online.enter { u.rehearsal with frames := [] } u.startup.session backlog
  let (first, a) := taken (entered.iterate DatagramLink.medium)
  let (answers, a) := handleAll s.deliveries a
  let stopped := a.stop DatagramLink.medium
  ⟨opening, first.head?, answers, stopped.frames.head?,
    .left a.mainLoop.dispatcher.state.temperature, identities⟩

/-- The oven comes online, as far as it gets. -/
def playSession (s : OvenScript) (settings : Settings) (link : DatagramLink)
    (d : DeviceSession Oven Empty) (identities : IdentityFile) : OvenTrace :=
  let sizes : QueueSizes :=
    ⟨settings.session.inboundQueue.toNat, settings.transport.outboundQueue.toNat⟩
  let connection := Connection.start settings.session.silenceLimit sizes link
  let u := Underway.bringOnline DatagramLink.medium service
    (.start connection (s.answers d.account)) d ()
  match u.startup.phase with
  | .online backlog => s.playOnline u backlog identities
  | .failed cause =>
    { s.quiet identities (.failed (.device cause)) with opening := u.rehearsal.frames }
  | _ => s.quiet identities .mistake

/-- The oven is run with settings and a transport. -/
def playRun (s : OvenScript) (settings : Settings) (link : DatagramLink) : OvenTrace :=
  let failed (cause : DeviceError) (identities : IdentityFile) : OvenTrace :=
    s.quiet identities (.failed (.device cause))
  let bound := link.bind
  match bound.result, Oven.declarations.build with
  | .error cause, _ => failed cause s.identities
  | .ok (), .error cause => failed (.registry cause) s.identities
  | .ok (), .ok registry =>
    match DeviceSession.create settings Oven.device registry .start
        (IdentityFile.store identityPath) service s.identities () with
    | (.error cause, identities, _) => failed cause identities
    | (.ok d, identities, _) => s.playSession settings bound.transport d identities

/-- The oven is run as the command line asks for it. -/
def play (s : OvenScript) : OvenTrace :=
  match Invocation.ofWords ("run" :: s.words) with
  | .mistake => s.quiet s.identities .mistake
  | .text output => s.quiet s.identities (.text output)
  | .command (.run options) =>
    match options.override s.settings with
    | .error cause => s.quiet s.identities (.failed cause)
    | .ok settings =>
      match settings.connector (fun path => .file path (.error "")) (fun _ => false) with
      | .error cause => s.quiet s.identities (.failed (.device cause))
      | .ok (.datagram link) => s.playRun settings link
      | .ok (.stream _ _ _ _) => s.quiet s.identities .mistake
  | .command _ => s.quiet s.identities .mistake

end OvenScript

end RelayDevice
