import RelayDevice.Session.Startup
import RelayDevice.Simulation.Connection

/-!
# Rehearsing the life of a device

A device with its features lives through a session on a medium, against a relay that follows a
script.

* `Rehearsal` — the connection and what was seen of it so far, with the supply of stamps and the
  answers of the relay;
* `Underway`, `Underway.bringOnline` — a device on its way, until it is online or has failed;
* `Online`, `Online.iterate`, `Online.stop` — a device that is online, one iteration of its main
  loop, and the end of its session.

The clock goes forward with every pass, and whoever waits for something that does not come waits in
vain at once; so a rehearsal takes no time.
-/

namespace RelayDevice

/-! ### Rehearsals -/

/-- What follows a request to open a session. -/
inductive OpeningAnswer
  | frames (list : List (Message → Bytes))
  | shutdown

/-- A connection, and what was seen of it. -/
structure Rehearsal (τ : Type) where
  connection : Connection τ
  /-- How many stamps are used up. -/
  used : Nat
  /-- How the relay answers further requests to open a session. When no answer is left, the session
  is opened. -/
  answers : List OpeningAnswer
  /-- The frames that went out, the oldest first. -/
  frames : List Bytes
  log : List LogLine

namespace Rehearsal

variable {τ : Type} (M : Medium τ)

/-- The octets with which the identifiers of a rehearsal begin. -/
def stampMark : Bytes := [0x5b, 0xd1, 0xe8, 0x99, 0xa4, 0x2f, 0xc3, 0x76]

/-- The stamps of a rehearsal, which are all different. -/
def stamps (n : Nat) : Stamp :=
  ⟨(TransactionId.ofBytes? (stampMark ++ Bytes.ofUInt32 (.ofNat n))).getD .zero, .ofNat n⟩

/-- A rehearsal that begins. -/
def start (connection : Connection τ) (answers : List OpeningAnswer) : Rehearsal τ :=
  ⟨connection, 0, answers, [], []⟩

/-- Adds lines to the log. -/
def note (r : Rehearsal τ) (log : List LogLine) : Rehearsal τ := { r with log := r.log ++ log }

/-- Lets the connection come to rest. -/
def settle (r : Rehearsal τ) : Rehearsal τ :=
  let (connection, log) := r.connection.settle M
  let (sent, link) := M.takeSent connection.link
  { r with connection := { connection with link }, frames := r.frames ++ sent }.note log

/-- Changes the worker. -/
def withWorker (r : Rehearsal τ) (change : Worker → Worker) : Rehearsal τ :=
  { r with connection := r.connection.withWorker change }

/-- Changes the transport. -/
def withLink (r : Rehearsal τ) (change : τ → τ) : Rehearsal τ :=
  { r with connection := r.connection.withLink change }

/-- Makes frames arrive and lets the connection come to rest. -/
def deliver (r : Rehearsal τ) (frames : List Bytes) : Rehearsal τ :=
  (r.withLink (M.deliver · frames)).settle M

/-- Whether the worker still works. -/
def isRunning (r : Rehearsal τ) : Bool := !r.connection.worker.cancelled

/-- The sending end of the worker's queue. -/
def outbox (r : Rehearsal τ) : Outbox := ⟨r.connection.worker.outbound, stamps, r.used⟩

/-- Puts the sending end of the queue back. -/
def withOutbox (r : Rehearsal τ) (o : Outbox) : Rehearsal τ :=
  { r.withWorker (fun w => { w with outbound := o.queue }) with used := o.used }

/-! ### The relay -/

/-- The signed answer that opens a session. -/
def acceptance (account : Account) (request : Message) : Bytes :=
  match account.sign ⟨.success, .binding, request.transactionId, []⟩ with
  | .ok frame => frame
  | .error _ => []

/-- A request to open a session. -/
def opening? (frame : Bytes) : Option Message :=
  match Message.decode frame with
  | .ok m =>
    if m.messageClass = .request ∧ m.method = Method.binding
        ∧ m.attribute? .beginSession = some [SessionMark.start.octet]
    then some m
    else none
  | .error _ => none

/-- The relay answers a request to open a session. -/
def answer (r : Rehearsal τ) (account : Account) (request : Message) : Rehearsal τ :=
  match r.answers with
  | [] => r.deliver M [acceptance account request]
  | .frames list :: rest =>
    { r with answers := rest }.deliver M (list.map fun (write : Message → Bytes) => write request)
  | .shutdown :: rest => ({ r with answers := rest }.withWorker (·.shutdown)).settle M

/-- The relay answers every request to open a session among the given frames. -/
def answerAll (r : Rehearsal τ) (account : Account) (frames : List Bytes) : Rehearsal τ :=
  (frames.filterMap opening?).foldl (fun r request => r.answer M account request) r

end Rehearsal

/-! ### On the way -/

/-- A device on its way, with its rehearsal and its account service. -/
structure Underway (τ γ σ φ : Type) where
  rehearsal : Rehearsal τ
  startup : Startup σ φ
  service : γ

namespace Underway

variable {τ γ σ φ : Type} (M : Medium τ) (S : AccountService γ)

/-- Does what a device on its way asks for. What it learns at once is the second part. -/
def serve (u : Underway τ γ σ φ) :
    StartupRequest → Underway τ γ σ φ × Option StartupEvent
  | .attach device key =>
    match u.rehearsal.connection.worker.attach device key with
    | .ok worker =>
      ({ u with rehearsal := (u.rehearsal.withWorker fun _ => worker).settle M },
        some (.attached (.ok ())))
    | .error e => (u, some (.attached (.error e)))
  | .publish device apiKey descriptor =>
    let (result, service) := S.publish u.service device apiKey descriptor
    ({ u with service }, some (.published result))
  | .send frame =>
    match u.rehearsal.connection.worker.queue frame with
    | .ok worker =>
      let before := u.rehearsal.frames.length
      let rehearsal := (u.rehearsal.withWorker fun _ => worker).settle M
      let account := u.startup.session.account
      ({ u with rehearsal := rehearsal.answerAll M account (rehearsal.frames.drop before) }, none)
    | .error _ => (u, some (.opening .workerGone))
  | .pause _ => (u, none)
  | .detach device =>
    ({ u with rehearsal := (u.rehearsal.withWorker (·.detach device)).settle M }, none)

/-- Does everything that a device on its way asks for, and tells the last thing that it learns. -/
def serveAll (u : Underway τ γ σ φ) (requests : List StartupRequest) :
    Underway τ γ σ φ × Option StartupEvent :=
  requests.foldl (fun (u, learnt) request =>
    let (u, event) := u.serve M S request
    (u, event.or learnt)) (u, none)

/-- What a device on its way meets next if it learnt nothing at once: it goes on with the next
attempt, or finds something in its inbox, or waits in vain. -/
def upcoming (u : Underway τ γ σ φ) : Option (StartupEvent × Underway τ γ σ φ) :=
  match u.startup.phase with
  | .opening start =>
    match start.phase with
    | .ready =>
      some (.opening (.sending (Rehearsal.stamps u.rehearsal.used)),
        { u with rehearsal := { u.rehearsal with used := u.rehearsal.used + 1 } })
    | .waiting _ =>
      let (arrival, worker) := u.rehearsal.connection.worker.read u.startup.session.uuid
      let event := match arrival with
        | .message m => StartEvent.received m
        | .nothing => .timedOut
        | .disconnected => .workerGone
      some (.opening event, { u with rehearsal := u.rehearsal.withWorker fun _ => worker })
    | .finished _ => none
  | _ => none

/-- Tells a device on its way one thing after the other, until it meets nothing more. -/
def advance : Nat → Underway τ γ σ φ → StartupEvent → Underway τ γ σ φ
  | 0, u, _ => u
  | fuel + 1, u, event =>
    let step := u.startup.step event
    let u := { u with startup := step.startup, rehearsal := u.rehearsal.note step.log }
    match u.serveAll M S step.requests with
    | (u, some event) => advance fuel u event
    | (u, none) =>
      match u.upcoming with
      | some (event, u) => advance fuel u event
      | none => u

/-- How many things a device can meet on its way: each answer of the relay is preceded by a request
and followed by a vain wait. -/
def longestWay (answers : List OpeningAnswer) : Nat :=
  answers.foldl (fun count answer =>
    match answer with
    | .frames list => count + list.length + 2
    | .shutdown => count + 2) 8

/-- Brings a device online, as far as it gets. -/
def bringOnline (r : Rehearsal τ) (d : DeviceSession σ φ) (service : γ) : Underway τ γ σ φ :=
  advance M S (longestWay r.answers) ⟨r, .ofSession d, service⟩ .launched

end Underway

/-! ### Online -/

/-- A device that is online, until its main loop is over. -/
structure Online (τ σ φ : Type) where
  rehearsal : Rehearsal τ
  mainLoop : MainLoop σ φ
  isOver : Bool

namespace Online

variable {τ σ φ : Type} (M : Medium τ)

/-- The main loop of a device that comes online. -/
def enter (r : Rehearsal τ) (d : DeviceSession σ φ) (backlog : List Message) : Online τ σ φ :=
  let (mainLoop, o, log) := Startup.enter d backlog r.connection.clock r.outbox
  ⟨(r.withOutbox o).note log, mainLoop, false⟩

/-- One iteration of the main loop, after which the connection comes to rest. When the main loop is
over there is none. -/
def iterate (a : Online τ σ φ) : Online τ σ φ :=
  if a.isOver then a
  else
    let r := a.rehearsal
    let now := r.connection.clock + 1
    let done := a.mainLoop.iterate (fun w => w.read a.mainLoop.context.device) now r.outbox
      r.connection.worker
    let r := (r.withWorker fun _ => done.inbox).withOutbox done.outbox
    ⟨(r.note done.log).settle M, done.mainLoop, done.isOver⟩

/-- Changes the rehearsal. -/
def withRehearsal (a : Online τ σ φ) (change : Rehearsal τ → Rehearsal τ) : Online τ σ φ :=
  { a with rehearsal := change a.rehearsal }

/-- Makes calls one after the other. -/
def performAll (c : DeviceContext) :
    List DeviceCall → Outbox → List (Except DeviceError Unit) × Outbox
  | [], o => ([], o)
  | call :: rest, o =>
    let (result, o) := c.perform call o
    let (results, o) := performAll c rest o
    (result :: results, o)

/-- The application makes calls, and the connection comes to rest. -/
def perform (a : Online τ σ φ) (calls : List DeviceCall) :
    List (Except DeviceError Unit) × Online τ σ φ :=
  let (results, o) := performAll a.mainLoop.context calls a.rehearsal.outbox
  (results, a.withRehearsal fun r => (r.withOutbox o).settle M)

/-- The device leaves the main loop, ends its session and is detached. -/
def stop (a : Online τ σ φ) : Rehearsal τ :=
  let device := a.mainLoop.context.device
  let r := a.rehearsal.withWorker (·.closeInbox device)
  let (o, log) := a.mainLoop.leave r.outbox
  (((r.withOutbox o).note log).withWorker (·.detach device)).settle M

end Online

end RelayDevice
