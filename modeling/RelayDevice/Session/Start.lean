import RelayDevice.Account
import RelayDevice.Link.Backoff
import RelayDevice.Log

/-!
# Opening a session

A device asks the relay to open a session until the relay agrees. Each attempt sends one request
and waits for its answer; messages that are no answer to it are put aside for later. An attempt that
fails is followed by another after a pause, and the pauses grow. Only a rejected identity and a
connection without a worker are final.

* `SessionStart` — the attempts of a device;
* `StartEvent` — what an attempt meets;
* `SessionStart.step` — one event; `SessionStart.run` — several;
* `SessionStart.answersTo` — which messages answer an attempt.
-/

namespace RelayDevice

/-- Where the attempts stand. -/
inductive StartPhase
  | ready
  | waiting (transactionId : TransactionId)
  | finished (result : Except DeviceError Unit)

/-- The attempts of a device to open a session. -/
structure SessionStart where
  /-- The account that signs. -/
  account : Account
  /-- The device. -/
  device : Uuid
  /-- The name that is told to the relay, if it does not know the device yet. -/
  announced : Option String
  /-- The milliseconds for which an attempt waits. -/
  patience : Nat
  /-- The pauses to come. -/
  backoff : Backoff
  /-- The messages that were put aside, the oldest first. -/
  backlog : List Message
  /-- Where the attempts stand. -/
  phase : StartPhase

/-- What an attempt meets. -/
inductive StartEvent
  | sending (stamp : Stamp)
  | received (m : Message)
  | timedOut
  | workerGone

/-- What a step of the attempts leads to. -/
structure StartStep where
  /-- The attempts afterwards. -/
  start : SessionStart
  /-- The request to be sent. -/
  frame : Option Bytes
  /-- The pause before the next attempt. -/
  pause : Option Nanoseconds
  /-- What was reported. -/
  log : List LogLine

namespace SessionStart

/-- The first attempt of a device. -/
def first (account : Account) (device : Uuid) (announced : Option String) (patience : Nat)
    (firstPause : Nanoseconds) : SessionStart :=
  { account, device, announced, patience
    backoff := .start firstPause none
    backlog := []
    phase := .ready }

/-- Whether a message answers the request of an identifier. -/
def answersTo (m : Message) (tid : TransactionId) : Bool :=
  decide (m.transactionId = tid) && decide (m.method = Method.binding)
    && m.messageClass.isResponse

/-- Why the relay refused to open a session. -/
def refusal (m : Message) : DeviceError :=
  match m.errorCode? with
  | none => .message .startRefusedWithoutCode
  | some (code, reason) =>
    if code = Refusal.unauthorized then .identity .unauthorized
    else if code = Refusal.unknownDevice then .identity .unknownDevice
    else .message (.startRefused code reason)

/-- What an answer says. -/
def verdict (m : Message) : Except DeviceError Unit :=
  match m.messageClass with
  | .success => .ok ()
  | _ => .error (refusal m)

/-- Whether the attempts end with an error. -/
def isFinal : DeviceError → Bool
  | .session _ => true
  | e => !e.isRecoverable

/-- The attempts are over. -/
def finish (s : SessionStart) (result : Except DeviceError Unit) : StartStep :=
  ⟨{ s with phase := .finished result }, none, none, []⟩

/-- An attempt has failed. -/
def fail (s : SessionStart) (e : DeviceError) : StartStep :=
  if isFinal e then s.finish (.error e)
  else
    let (pause, backoff) := s.backoff.next
    ⟨{ s with backoff, phase := .ready }, none, some pause,
      [.warn s!"Unable to start session ({e.text}). Retrying in {pause.millis} ms"]⟩

/-- One event. Events that an attempt cannot meet at the time change nothing. -/
def step (s : SessionStart) (e : StartEvent) : StartStep :=
  match s.phase, e with
  | .ready, .sending stamp =>
    match s.account.startSession stamp s.device s.announced with
    | .ok (tid, frame) => ⟨{ s with phase := .waiting tid }, some frame, none, []⟩
    | .error e => s.fail (.framing e)
  | .waiting tid, .received m =>
    if answersTo m tid then
      match verdict m with
      | .ok () => s.finish (.ok ())
      | .error e => s.fail e
    else ⟨{ s with backlog := s.backlog ++ [m] }, none, none, []⟩
  | .waiting _, .timedOut => s.fail (.network (.startTimeout s.patience))
  | .waiting _, .workerGone => s.finish (.error (.session .workerStopped))
  | _, _ => ⟨s, none, none, []⟩

/-- Several events. -/
def run (s : SessionStart) (events : List StartEvent) : SessionStart :=
  events.foldl (fun s e => (s.step e).start) s

end SessionStart

end RelayDevice
