import RelayDevice.Proofs.Link.Schedule
import RelayDevice.Proofs.Session.ArrivalOrder
import RelayDevice.Proofs.Wire.Signing

/-!
# Attempts to open a session

A device tries to open its session until it is told how that ended. While an attempt waits, an event
is one of three things to it: an end of all attempts (`StartEvent.Ends`), a failure of this one
(`StartEvent.Fails`), or a message that is about something else (`Message.IsElse`). Which of them a
message is depends on its identifier, method and class, and on the number of a refusal. A step asks
for these one after the other; here they are put side by side, and `StartEvent.cases_of_met` says
that nothing falls between them.

`SessionStart.moves` joins this with the other phases and says all that a step can do. From there on
no step is taken apart again: `StartRecord.Keeps.act` is the invariant's step, and `moves` read in the
other direction tells how the attempts ended (`StartRecord.exists_end`). The invariant ties the attempt
that waits to the request that was sent last, so that an answer to an earlier one, which bears another
identifier, is about something else.

The pauses are those of the schedule, and begin with a delay that is a number of milliseconds in 64
bits, which is no more than can be expressed (`SessionSettings.retryDelay_le_longest`).
-/

namespace RelayDevice

variable {σ φ : Type}

/-! ### What events are to an attempt -/

/-- A response of some class to the request of an identifier to open a session. -/
structure Message.IsStartResponse (m : Message) (tid : TransactionId) (c : MessageClass) : Prop where
  transactionId : m.transactionId = tid
  method : m.method = Method.binding
  messageClass : m.messageClass = c

/-- A message that is no response to the request of an identifier. -/
def Message.IsElse (m : Message) (tid : TransactionId) : Prop :=
  ¬ m.IsStartResponse tid .success ∧ ¬ m.IsStartResponse tid .error

theorem Message.isElse_of_ne {m : Message} {tid : TransactionId} (other : m.transactionId ≠ tid) :
    m.IsElse tid :=
  ⟨fun answer => other answer.transactionId, fun answer => other answer.transactionId⟩

/-- **The ends of all attempts**, for good or ill. -/
inductive StartEvent.Ends (tid : TransactionId) : StartEvent → Except DeviceError Unit → Prop
  | accepted {m : Message} : m.IsStartResponse tid .success → Ends tid (.received m) (.ok ())
  | unauthorized {m : Message} {reason : String} : m.IsStartResponse tid .error →
    m.errorCode? = some (401, reason) →
    Ends tid (.received m) (.error (.identity .unauthorized))
  | unknownDevice {m : Message} {reason : String} : m.IsStartResponse tid .error →
    m.errorCode? = some (404, reason) →
    Ends tid (.received m) (.error (.identity .unknownDevice))
  | deserted : Ends tid .workerGone (.error (.session .workerStopped))

/-- **The failures of one attempt.** -/
inductive StartEvent.Fails (tid : TransactionId) : StartEvent → Prop
  | inVain : Fails tid .timedOut
  | refused {m : Message} {code : Nat} {reason : String} : m.IsStartResponse tid .error →
    m.errorCode? = some (code, reason) → code ≠ 401 → code ≠ 404 → Fails tid (.received m)
  | unexplained {m : Message} : m.IsStartResponse tid .error → m.errorCode? = none →
    Fails tid (.received m)

/-- An attempt that waits is sent already. Anything else that it may meet is one of the three. -/
theorem StartEvent.cases_of_met (tid : TransactionId) {e : StartEvent}
    (met : ∀ stamp, e ≠ .sending stamp) :
    (∃ result, e.Ends tid result) ∨ e.Fails tid ∨ ∃ m, e = .received m ∧ m.IsElse tid := by
  cases e with
  | sending stamp => exact absurd rfl (met stamp)
  | timedOut => exact .inr (.inl .inVain)
  | workerGone => exact .inl ⟨_, .deserted⟩
  | received m =>
    by_cases accepted : m.IsStartResponse tid .success
    · exact .inl ⟨_, .accepted accepted⟩
    by_cases refused : m.IsStartResponse tid .error
    · cases said : m.errorCode? with
      | none => exact .inr (.inl (.unexplained refused said))
      | some number =>
        obtain ⟨code, reason⟩ := number
        by_cases unauthorized : code = 401
        · subst unauthorized
          exact .inl ⟨_, .unauthorized refused said⟩
        by_cases unknown : code = 404
        · subst unknown
          exact .inl ⟨_, .unknownDevice refused said⟩
        · exact .inr (.inl (.refused refused said unauthorized unknown))
    · exact .inr (.inr ⟨m, rfl, accepted, refused⟩)

/-! ### Steps -/

namespace SessionStart

variable {s : SessionStart} {tid : TransactionId} {m : Message}

theorem answersTo_eq_true_iff :
    answersTo m tid = true ↔ m.IsStartResponse tid .success ∨ m.IsStartResponse tid .error := by
  rw [answersTo, Bool.and_eq_true, Bool.and_eq_true, decide_eq_true_iff, decide_eq_true_iff]
  constructor
  · rintro ⟨⟨transactionId, method⟩, response⟩
    cases class_eq : m.messageClass with
    | success => exact .inl ⟨transactionId, method, class_eq⟩
    | error => exact .inr ⟨transactionId, method, class_eq⟩
    | request => rw [class_eq] at response; cases response
    | indication => rw [class_eq] at response; cases response
  · rintro (answer | answer)
    · exact ⟨⟨answer.transactionId, answer.method⟩, by rw [answer.messageClass]; rfl⟩
    · exact ⟨⟨answer.transactionId, answer.method⟩, by rw [answer.messageClass]; rfl⟩

theorem answersTo_eq_false_iff : answersTo m tid = false ↔ m.IsElse tid := by
  rw [← Bool.not_eq_true, answersTo_eq_true_iff, not_or]
  rfl

/-- An attempt has failed, and another one is made after a pause. -/
def retry (s : SessionStart) (cause : DeviceError) : StartStep :=
  ⟨{ s with backoff := s.backoff.next.2, phase := .ready }, none, some s.backoff.next.1,
    [.warn s!"Unable to start session ({cause.text}). Retrying in {s.backoff.next.1.millis} ms"]⟩

theorem fail_eq_retry {cause : DeviceError} (passing : isFinal cause = false) :
    s.fail cause = s.retry cause := by
  rw [fail, passing, if_neg Bool.false_ne_true]
  rfl

/-- A refusal, before it is known what it says. -/
theorem step_of_refused (waiting : s.phase = .waiting tid) (refused : m.IsStartResponse tid .error) :
    s.step (.received m) = s.fail (refusal m) := by
  have answer : answersTo m tid = true := answersTo_eq_true_iff.2 (.inr refused)
  unfold step
  rw [waiting]
  dsimp only
  rw [if_pos answer, verdict, refused.messageClass]

theorem step_of_ends (waiting : s.phase = .waiting tid) {e : StartEvent}
    {result : Except DeviceError Unit} (ends : e.Ends tid result) : s.step e = s.finish result := by
  cases ends with
  | accepted success =>
    have answer := answersTo_eq_true_iff.2 (.inl success)
    unfold step
    rw [waiting]
    dsimp only
    rw [if_pos answer, verdict, success.messageClass]
  | unauthorized refused said =>
    rw [step_of_refused waiting refused, refusal, said]
    rfl
  | unknownDevice refused said =>
    rw [step_of_refused waiting refused, refusal, said]
    rfl
  | deserted =>
    unfold step
    rw [waiting]

theorem step_of_fails (waiting : s.phase = .waiting tid) {e : StartEvent} (fails : e.Fails tid) :
    ∃ cause, s.step e = s.retry cause := by
  cases fails with
  | inVain =>
    refine ⟨.network (.startTimeout s.patience), ?_⟩
    unfold step
    rw [waiting]
    exact fail_eq_retry rfl
  | @refused m code reason refused said known unknown =>
    have authorized : code ≠ Refusal.unauthorized := known
    have familiar : code ≠ Refusal.unknownDevice := unknown
    refine ⟨.message (.startRefused code reason), ?_⟩
    rw [step_of_refused waiting refused, refusal, said]
    dsimp only
    rw [if_neg authorized, if_neg familiar]
    exact fail_eq_retry rfl
  | unexplained refused said =>
    refine ⟨.message .startRefusedWithoutCode, ?_⟩
    rw [step_of_refused waiting refused, refusal, said]
    exact fail_eq_retry rfl

theorem step_of_isElse (waiting : s.phase = .waiting tid) (other : m.IsElse tid) :
    s.step (.received m) = ⟨{ s with backlog := s.backlog ++ [m] }, none, none, []⟩ := by
  unfold step
  rw [waiting]
  dsimp only
  rw [if_neg (ne_true_of_eq_false (answersTo_eq_false_iff.2 other))]

/-- **All that a step can do.** -/
inductive Moves (s : SessionStart) : StartEvent → StartStep → Prop
  | sent {stamp : Stamp} {frame : Bytes} : s.phase = .ready →
    s.account.frame stamp s.device (.startSession s.announced) = .ok frame →
    Moves s (.sending stamp)
      ⟨{ s with phase := .waiting stamp.transactionId }, some frame, none, []⟩
  | unwritten {stamp : Stamp} {cause : FramingError} : s.phase = .ready →
    s.account.frame stamp s.device (.startSession s.announced) = .error cause →
    Moves s (.sending stamp) (s.retry (.framing cause))
  | ended {tid : TransactionId} {e : StartEvent} {result : Except DeviceError Unit} :
    s.phase = .waiting tid → e.Ends tid result → Moves s e (s.finish result)
  | failed {tid : TransactionId} {e : StartEvent} {cause : DeviceError} :
    s.phase = .waiting tid → e.Fails tid → Moves s e (s.retry cause)
  | aside {tid : TransactionId} {m : Message} : s.phase = .waiting tid → m.IsElse tid →
    Moves s (.received m) ⟨{ s with backlog := s.backlog ++ [m] }, none, none, []⟩
  /-- The event is none that can be met in this phase. -/
  | unmet {e : StartEvent} :
    (s.phase = .ready → ∀ stamp, e ≠ .sending stamp) →
    (∀ tid, s.phase = .waiting tid → ∃ stamp, e = .sending stamp) →
    Moves s e ⟨s, none, none, []⟩

theorem moves_ready (ready : s.phase = .ready) (e : StartEvent) : s.Moves e (s.step e) := by
  have unmet (other : ∀ stamp, e ≠ .sending stamp) : s.Moves e ⟨s, none, none, []⟩ := by
    refine .unmet (fun _ => other) fun tid waiting => ?_
    cases ready.symm.trans waiting
  cases e with
  | sending stamp =>
    unfold step
    rw [ready]
    dsimp only
    rw [Account.startSession]
    cases written : s.account.frame stamp s.device (.startSession s.announced) with
    | ok frame => exact .sent ready written
    | error cause =>
      change s.Moves _ (s.fail (.framing cause))
      rw [fail_eq_retry rfl]
      exact .unwritten ready written
  | received m | timedOut | workerGone =>
    unfold step
    rw [ready]
    exact unmet nofun

theorem moves (s : SessionStart) (e : StartEvent) : s.Moves e (s.step e) := by
  cases phase : s.phase with
  | ready => exact moves_ready phase e
  | finished result =>
    have still : s.step e = ⟨s, none, none, []⟩ := by
      unfold step
      rw [phase]
    rw [still]
    refine .unmet (fun ready => ?_) fun tid waiting => ?_
    · cases phase.symm.trans ready
    · cases phase.symm.trans waiting
  | waiting tid =>
    by_cases sending : ∃ stamp, e = .sending stamp
    · obtain ⟨stamp, rfl⟩ := sending
      have still : s.step (.sending stamp) = ⟨s, none, none, []⟩ := by
        unfold step
        rw [phase]
      rw [still]
      refine .unmet (fun ready => ?_) fun _ _ => ⟨stamp, rfl⟩
      cases phase.symm.trans ready
    · rcases StartEvent.cases_of_met tid (not_exists.1 sending) with
        ⟨result, ends⟩ | fails | ⟨m, rfl, other⟩
      · rw [step_of_ends phase ends]
        exact .ended phase ends
      · obtain ⟨cause, retried⟩ := step_of_fails phase fails
        rw [retried]
        exact .failed phase fails
      · rw [step_of_isElse phase other]
        exact .aside phase other

end SessionStart

/-! ### Runs -/

theorem SessionSettings.retryDelay_le_longest (s : SessionSettings) :
    s.retryDelay ≤ Backoff.longest := by
  have bound : s.startRetryInitial.toNat < 18446744073709551616 := UInt64.toNat_lt _
  have short : s.startRetryInitial.toNat * 1000000
      ≤ 18446744073709551615 * 1000000000 + 999999999 := by omega
  exact short

/-- The request of a device to open its session. -/
def DeviceSession.startFrame (d : DeviceSession σ φ) (stamp : Stamp) : Except FramingError Bytes :=
  d.account.frame stamp d.uuid (.startSession (if d.isNew then some d.name else none))

/-- The attempts, with all that they asked for so far. -/
structure StartRecord where
  start : SessionStart
  /-- The requests that were sent, the oldest first. -/
  requests : List Bytes
  /-- The pauses between attempts, the oldest first. -/
  pauses : List Nanoseconds

namespace StartRecord

/-- The device has attempted nothing yet. -/
def ofDevice (d : DeviceSession σ φ) : StartRecord := ⟨Startup.firstAttempt d, [], []⟩

def act (r : StartRecord) (e : StartEvent) : StartRecord :=
  let next := r.start.step e
  ⟨next.start, r.requests ++ next.frame.toList, r.pauses ++ next.pause.toList⟩

def run (r : StartRecord) (events : List StartEvent) : StartRecord := events.foldl act r

theorem run_append_singleton (r : StartRecord) (events : List StartEvent) (e : StartEvent) :
    r.run (events ++ [e]) = (r.run events).act e := by
  rw [run, List.foldl_append]
  rfl

theorem start_run (r : StartRecord) (events : List StartEvent) :
    (r.run events).start = r.start.run events := by
  induction events generalizing r with
  | nil => rfl
  | cons e rest ih => exact ih (r.act e)

/-- The request that was sent last is read as one to open a session, of an identifier. -/
def Asks (r : StartRecord) (tid : TransactionId) : Prop :=
  ∃ frame request, r.requests.getLast? = some frame ∧ Message.decode frame = .ok request ∧
    request.transactionId = tid ∧ request.method = Method.binding ∧
    request.messageClass = .request ∧
    request.attribute? .beginSession = some [SessionMark.start.octet]

theorem asks_of_startFrame {r : StartRecord} {d : DeviceSession σ φ} {stamp : Stamp} {frame : Bytes}
    (written : d.startFrame stamp = .ok frame)
    (last : r.requests.getLast? = some frame) : r.Asks stamp.transactionId := by
  obtain ⟨decoded, -⟩ := Account.read_of_sign written
  refine ⟨frame, _, last, decoded, Message.transactionId_delivered .., Message.method_delivered ..,
    Message.messageClass_delivered .., ?_⟩
  rw [Message.attribute?_delivered (by decide)]
  -- the mark stands behind the name, if there is one
  cases d.isNew with
  | false => rfl
  | true => rfl

/-- The pause before the `n`-th retry, counted from 0. -/
def retryPause (d : DeviceSession σ φ) (n : Nat) : Nanoseconds :=
  min (d.timing.retryDelay * 2 ^ n) Backoff.longest

/-- **What the attempts preserve.** The schedule has been asked for the pauses that were made, and the
attempt that waits is the one whose request was sent last. -/
structure Keeps (r : StartRecord) (d : DeviceSession σ φ) : Prop where
  frame_eq : ∀ stamp, r.start.account.frame stamp r.start.device (.startSession r.start.announced)
    = d.startFrame stamp
  schedule : r.start.backoff.IsAt d.timing.retryDelay none r.pauses.length
  pauses_eq : r.pauses = (List.range r.pauses.length).map (retryPause d)
  asks : ∀ tid, r.start.phase = .waiting tid → r.Asks tid

variable {d : DeviceSession σ φ} {r : StartRecord}

theorem Keeps.retry (kept : r.Keeps d) :
    (⟨{ r.start with backoff := r.start.backoff.next.2, phase := .ready }, r.requests,
      r.pauses ++ [retryPause d r.pauses.length]⟩ : StartRecord).Keeps d := by
  obtain ⟨-, later⟩ := kept.schedule.next
  refine ⟨kept.frame_eq, ?_, ?_, nofun⟩
  · rw [List.length_append]
    exact later
  · rw [List.length_append, List.length_singleton, List.range_succ, List.map_append,
      ← kept.pauses_eq]
    rfl

theorem Keeps.act (kept : r.Keeps d) (e : StartEvent) : (r.act e).Keeps d := by
  -- the pause that a failure would add, now or by an unwritten request
  have due : r.start.backoff.next.1 = retryPause d r.pauses.length :=
    kept.schedule.next.1
  have moves := r.start.moves e
  rw [StartRecord.act]
  generalize r.start.step e = next at moves
  cases moves with
  | sent ready written =>
    -- this is where an attempt begins to wait, and its request is the last one
    dsimp only
    rw [Option.toList_none, List.append_nil]
    refine ⟨kept.frame_eq, kept.schedule, kept.pauses_eq, fun tid waiting => ?_⟩
    cases waiting
    exact asks_of_startFrame ((kept.frame_eq _).symm.trans written) List.getLast?_concat
  | unwritten ready unwritten =>
    simp only [SessionStart.retry, Option.toList, List.append_nil, due]
    exact kept.retry
  | failed waiting fails =>
    simp only [SessionStart.retry, Option.toList, List.append_nil, due]
    exact kept.retry
  | ended waiting ends =>
    simp only [SessionStart.finish, Option.toList, List.append_nil]
    exact ⟨kept.frame_eq, kept.schedule, kept.pauses_eq, nofun⟩
  | aside waiting other =>
    simp only [Option.toList, List.append_nil]
    exact ⟨kept.frame_eq, kept.schedule, kept.pauses_eq, kept.asks⟩
  | unmet =>
    simp only [Option.toList, List.append_nil]
    exact kept

theorem Keeps.run (kept : r.Keeps d) (events : List StartEvent) :
    (r.run events).Keeps d := by
  induction events generalizing r with
  | nil => exact kept
  | cons e rest ih => exact ih (kept.act e)

/-! ### What an event leads to -/

/-- The attempts are over if an event has ended them, or if they were over already. -/
theorem finished_of_act {e : StartEvent} {result : Except DeviceError Unit}
    (finished : (r.act e).start.phase = .finished result) :
    r.start.phase = .finished result ∨
      ∃ tid, r.start.phase = .waiting tid ∧ e.Ends tid result := by
  have moves := r.start.moves e
  rw [act] at finished
  generalize r.start.step e = next at moves finished
  cases moves with
  | sent | unwritten | failed => cases finished
  | aside waiting => cases waiting.symm.trans finished
  | unmet => exact .inl finished
  | ended waiting ends =>
    cases finished
    exact .inr ⟨_, waiting, ends⟩

/-- **An attempt that waits** for the answer to the last request, and what it makes of an event. -/
structure Waits (r : StartRecord) (d : DeviceSession σ φ) (tid : TransactionId) : Prop where
  asks : r.Asks tid
  /-- Nothing else ends the attempts. -/
  ends : ∀ e result, (r.act e).start.phase = .finished result ↔ e.Ends tid result
  /-- Another attempt is to be made, after a pause. -/
  fails : ∀ e, e.Fails tid → (r.act e).start.phase = .ready ∧ (r.act e).requests = r.requests ∧
    (r.act e).pauses = r.pauses ++ [retryPause d r.pauses.length]
  /-- What is no answer to the last request is put aside, and that is all. -/
  others : ∀ m : Message, m.IsElse tid → r.act (.received m)
    = { r with start := { r.start with backlog := r.start.backlog ++ [m] } }

theorem Keeps.waits (kept : r.Keeps d) {tid : TransactionId}
    (waiting : r.start.phase = .waiting tid) : r.Waits d tid where
  asks := kept.asks tid waiting
  ends e result := by
    constructor
    · intro finished
      rcases finished_of_act finished with already | ⟨tid', waiting', ends⟩
      · cases waiting.symm.trans already
      · cases waiting.symm.trans waiting'
        exact ends
    · intro ends
      rw [StartRecord.act, SessionStart.step_of_ends waiting ends]
      rfl
  fails e fails := by
    obtain ⟨cause, retried⟩ := SessionStart.step_of_fails waiting fails
    rw [StartRecord.act, retried]
    refine ⟨rfl, List.append_nil _, ?_⟩
    exact congrArg (r.pauses ++ [·]) kept.schedule.next.1
  others m other := by
    rw [StartRecord.act, SessionStart.step_of_isElse waiting other]
    simp only [Option.toList, List.append_nil]

/-- **Another attempt** is made with a request of its own, unless that cannot be written; then the
next one is to be made, after a pause. -/
def Attempts (r : StartRecord) (d : DeviceSession σ φ) (stamp : Stamp) : Prop :=
  (∃ frame, d.startFrame stamp = .ok frame ∧
      (r.act (.sending stamp)).requests = r.requests ++ [frame]) ∧
      (r.act (.sending stamp)).start.phase = .waiting stamp.transactionId ∧
      (r.act (.sending stamp)).Asks stamp.transactionId ∧
      (r.act (.sending stamp)).pauses = r.pauses ∨
    (∃ cause, d.startFrame stamp = .error cause) ∧
      (r.act (.sending stamp)).start.phase = .ready ∧
      (r.act (.sending stamp)).requests = r.requests ∧
      (r.act (.sending stamp)).pauses = r.pauses ++ [retryPause d r.pauses.length]

theorem Keeps.attempts (kept : r.Keeps d) (ready : r.start.phase = .ready)
    (stamp : Stamp) : r.Attempts d stamp := by
  have keeps := kept.act (.sending stamp)
  have moves := r.start.moves (.sending stamp)
  rw [Attempts]
  rw [StartRecord.act] at keeps ⊢
  generalize r.start.step (.sending stamp) = next at moves keeps
  cases moves with
  | sent _ written =>
    have own := (kept.frame_eq stamp).symm.trans written
    exact .inl ⟨⟨_, own, rfl⟩, rfl, keeps.asks _ rfl, List.append_nil _⟩
  | unwritten _ unwritten =>
    have own := (kept.frame_eq stamp).symm.trans unwritten
    refine .inr ⟨⟨_, own⟩, rfl, List.append_nil _, ?_⟩
    exact congrArg (r.pauses ++ [·]) kept.schedule.next.1
  | ended waiting => cases ready.symm.trans waiting
  | failed waiting => cases ready.symm.trans waiting
  | unmet unmet => exact absurd rfl (unmet ready stamp)

/-! ### Devices -/

theorem keeps_ofDevice (d : DeviceSession σ φ) : (ofDevice d).Keeps d :=
  ⟨fun _ => rfl, Backoff.isAt_start d.timing.retryDelay_le_longest, rfl, nofun⟩

/-- **How the attempts came to an end**: at some point the one that waited then was told. -/
theorem exists_end (d : DeviceSession σ φ) {events : List StartEvent}
    {result : Except DeviceError Unit}
    (finished : ((ofDevice d).run events).start.phase = .finished result) :
    ∃ before e after tid, events = before ++ e :: after ∧
      ((ofDevice d).run before).start.phase = .waiting tid ∧ e.Ends tid result := by
  induction events using List.reverseRecOn with
  | nil => cases finished
  | append_singleton before e ih =>
    rw [run_append_singleton] at finished
    -- either this event was the one, or an earlier one and this came too late
    rcases finished_of_act finished with already | ⟨tid, waiting, ends⟩
    · obtain ⟨earlier, e', after, tid, rfl, waiting, ends⟩ := ih already
      refine ⟨earlier, e', after ++ [e], tid, ?_, waiting, ends⟩
      rw [List.append_assoc, List.cons_append]
    · exact ⟨before, e, [], tid, rfl, waiting, ends⟩

/-- **A session is opened by the answer to the last request.** Whatever a device meets while it tries
to open its session, its pauses are the first one doubled over and over, up to the longest span. If
the attempts are over, then an event has ended them while the answer to the last request was waited
for: the answer agreed, or refused for one of two reasons, or the worker was gone. An attempt that
waits is ended by nothing else. A failed one is followed by another, with a request of its own, and
whatever is no answer to the last request, be it one to an earlier request, is put aside. -/
theorem opened_by_last_answer (d : DeviceSession σ φ) (events : List StartEvent) :
    let r := (ofDevice d).run events
    r.start = (Startup.firstAttempt d).run events ∧
    r.pauses = (List.range r.pauses.length).map (retryPause d) ∧
    (∀ result, r.start.phase = .finished result →
      ∃ before e after tid, events = before ++ e :: after ∧
        ((ofDevice d).run before).start.phase = .waiting tid ∧
        ((ofDevice d).run before).Asks tid ∧ e.Ends tid result) ∧
    (∀ tid, r.start.phase = .waiting tid → r.Waits d tid ∧
      ∀ m : Message, m.transactionId ≠ tid → r.act (.received m)
        = { r with start := { r.start with backlog := r.start.backlog ++ [m] } }) ∧
    (r.start.phase = .ready → ∀ stamp, r.Attempts d stamp) := by
  have kept (events : List StartEvent) : ((ofDevice d).run events).Keeps d :=
    (keeps_ofDevice d).run events
  refine ⟨start_run .., (kept events).pauses_eq, fun result finished => ?_, fun tid waiting => ?_,
    (kept events).attempts⟩
  · obtain ⟨before, e, after, tid, split, waiting, ends⟩ := exists_end d finished
    exact ⟨before, e, after, tid, split, waiting, (kept before).asks tid waiting, ends⟩
  · have waits := (kept events).waits waiting
    exact ⟨waits, fun m late => waits.others m (Message.isElse_of_ne late)⟩

/-- The lamp waits in vain at first. The answer to its first request comes while it waits for that to
the second, which is refused for a passing reason. The third attempt is agreed to. -/
def secondThoughts : List StartEvent :=
  [.sending (Course.attemptStamp 1), .timedOut,
    .sending (Course.attemptStamp 2), .received (Course.attemptAnswer 1),
    .received ⟨.error, .binding, (Course.attemptStamp 2).transactionId,
      [⟨.errorCode, errorCodeValue 500 "later"⟩]⟩,
    .sending (Course.attemptStamp 3), .received (Course.attemptAnswer 3)]

/-- The late answer is put aside, and the pauses are one second and two. -/
theorem opened_by_last_answer_lamp :
    ((ofDevice Course.lamp).run secondThoughts).pauses = [1000000000, 2000000000] ∧
      ((ofDevice Course.lamp).run secondThoughts).start.backlog = [Course.attemptAnswer 1] ∧
      ∃ before e after tid, secondThoughts = before ++ e :: after ∧
        ((ofDevice Course.lamp).run before).Asks tid ∧ e.Ends tid (.ok ()) := by
  obtain ⟨-, pauses, told, -⟩ := opened_by_last_answer Course.lamp secondThoughts
  have two : ((ofDevice Course.lamp).run secondThoughts).pauses.length = 2 := by decide +kernel
  have opened : ((ofDevice Course.lamp).run secondThoughts).start.phase = .finished (.ok ()) := rfl
  obtain ⟨before, e, after, tid, split, -, asks, ends⟩ := told _ opened
  refine ⟨?_, by decide +kernel, before, e, after, tid, split, asks, ends⟩
  rw [pauses, two]
  decide +kernel

end StartRecord

end RelayDevice
