import RelayDevice.Link.Worker
import RelayDevice.Session.Startup

/-!
# The course of a device

What becomes of a device from its launch to the end of its main loop, with any interleaving of what
happens around it. Messages arrive in its inbox at any time, and the worker may go away at any time;
the device is told how its requests went, waits in vain, looks for an answer, enters its main loop
and goes round in it. `Course.act` is what happens next, and `Course.run` is any number of
incidents.

The inbox keeps a record (`Inlet`): what was delivered, and what was taken out again, with the
attempt to open the session that waited for its answer then. So it can be said of each message
whether it was the answer to an attempt (`Receipt.answered`) or is for the dispatcher.

Each step of a course is one step of the device itself: `Startup.step` on its way, and
`MainLoop.iterate` in the main loop. Of these, a course needs to know what becomes of the messages
that were put aside and whether an attempt waits for an answer:

* `SessionStart.step_received`, `SessionStart.backlog_step_of_not_received` — the attempts;
* `Startup.step_received`, `Startup.step_of_not_received` — the device on its way;
* `MainLoop.iterate_of_backlog`, `MainLoop.iterate_of_no_backlog` — an iteration of the main loop;
  `MainLoop.dispatcher_iterate` says that the message it handles goes to the dispatcher, and no
  other.

The inbox is that of a lone device, whoever fills it. What a device does with its worker is a course
as well, which Proofs/Session/Lives shows.
-/

namespace RelayDevice

/-! ### Inboxes with a record -/

/-- An attempt to open a session. -/
structure Attempt where
  /-- How many attempts there were so far, this one included. -/
  number : Nat
  /-- What its answer must bear. -/
  transactionId : TransactionId
deriving DecidableEq

/-- A message that was taken out of an inbox. -/
structure Receipt where
  /-- What was taken out. -/
  message : Message
  /-- The attempt that waited for its answer then. -/
  awaiting : Option Attempt
deriving DecidableEq

/-- The number of the attempt that was answered by the message. -/
def Receipt.answered (r : Receipt) : Option Nat :=
  match r.awaiting with
  | none => none
  | some a =>
    if SessionStart.answersTo r.message a.transactionId then some a.number else none

theorem Receipt.answered_of_awaiting (m : Message) (a : Attempt) :
    (⟨m, some a⟩ : Receipt).answered =
      if SessionStart.answersTo m a.transactionId then some a.number else none := rfl

/-- The inbox of a device, with a record of what went through it. -/
structure Inlet where
  /-- The messages that wait. -/
  queue : BoundedQueue Message
  /-- Whether the worker is there, so that more may come. -/
  isServed : Bool
  /-- All messages that were ever delivered, the oldest first. -/
  delivered : List Message
  /-- All messages that were ever taken out, the oldest first. -/
  receipts : List Receipt
deriving DecidableEq

namespace Inlet

/-- An inbox of which nothing was heard yet. -/
def start (capacity : Nat) : Inlet := ⟨.empty capacity, true, [], []⟩

/-- The worker delivers a message, if there is room for it. -/
def deliver (i : Inlet) (m : Message) : Inlet :=
  if i.isServed then
    match i.queue.push m with
    | .ok queue => { i with queue, delivered := i.delivered ++ [m] }
    | .error _ => i
  else i

/-- The worker goes away. -/
def forsake (i : Inlet) : Inlet := { i with isServed := false }

/-- A message is taken out, which leaves the others. -/
def handOut (i : Inlet) (r : Receipt) (others : BoundedQueue Message) : Inlet :=
  { i with queue := others, receipts := i.receipts ++ [r] }

/-- The device takes the oldest message. It is told of the worker's absence only when there is
none. -/
def take (awaiting : Option Attempt) (i : Inlet) : Arrival × Inlet :=
  match i.queue.pop with
  | some (m, others) => (.message m, i.handOut ⟨m, awaiting⟩ others)
  | none => (if i.isServed then .nothing else .disconnected, i)

/-- The messages that were taken out and are no answers to the attempt that waited. -/
def kept (i : Inlet) : List Message :=
  (i.receipts.filter (·.answered.isNone)).map (·.message)

/-- The numbers of the attempts that were answered, in the order of the answers. -/
def answers (i : Inlet) : List Nat := i.receipts.filterMap Receipt.answered

theorem take_of_cons {i : Inlet} {m : Message} {rest : List Message}
    (waiting : i.queue.items = m :: rest) (awaiting : Option Attempt) :
    i.take awaiting =
      (.message m, i.handOut ⟨m, awaiting⟩ { i.queue with items := rest }) := by
  rw [take, BoundedQueue.pop, waiting]

theorem take_of_nil {i : Inlet} (waiting : i.queue.items = []) (awaiting : Option Attempt) :
    i.take awaiting = (if i.isServed then .nothing else .disconnected, i) := by
  rw [take, BoundedQueue.pop, waiting]

end Inlet

/-! ### Courses -/

/-- The identifier that the answer to a request must bear, while an attempt waits for it. -/
def SessionStart.awaited? (s : SessionStart) : Option TransactionId :=
  match s.phase with
  | .waiting tid => some tid
  | .ready | .finished _ => none

namespace Startup

variable {σ φ : Type}

/-- The identifier that the answer to a request must bear, while an attempt waits for it. -/
def awaited? (s : Startup σ φ) : Option TransactionId :=
  match s.phase with
  | .opening start => start.awaited?
  | _ => none

/-- The messages that were put aside while the session was opened. -/
def aside (s : Startup σ φ) : List Message :=
  match s.phase with
  | .opening start => start.backlog
  | .online backlog => backlog
  | _ => []

/-- Whether the device will not come online any more. -/
def IsFailed (s : Startup σ φ) : Prop := ∃ cause, s.phase = .failed cause

end Startup

/-- How far a device is in its course. -/
inductive CourseStage (σ φ : Type)
  | underway (startup : Startup σ φ)
  | running (mainLoop : MainLoop σ φ)
  /-- The main loop has ended because the worker went away. -/
  | deserted (mainLoop : MainLoop σ φ)
  /-- The main loop was told to stop. -/
  | left (mainLoop : MainLoop σ φ)

/-- A device at some point of its course. -/
structure Course (σ φ : Type) where
  stage : CourseStage σ φ
  inlet : Inlet
  /-- How many attempts to open the session there were. -/
  attempts : Nat
  /-- The messages that were handed to the dispatcher, the oldest first. -/
  dispatched : List Message

/-- What may happen next. -/
inductive Incident
  /-- A message arrives. -/
  | delivery (m : Message)
  /-- The worker goes away. -/
  | desertion
  /-- A device on its way is told something, other than a message. -/
  | notice (e : StartupEvent)
  /-- A device that waits for an answer looks into its inbox. -/
  | look
  /-- A device whose session was opened enters its main loop. -/
  | entry (now : Nanoseconds) (o : Outbox)
  /-- The device goes round in its main loop. -/
  | iteration (now : Nanoseconds) (o : Outbox)
  /-- The device is told to stop. -/
  | farewell

namespace Course

variable {σ φ : Type}

/-- A device that was not launched yet. -/
def start (d : DeviceSession σ φ) (capacity : Nat) : Course σ φ :=
  ⟨.underway (.ofSession d), .start capacity, 0, []⟩

/-- A device on its way is told something. It makes a further attempt if it waits for an answer
then, and did not before. -/
def notice (c : Course σ φ) (s : Startup σ φ) (e : StartupEvent) : Course σ φ :=
  let next := (s.step e).startup
  { c with
    stage := .underway next
    attempts := if s.awaited? = none ∧ next.awaited? ≠ none then c.attempts + 1 else c.attempts }

/-- A device that waits for an answer looks into its inbox. -/
def look (c : Course σ φ) (s : Startup σ φ) : Course σ φ :=
  match s.awaited? with
  | none => c
  | some tid =>
    match c.inlet.take (some ⟨c.attempts, tid⟩) with
    | (.message m, inlet) =>
      { c with stage := .underway (s.step (.opening (.received m))).startup, inlet }
    | (.nothing, _) => c
    | (.disconnected, _) => c.notice s (.opening .workerGone)

/-- A device whose session was opened enters its main loop. -/
def enter (c : Course σ φ) (s : Startup σ φ) (now : Nanoseconds) (o : Outbox) : Course σ φ :=
  match s.phase with
  | .online backlog => { c with stage := .running (Startup.enter s.session backlog now o).1 }
  | _ => c

/-- The device goes round in its main loop. -/
def iterate (c : Course σ φ) (l : MainLoop σ φ) (now : Nanoseconds) (o : Outbox) : Course σ φ :=
  let done := l.iterate (Inlet.take none) now o c.inlet
  { c with
    stage := if done.isOver then .deserted done.mainLoop else .running done.mainLoop
    inlet := done.inbox
    dispatched := c.dispatched ++ done.handled.toList }

/-- **What happens next.** Incidents that cannot happen at the time change nothing. -/
def act (c : Course σ φ) (e : Incident) : Course σ φ :=
  match e, c.stage with
  | .delivery m, _ => { c with inlet := c.inlet.deliver m }
  | .desertion, _ => { c with inlet := c.inlet.forsake }
  -- a message comes out of the inbox only
  | .notice (.opening (.received _)), _ => c
  | .notice e, .underway s => c.notice s e
  | .look, .underway s => c.look s
  | .entry now o, .underway s => c.enter s now o
  | .iteration now o, .running l => c.iterate l now o
  | .farewell, .running l => { c with stage := .left l }
  | _, _ => c

/-- Any number of incidents. -/
def run (c : Course σ φ) (incidents : List Incident) : Course σ φ := incidents.foldl act c

theorem run_append (c : Course σ φ) (before later : List Incident) :
    c.run (before ++ later) = (c.run before).run later := List.foldl_append

theorem run_append_singleton (c : Course σ φ) (incidents : List Incident) (e : Incident) :
    c.run (incidents ++ [e]) = (c.run incidents).act e := c.run_append incidents [e]

end Course

/-! ### Attempts to open a session -/

namespace SessionStart

variable (s : SessionStart)

theorem backlog_fail (e : DeviceError) : (s.fail e).start.backlog = s.backlog := by
  unfold fail
  split <;> rfl

theorem awaited?_fail (e : DeviceError) : (s.fail e).start.awaited? = none := by
  unfold fail
  split <;> rfl

variable {s}

theorem awaited?_eq_some_iff {tid : TransactionId} :
    s.awaited? = some tid ↔ s.phase = .waiting tid := by
  unfold awaited?
  cases s.phase <;> simp

/-- **A message comes.** The answer ends the attempt; any other message is put aside. -/
theorem step_received {tid : TransactionId} (waiting : s.awaited? = some tid) (m : Message) :
    (answersTo m tid = true ∧ (s.step (.received m)).start.awaited? = none ∧
      (s.step (.received m)).start.backlog = s.backlog) ∨
    (answersTo m tid = false ∧ (s.step (.received m)).start.awaited? = some tid ∧
      (s.step (.received m)).start.backlog = s.backlog ++ [m]) := by
  rw [awaited?_eq_some_iff] at waiting
  unfold step
  rw [waiting]
  dsimp only
  cases answer : answersTo m tid with
  | true =>
    refine .inl ⟨rfl, ?_⟩
    rw [if_pos rfl]
    cases verdict m with
    | ok => exact ⟨rfl, rfl⟩
    | error e => exact ⟨s.awaited?_fail e, s.backlog_fail e⟩
  | false => exact .inr ⟨rfl, awaited?_eq_some_iff.2 rfl, rfl⟩

/-- Whatever else an attempt meets, nothing is put aside. -/
theorem backlog_step_of_not_received {e : StartEvent} (other : ∀ m, e ≠ .received m) :
    (s.step e).start.backlog = s.backlog := by
  unfold step
  split
  · split
    · rfl
    · exact s.backlog_fail _
  · exact absurd rfl (other _)
  · exact s.backlog_fail _
  · rfl
  · rfl

end SessionStart

/-! ### Devices on their way -/

namespace Startup

variable {σ φ : Type} {s : Startup σ φ}

theorem isFailed_step (failed : s.IsFailed) (e : StartupEvent) :
    (s.step e).startup.IsFailed := by
  obtain ⟨cause, phase⟩ := failed
  have step : s.step e = ⟨s, [], []⟩ := by
    unfold step
    rw [phase]
  rw [step]
  exact ⟨cause, phase⟩

theorem step_eq_advance {start : SessionStart} (phase : s.phase = .opening start)
    (e : StartEvent) : s.step (.opening e) = s.advance start e := by
  unfold step
  rw [phase]

/-- What a step of the attempts leads to: the device fails, and awaits nothing, or else it keeps
what they put aside and awaits what they do. -/
theorem advance_cases (s : Startup σ φ) (start : SessionStart) (e : StartEvent) :
    ((s.advance start e).startup.IsFailed ∧ (start.step e).start.awaited? = none) ∨
    ((s.advance start e).startup.aside = (start.step e).start.backlog ∧
      (s.advance start e).startup.awaited? = (start.step e).start.awaited?) := by
  unfold advance
  dsimp only
  cases phase : (start.step e).start.phase with
  | ready => exact .inr ⟨rfl, rfl⟩
  | waiting tid => exact .inr ⟨rfl, rfl⟩
  | finished result =>
    have none : (start.step e).start.awaited? = none := by rw [SessionStart.awaited?, phase]
    cases result with
    | ok => exact .inr ⟨rfl, none.symm⟩
    | error cause => exact .inl ⟨⟨cause, rfl⟩, none⟩

theorem opening_of_awaited? {tid : TransactionId} (waiting : s.awaited? = some tid) :
    ∃ start, s.phase = .opening start ∧ start.awaited? = some tid := by
  unfold awaited? at waiting
  split at waiting
  · next start phase => exact ⟨start, phase, waiting⟩
  · cases waiting

theorem aside_of_opening {start : SessionStart} (phase : s.phase = .opening start) :
    s.aside = start.backlog := by
  rw [aside, phase]

theorem awaited?_of_isFailed (failed : s.IsFailed) : s.awaited? = none := by
  obtain ⟨cause, phase⟩ := failed
  rw [awaited?, phase]

/-- **A message comes.** The answer ends the attempt; any other message is put aside. -/
theorem step_received {tid : TransactionId} (waiting : s.awaited? = some tid) (m : Message) :
    (SessionStart.answersTo m tid = true ∧
      (s.step (.opening (.received m))).startup.awaited? = none ∧
      ((s.step (.opening (.received m))).startup.IsFailed ∨
        (s.step (.opening (.received m))).startup.aside = s.aside)) ∨
    (SessionStart.answersTo m tid = false ∧
      (s.step (.opening (.received m))).startup.awaited? = some tid ∧
      (s.step (.opening (.received m))).startup.aside = s.aside ++ [m]) := by
  obtain ⟨start, phase, waiting⟩ := opening_of_awaited? waiting
  rw [step_eq_advance phase, aside_of_opening phase]
  obtain ⟨answer, none, same⟩ | ⟨answer, still, more⟩ := SessionStart.step_received waiting m
  · refine .inl ⟨answer, ?_⟩
    obtain ⟨failed, -⟩ | ⟨kept, awaited⟩ := s.advance_cases start (.received m)
    · exact ⟨awaited?_of_isFailed failed, .inl failed⟩
    · exact ⟨awaited.trans none, .inr (kept.trans same)⟩
  · refine .inr ⟨answer, ?_⟩
    obtain ⟨-, none⟩ | ⟨kept, awaited⟩ := s.advance_cases start (.received m)
    · cases none.symm.trans still
    · exact ⟨awaited.trans still, kept.trans more⟩

/-- Whatever else the device is told, nothing is put aside. -/
theorem step_of_not_received {e : StartupEvent} (other : ∀ m, e ≠ .opening (.received m)) :
    (s.step e).startup.IsFailed ∨ (s.step e).startup.aside = s.aside := by
  unfold step
  split
  · next phase =>
    split
    · exact .inl ⟨_, rfl⟩
    · exact .inr (by rw [aside, aside, phase])
  · exact .inl ⟨_, rfl⟩
  · next phase => exact .inr (by rw [aside, aside, phase])
  · next phase => exact .inr (by rw [aside, aside, phase]; rfl)
  · next phase =>
    split
    · exact .inr (by rw [aside, aside, phase]; rfl)
    · exact .inl ⟨_, rfl⟩
  · next start e phase =>
    rw [aside_of_opening phase]
    obtain ⟨failed, -⟩ | ⟨kept, -⟩ := s.advance_cases start e
    · exact .inl failed
    · refine .inr (kept.trans (SessionStart.backlog_step_of_not_received fun m received => ?_))
      exact other m (congrArg _ received)
  · exact .inr rfl

end Startup

/-! ### Iterations of the main loop -/

/-- The message that was found, if there was one. -/
def Arrival.message? : Arrival → Option Message
  | .message m => some m
  | .nothing | .disconnected => none

namespace MainLoop

variable {σ φ ι : Type} (l : MainLoop σ φ) (read : ι → Arrival × ι) (now : Nanoseconds)
  (o : Outbox) (inbox : ι)

/-- What an iteration does before it looks for a message. -/
def prepare : MainLoop σ φ × Outbox × List LogLine :=
  let (l, o, kept) := l.keepalive now o
  let (l, o, ticked) := l.tick now o
  let (l, o, taken) := l.features o
  (l, o, kept ++ ticked ++ taken)

theorem keepalive_eq : (l.keepalive now o).1 =
    { l with lastKeepalive := (l.keepalive now o).1.lastKeepalive } := by
  unfold keepalive
  split <;> rfl

theorem tick_eq : (l.tick now o).1 = { l with
    dispatcher := (l.tick now o).1.dispatcher
    lastTick := (l.tick now o).1.lastTick } := by
  unfold tick
  split <;> rfl

/-- Before it looks for a message, an iteration concerns only the dispatcher and the times. -/
theorem prepare_eq : (l.prepare now o).1 = { l with
    dispatcher := (l.prepare now o).1.dispatcher
    lastKeepalive := (l.prepare now o).1.lastKeepalive
    lastTick := (l.prepare now o).1.lastTick } := by
  unfold prepare features
  dsimp only
  rw [tick_eq, keepalive_eq]

theorem backlog_prepare : (l.prepare now o).1.backlog = l.backlog := by rw [prepare_eq]

theorem context_prepare : (l.prepare now o).1.context = l.context := by rw [prepare_eq]

theorem iterate_eq : l.iterate read now o inbox =
    match (l.prepare now o).1.next read inbox with
    | (.message m, next, inbox) =>
      let done := next.handle m (l.prepare now o).2.1
      ⟨done.1, done.2.1, inbox, some m, false, (l.prepare now o).2.2 ++ done.2.2⟩
    | (.nothing, next, inbox) =>
      ⟨next, (l.prepare now o).2.1, inbox, none, false, (l.prepare now o).2.2⟩
    | (.disconnected, next, inbox) =>
      ⟨next, (l.prepare now o).2.1, inbox, none, true, (l.prepare now o).2.2 ++
        [.warn "Transport worker went away, leaving main loop"]⟩ := rfl

theorem handle_fst (m : Message) :
    (l.handle m o).1 =
      { l with dispatcher := (l.dispatcher.dispatch o.stamp.1.time m).dispatcher } := by
  unfold handle
  dsimp only
  split
  · rfl
  · rfl
  · split <;> rfl

variable {l}

/-- **A message was put aside.** It is handled, and the inbox is left alone. -/
theorem iterate_of_backlog {m : Message} {rest : List Message} (backlog : l.backlog = m :: rest) :
    (l.iterate read now o inbox).handled = some m ∧
      (l.iterate read now o inbox).mainLoop.backlog = rest ∧
      (l.iterate read now o inbox).inbox = inbox ∧
      (l.iterate read now o inbox).isOver = false := by
  have next : (l.prepare now o).1.next read inbox =
      (.message m, { (l.prepare now o).1 with backlog := rest }, inbox) := by
    rw [MainLoop.next, backlog_prepare, backlog]
  rw [iterate_eq, next]
  exact ⟨rfl, congrArg MainLoop.backlog (handle_fst _ _ _), rfl, rfl⟩

/-- **Nothing is left of what was put aside.** The inbox is looked into, and what is found there is
handled; the loop ends if it is told that the worker is gone. -/
theorem iterate_of_no_backlog (backlog : l.backlog = []) :
    (l.iterate read now o inbox).handled = (read inbox).1.message? ∧
      (l.iterate read now o inbox).mainLoop.backlog = [] ∧
      (l.iterate read now o inbox).inbox = (read inbox).2 ∧
      ((l.iterate read now o inbox).isOver = true ↔ (read inbox).1 = .disconnected) := by
  have empty : (l.prepare now o).1.backlog = [] := (l.backlog_prepare now o).trans backlog
  have next : (l.prepare now o).1.next read inbox =
      ((read inbox).1, (l.prepare now o).1, (read inbox).2) := by
    rw [MainLoop.next, empty]
  rw [iterate_eq, next]
  cases (read inbox).1 with
  | message m =>
    exact ⟨rfl, (congrArg MainLoop.backlog (handle_fst _ _ _)).trans empty, rfl, by simp⟩
  | nothing => exact ⟨rfl, empty, rfl, by simp⟩
  | disconnected => exact ⟨rfl, empty, rfl, by simp⟩

variable (l)

/-- **The dispatcher sees what is handled.** It is handed that message and no other. -/
theorem dispatcher_iterate :
    (l.iterate read now o inbox).mainLoop.dispatcher =
      (l.iterate read now o inbox).handled.toList.foldl
        (fun d m => (d.dispatch (l.prepare now o).2.1.stamp.1.time m).dispatcher)
        (l.prepare now o).1.dispatcher := by
  have same : ((l.prepare now o).1.next read inbox).2.1.dispatcher =
      (l.prepare now o).1.dispatcher := by
    unfold MainLoop.next
    split <;> rfl
  rw [iterate_eq, ← same]
  match (l.prepare now o).1.next read inbox with
  | (.message m, next, inbox) => exact congrArg MainLoop.dispatcher (handle_fst _ _ _)
  | (.nothing, _, _) | (.disconnected, _, _) => rfl

end MainLoop

/-! ### Iterations of a course -/

namespace Course

variable {σ φ : Type} (c : Course σ φ) {l : MainLoop σ φ}

variable {c} in
theorem act_iteration (stage : c.stage = .running l) (now : Nanoseconds) (o : Outbox) :
    c.act (.iteration now o) = c.iterate l now o := by
  unfold act
  rw [stage]

theorem iterate_of_backlog {m : Message} {rest : List Message} (backlog : l.backlog = m :: rest)
    (now : Nanoseconds) (o : Outbox) :
    ∃ next : MainLoop σ φ, next.backlog = rest ∧ c.iterate l now o =
      { c with stage := .running next, dispatched := c.dispatched ++ [m] } := by
  obtain ⟨handled, left, same, goesOn⟩ :=
    MainLoop.iterate_of_backlog (Inlet.take none) now o c.inlet backlog
  refine ⟨_, left, ?_⟩
  simp only [iterate, handled, same, goesOn]
  rfl

theorem iterate_of_waiting {m : Message} {rest : List Message} (backlog : l.backlog = [])
    (waiting : c.inlet.queue.items = m :: rest) (now : Nanoseconds) (o : Outbox) :
    ∃ next : MainLoop σ φ, next.backlog = [] ∧ c.iterate l now o =
      { c with
        stage := .running next
        inlet := c.inlet.handOut ⟨m, none⟩ { c.inlet.queue with items := rest }
        dispatched := c.dispatched ++ [m] } := by
  obtain ⟨handled, left, taken, ended⟩ :=
    MainLoop.iterate_of_no_backlog (Inlet.take none) now o c.inlet backlog
  rw [Inlet.take_of_cons waiting] at handled taken ended
  refine ⟨_, left, ?_⟩
  simp [iterate, handled, taken, ended, Arrival.message?]

theorem iterate_of_nothing (backlog : l.backlog = []) (waiting : c.inlet.queue.items = [])
    (now : Nanoseconds) (o : Outbox) :
    ∃ next : MainLoop σ φ, next.backlog = [] ∧ c.iterate l now o =
      { c with stage := if c.inlet.isServed then .running next else .deserted next } := by
  obtain ⟨handled, left, taken, ended⟩ :=
    MainLoop.iterate_of_no_backlog (Inlet.take none) now o c.inlet backlog
  rw [Inlet.take_of_nil waiting] at handled taken ended
  refine ⟨_, left, ?_⟩
  cases served : c.inlet.isServed <;>
    simp [iterate, handled, taken, ended, served, Arrival.message?]

end Course

end RelayDevice
