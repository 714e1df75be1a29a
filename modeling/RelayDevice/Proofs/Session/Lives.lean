import Mathlib.Data.List.Induction
import RelayDevice.Proofs.Session.Inbox
import RelayDevice.Session.Life

/-!
# Every life is a course

A `Life` is a device with its worker, as they share their time. It never does anything that could
not happen in a course: `Life.exists_course`. So what holds of all courses holds of every life, and
what a life dispatches it dispatches in the order of arrival.

A life is at the same point as a course (`Life.Follows`) if the device is at the same stage in both,
and the worker keeps for it what the inlet holds (`Worker.Serves`). `Life.follows_turn` is the step.
A turn has two halves, and each comes down to one lemma:

* `Life.follows_passed` — the pass of the worker brings at most one message;
* `Life.follows_tell`, `Life.follows_iterate` — the device then does one step, or several while it
  comes online: what it asks for is answered at once, and the answer is its next step.

`Startup.step_cases` says what may be asked for. Only the request to be attached concerns the inbox,
and it is made before anything is put there.
-/

namespace RelayDevice

variable {τ σ φ : Type}

/-! ### What a device on its way asks for -/

/-- Whether a request is about something else than the inbox of the device. -/
def StartupRequest.IsPlain : StartupRequest → Prop
  | .publish _ _ _ | .send _ | .pause _ => True
  | .attach _ _ | .detach _ => False

theorem DeviceSession.uuid_setup (d : DeviceSession σ φ) : d.setup.2.uuid = d.uuid := by
  unfold setup
  split <;> rfl

namespace Startup

variable {s : Startup σ φ}

theorem uuid_advance (s : Startup σ φ) (start : SessionStart) (e : StartEvent) :
    (s.advance start e).startup.session.uuid = s.session.uuid := by
  unfold advance
  dsimp only
  split <;> rfl

/-- A device on its way stays the same device. -/
theorem uuid_step (s : Startup σ φ) (e : StartupEvent) :
    (s.step e).startup.session.uuid = s.session.uuid := by
  unfold step
  split
  · split
    · next session setup => exact (congrArg (·.2.uuid) setup).symm.trans s.session.uuid_setup
    · next session setup => exact (congrArg (·.2.uuid) setup).symm.trans s.session.uuid_setup
  · rfl
  · rfl
  · rfl
  · split <;> rfl
  · exact s.uuid_advance _ _
  · rfl

/-- Whether the device was launched and is still on its way. -/
def IsWaiting (s : Startup σ φ) : Prop :=
  match s.phase with
  | .attaching | .publishing | .opening _ => True
  | .idle | .online _ | .failed _ => False

theorem IsWaiting.ne_idle (waiting : s.IsWaiting) : s.phase ≠ .idle := by
  intro idle
  rw [IsWaiting, idle] at waiting
  exact waiting

theorem isPlain_openingRequests (next : StartStep) : ∀ r ∈ openingRequests next, r.IsPlain := by
  intro r asked
  obtain sent | paused := List.mem_append.1 asked
  · obtain ⟨frame, -, rfl⟩ := List.mem_map.1 sent
    trivial
  · obtain ⟨delay, -, rfl⟩ := List.mem_map.1 paused
    trivial

/-- **What a step asks for.** A device that fails asks to be detached at most, and a device that was
launched to be attached. Nothing else that is asked for concerns the inbox, and it is asked for on
the way only. -/
theorem step_cases (s : Startup σ φ) (e : StartupEvent) :
    ((s.step e).startup.IsFailed ∧ ∀ r ∈ (s.step e).requests, ∃ device, r = .detach device) ∨
    (s.phase = .idle ∧ (s.step e).startup.phase = .attaching ∧
      ∃ key, (s.step e).requests = [.attach s.session.uuid key]) ∨
    (((s.step e).startup.phase = .idle ↔ s.phase = .idle) ∧ (s.step e).requests = []) ∨
    (s.phase ≠ .idle ∧ (s.step e).startup.IsWaiting ∧ ∀ r ∈ (s.step e).requests, r.IsPlain) := by
  unfold step
  split
  · next phase =>
    split
    · exact .inl ⟨⟨_, rfl⟩, by simp [reject]⟩
    · next session setup =>
      refine .inr (.inl ⟨phase, rfl, session.account.key, ?_⟩)
      rw [← s.session.uuid_setup, setup]
  · exact .inl ⟨⟨_, rfl⟩, by simp [reject]⟩
  · next phase =>
    exact .inr (.inr (.inr ⟨by simp [phase], trivial, by simp [StartupRequest.IsPlain]⟩))
  · next phase => exact .inr (.inr (.inl ⟨by simp [phase, beginOpening], rfl⟩))
  · next phase =>
    split
    · exact .inr (.inr (.inl ⟨by simp [phase, beginOpening], rfl⟩))
    · exact .inl ⟨⟨_, rfl⟩, by simp [abort]⟩
  · next start e phase =>
    unfold advance
    dsimp only
    split
    · exact .inr (.inr (.inl ⟨by simp [phase], rfl⟩))
    · exact .inl ⟨⟨_, rfl⟩, by simp [abort]⟩
    · exact .inr (.inr (.inr ⟨by simp [phase], trivial, isPlain_openingRequests _⟩))
    · exact .inr (.inr (.inr ⟨by simp [phase], trivial, isPlain_openingRequests _⟩))
  · exact .inr (.inr (.inl ⟨Iff.rfl, rfl⟩))

end Startup

/-! ### Iterations on another inbox -/

namespace MainLoop

variable {ι κ : Type} (l : MainLoop σ φ) (now : Nanoseconds) (o : Outbox)

/-- The main loop speaks for the same device all the time. -/
theorem context_iterate (read : ι → Arrival × ι) (inbox : ι) :
    (l.iterate read now o inbox).mainLoop.context = l.context := by
  have same : ((l.prepare now o).1.next read inbox).2.1.context = l.context := by
    rw [← l.context_prepare now o]
    unfold MainLoop.next
    split <;> rfl
  rw [iterate_eq, ← same]
  match (l.prepare now o).1.next read inbox with
  | (.message m, next, inbox) =>
    have handled := congrArg MainLoop.context (next.handle_fst (l.prepare now o).2.1 m)
    exact handled
  | (.nothing, _, _) | (.disconnected, _, _) => rfl

/-- Of its inbox an iteration knows no more than what it finds there. -/
theorem iterate_congr (read : ι → Arrival × ι) (read' : κ → Arrival × κ) {x : ι} {y : κ}
    (same : (read x).1 = (read' y).1) (R : ι → κ → Prop) (before : R x y)
    (later : R (read x).2 (read' y).2) :
    (l.iterate read now o x).mainLoop = (l.iterate read' now o y).mainLoop ∧
      (l.iterate read now o x).isOver = (l.iterate read' now o y).isOver ∧
      R (l.iterate read now o x).inbox (l.iterate read' now o y).inbox := by
  rw [iterate_eq, iterate_eq]
  unfold MainLoop.next
  cases (l.prepare now o).1.backlog with
  | cons m rest => exact ⟨rfl, rfl, before⟩
  | nil =>
    dsimp only
    rw [same]
    cases (read' y).1 with
    | message m => exact ⟨rfl, rfl, later⟩
    | nothing => exact ⟨rfl, rfl, later⟩
    | disconnected => exact ⟨rfl, rfl, later⟩

end MainLoop

/-! ### Courses that go on -/

namespace Course

variable {c c' c'' : Course σ φ}

/-- A course may lead to another. -/
def Reaches (c c' : Course σ φ) : Prop := ∃ incidents, c.run incidents = c'

theorem Reaches.refl (c : Course σ φ) : c.Reaches c := ⟨[], rfl⟩

theorem reaches_act (c : Course σ φ) (e : Incident) : c.Reaches (c.act e) := ⟨[e], rfl⟩

theorem Reaches.trans (first : c.Reaches c') (second : c'.Reaches c'') : c.Reaches c'' := by
  obtain ⟨before, rfl⟩ := first
  obtain ⟨later, rfl⟩ := second
  exact ⟨before ++ later, c.run_append before later⟩

theorem act_entry {s : Startup σ φ} {backlog : List Message} (stage : c.stage = .underway s)
    (phase : s.phase = .online backlog) (now : Nanoseconds) (o : Outbox) :
    c.act (.entry now o) =
      { c with stage := .running (Startup.enter s.session backlog now o).1 } := by
  unfold act
  rw [stage]
  dsimp only [enter]
  rw [phase]

theorem act_notice {s : Startup σ φ} {e : StartupEvent} (stage : c.stage = .underway s)
    (other : ∀ m, e ≠ .opening (.received m)) : c.act (.notice e) = c.notice s e := by
  cases e with
  | launched | attached | published => simp only [act, stage]
  | opening e =>
    cases e with
    | received m => exact absurd rfl (other m)
    | sending | timedOut | workerGone => simp only [act, stage]

theorem act_look {s : Startup σ φ} {tid : TransactionId} {m : Message} {rest : List Message}
    (stage : c.stage = .underway s) (waits : s.awaited? = some tid)
    (waiting : c.inlet.queue.items = m :: rest) :
    c.act .look = { c with
      stage := .underway (s.step (.opening (.received m))).startup
      inlet := (c.inlet.take (some ⟨c.attempts, tid⟩)).2 } := by
  have act : c.act .look = c.look s := by
    unfold Course.act
    rw [stage]
  rw [act, look, waits]
  dsimp only
  rw [Inlet.take_of_cons waiting]

/-- What a pass of the worker makes of the inbox can happen in a course. -/
theorem reaches_of_becomes {j : Inlet} (becomes : c.inlet.Becomes j) :
    c.Reaches { c with inlet := j } := by
  obtain rfl | ⟨m, rfl⟩ | rfl := becomes
  · exact .refl c
  · exact c.reaches_act (.delivery m)
  · exact c.reaches_act .desertion

end Course

/-! ### Lives -/

/-- The inbox that a device on its way will have, or has already. -/
def Worker.Serves (w : Worker) (s : Startup σ φ) (i : Inlet) : Prop :=
  match s.phase with
  | .idle => w.IsAlone i
  | _ => w.Keeps s.session.uuid i

namespace Worker

variable {w v : Worker} {device : Uuid} {i : Inlet} {s : Startup σ φ}

theorem eq_of_queue {frame : Bytes} (queued : w.queue frame = .ok v) :
    v = { w with outbound := v.outbound } := by
  unfold queue at queued
  split at queued
  · rw [← Except.ok.inj queued]
  · cases queued
  · cases queued

theorem Keeps.withOutbound (keeps : w.Keeps device i) (outbound : BoundedQueue Bytes) :
    { w with outbound }.Keeps device i :=
  keeps.congr rfl rfl rfl id rfl keeps.isServed

theorem serves_of_keeps (phase : s.phase ≠ .idle) (keeps : w.Keeps s.session.uuid i) :
    w.Serves s i := by
  unfold Serves
  split
  · next idle => exact absurd idle phase
  · exact keeps

theorem Serves.keeps (serves : w.Serves s i) (phase : s.phase ≠ .idle) :
    w.Keeps s.session.uuid i := by
  unfold Serves at serves
  split at serves
  · next idle => exact absurd idle phase
  · exact serves

theorem Serves.isAlone (serves : w.Serves s i) (phase : s.phase = .idle) : w.IsAlone i := by
  unfold Serves at serves
  rwa [phase] at serves

theorem Serves.congr {next : Startup σ φ} (serves : w.Serves s i)
    (idle : next.phase = .idle ↔ s.phase = .idle) (uuid : next.session.uuid = s.session.uuid) :
    w.Serves next i := by
  by_cases phase : s.phase = .idle
  · rw [Serves, idle.2 phase]
    exact serves.isAlone phase
  · refine serves_of_keeps (fun h => phase (idle.1 h)) ?_
    rw [uuid]
    exact serves.keeps phase

theorem Keeps.shutdown (keeps : w.Keeps device i) : w.shutdown.Keeps device i :=
  keeps.congr rfl rfl rfl id rfl keeps.isServed

theorem Serves.shutdown (serves : w.Serves s i) : w.shutdown.Serves s i := by
  by_cases phase : s.phase = .idle
  · have alone := serves.isAlone phase
    rw [Serves, phase]
    exact alone.congr rfl rfl alone.isServed
  · exact serves_of_keeps phase (serves.keeps phase).shutdown

theorem Serves.pass (serves : w.Serves s i) (T : Transport τ) (now later : Nanoseconds) (t : τ) :
    ∃ j, i.Becomes j ∧ (w.pass T now later t).1.Serves s j := by
  by_cases phase : s.phase = .idle
  · obtain ⟨j, becomes, alone⟩ := (serves.isAlone phase).pass T now later t
    refine ⟨j, becomes, ?_⟩
    rw [Serves, phase]
    exact alone
  · obtain ⟨j, becomes, keeps⟩ := (serves.keeps phase).pass T now later t
    exact ⟨j, becomes, serves_of_keeps phase keeps⟩

/-- The inbox of a device that asks to be attached. -/
theorem IsAlone.attach (alone : w.IsAlone i) (device : Uuid) (key : Bytes) :
    (∃ e, w.attach device key = .error e ∧ w.Keeps device i) ∨
      ∃ v, w.attach device key = .ok v ∧ v.Keeps device i := by
  have items : i.queue.items = [] := by
    rw [alone.queue]
    rfl
  have isOpen : i.queue.isOpen = true := by
    rw [alone.queue]
    rfl
  unfold Worker.attach
  by_cases ended : w.phase = .ended
  · rw [if_pos ended]
    exact .inl ⟨_, rfl, alone.detached, .refused alone.attached alone.commands items ended, isOpen,
      alone.isServed⟩
  · rw [if_neg ended, alone.commands, ← alone.queue]
    exact .inr ⟨_, rfl, alone.detached, .requested key alone.attached rfl items, isOpen,
      alone.isServed⟩

end Worker

namespace Life

/-- A life is at the same point as a course. -/
def Follows (l : Life τ σ φ) (c : Course σ φ) : Prop :=
  match l.stage with
  | .underway s => c.stage = .underway s ∧ l.worker.Serves s c.inlet
  | .online mainLoop false =>
    c.stage = .running mainLoop ∧ l.worker.Keeps mainLoop.context.device c.inlet
  | .online mainLoop true => c.stage = .deserted mainLoop
  | .leaving _ | .over (.ok _) =>
    ∃ mainLoop, c.stage = .left mainLoop ∨ c.stage = .deserted mainLoop
  | .over (.error cause) => ∃ s, c.stage = .underway s ∧ s.phase = .failed cause

theorem follows_underway {l : Life τ σ φ} {c : Course σ φ} {s : Startup σ φ}
    (stage : l.stage = .underway s) :
    l.Follows c ↔ c.stage = .underway s ∧ l.worker.Serves s c.inlet := by
  rw [Follows, stage]

theorem follows_online {l : Life τ σ φ} {c : Course σ φ} {mainLoop : MainLoop σ φ}
    (stage : l.stage = .online mainLoop false) : l.Follows c ↔
      c.stage = .running mainLoop ∧ l.worker.Keeps mainLoop.context.device c.inlet := by
  rw [Follows, stage]

section Steps

variable (publish : Uuid → String → String → Except DeviceError Unit) (m : Moment)
  {l : Life τ σ φ} {c : Course σ φ} {s : Startup σ φ}

/-- Does all that a device on its way asks for. What it learns last is the second part. -/
def serveAll (now : Nanoseconds) (l : Life τ σ φ) (requests : List StartupRequest) :
    Life τ σ φ × Option StartupEvent :=
  requests.foldl (fun p request =>
    ((p.1.serve publish now request).1, (p.1.serve publish now request).2.or p.2)) (l, none)

theorem tell_succ (fuel : Nat) (l : Life τ σ φ) (s : Startup σ φ) (e : StartupEvent) :
    (l.tell publish m (fuel + 1) s e).1 =
      let served := l.serveAll publish m.now (s.step e).requests
      let settled := (served.1.settled m (s.step e).startup).1
      served.2.elim settled fun learnt =>
        (settled.tell publish m fuel (s.step e).startup learnt).1 := by
  rw [tell]
  dsimp only [serveAll]
  split
  · next learnt => simp only [learnt, Option.elim]
  · next learnt => simp only [learnt, Option.elim]

variable {requests : List StartupRequest} (now : Nanoseconds)

/-- What plain requests make of a life: at most the outbound queue and the time to wait for have
changed, and what was learnt is no message. -/
def IsSameInbox (l : Life τ σ φ) (p : Life τ σ φ × Option StartupEvent) : Prop :=
  (∃ outbound due, p.1 = { l with worker := { l.worker with outbound }, due }) ∧
    ∀ m, p.2 ≠ some (.opening (.received m))

theorem serveAll_of_isPlain (plain : ∀ r ∈ requests, r.IsPlain) :
    l.IsSameInbox (l.serveAll publish now requests) := by
  refine List.foldlRecOn (motive := l.IsSameInbox) requests _
    ⟨⟨l.worker.outbound, l.due, rfl⟩, nofun⟩ ?_
  rintro ⟨_, learnt⟩ ⟨⟨outbound, due, rfl⟩, other⟩ r asked
  cases r with
  | publish device apiKey descriptor => exact ⟨⟨outbound, due, rfl⟩, by simp [serve]⟩
  | send frame =>
    dsimp only [serve]
    cases queued : Worker.queue { l.worker with outbound } frame with
    | error e => exact ⟨⟨outbound, due, rfl⟩, by simp⟩
    | ok worker =>
      rw [Worker.eq_of_queue queued]
      exact ⟨⟨worker.outbound, due, rfl⟩, by simpa using other⟩
  | pause delay => exact ⟨⟨outbound, now + delay, rfl⟩, by simpa [serve] using other⟩
  | attach => exact (plain _ asked).elim
  | detach => exact (plain _ asked).elim

theorem serveAll_detach (detach : ∀ r ∈ requests, ∃ device, r = .detach device) :
    (l.serveAll publish now requests).2 = none := by
  refine List.foldlRecOn (motive := fun p : Life τ σ φ × Option StartupEvent => p.2 = none)
    requests _ rfl ?_
  rintro ⟨l, learnt⟩ nothing r asked
  obtain ⟨device, rfl⟩ := detach r asked
  exact nothing

/-- A device that has done its step is where the course is, and enters its main loop if it may. -/
theorem follows_settled (stage : c.stage = .underway s)
    (serves : s.IsFailed ∨ l.worker.Serves s c.inlet) :
    ∃ c', c.Reaches c' ∧ (l.settled m s).1.Follows c' := by
  unfold settled
  split
  · next backlog phase =>
    have keeps : l.worker.Keeps s.session.uuid c.inlet := by
      refine (serves.resolve_left ?_).keeps ?_
      · rintro ⟨cause, failed⟩
        cases failed.symm.trans phase
      · intro idle
        cases idle.symm.trans phase
    refine ⟨_, c.reaches_act (.entry m.now (l.outbox m)), ?_⟩
    rw [Course.act_entry stage phase]
    exact ⟨rfl, keeps.withOutbound _⟩
  · next cause phase => exact ⟨c, .refl c, s, stage, phase⟩
  · next online failed =>
    refine ⟨c, .refl c, stage, serves.resolve_left ?_⟩
    rintro ⟨cause, phase⟩
    exact failed cause phase

theorem settled_of_isWaiting (waiting : s.IsWaiting) :
    (l.settled m s).1 = { l with stage := .underway s } := by
  unfold Startup.IsWaiting at waiting
  unfold settled
  split
  · next phase =>
    rw [phase] at waiting
    exact waiting.elim
  · next phase =>
    rw [phase] at waiting
    exact waiting.elim
  · rfl

/-- What becomes of the inbox when a device has done a step and what it asks for is done. -/
theorem serves_serveAll {i : Inlet} (serves : l.worker.Serves s i) (e : StartupEvent) :
    ((s.step e).startup.IsFailed ∧ (l.serveAll publish now (s.step e).requests).2 = none) ∨
    ((l.serveAll publish now (s.step e).requests).1.worker.Serves (s.step e).startup i ∧
      (∀ m, (l.serveAll publish now (s.step e).requests).2 ≠ some (.opening (.received m))) ∧
      ((l.serveAll publish now (s.step e).requests).2 = none ∨ (s.step e).startup.IsWaiting)) := by
  have uuid := s.uuid_step e
  obtain ⟨failed, detach⟩ | ⟨idle, attaching, key, asked⟩ | ⟨same, asked⟩ |
    ⟨phase, waiting, plain⟩ := s.step_cases e
  · exact .inl ⟨failed, serveAll_detach publish now detach⟩
  · -- the device asks to be attached, and is told at once
    have waiting : (s.step e).startup.IsWaiting := by
      rw [Startup.IsWaiting, attaching]
      trivial
    rw [asked]
    dsimp only [serveAll, List.foldl_cons, List.foldl_nil, serve]
    obtain ⟨cause, refused, keeps⟩ | ⟨worker, attached, keeps⟩ :=
      (serves.isAlone idle).attach s.session.uuid key
    · rw [refused]
      exact .inr ⟨Worker.serves_of_keeps waiting.ne_idle (uuid ▸ keeps), by simp, .inr waiting⟩
    · rw [attached]
      exact .inr ⟨Worker.serves_of_keeps waiting.ne_idle (uuid ▸ keeps), by simp, .inr waiting⟩
  · rw [asked]
    exact .inr ⟨serves.congr same uuid, nofun, .inl rfl⟩
  · obtain ⟨⟨outbound, due, served⟩, other⟩ := serveAll_of_isPlain (l := l) publish now plain
    refine .inr ⟨?_, other, .inr waiting⟩
    rw [served]
    have keeps := (serves.keeps phase).withOutbound outbound
    exact Worker.serves_of_keeps waiting.ne_idle (uuid ▸ keeps)

/-- A device that has done a step does what follows from it, if telling it more does not lead away
from courses. -/
theorem follows_tell_succ {fuel : Nat} {e : StartupEvent}
    (more : ∀ (l : Life τ σ φ) (c : Course σ φ) (s : Startup σ φ) (e : StartupEvent),
      l.stage = .underway s → l.Follows c → (∀ m, e ≠ .opening (.received m)) →
      ∃ c', c.Reaches c' ∧ (l.tell publish m fuel s e).1.Follows c')
    (stage : c.stage = .underway (s.step e).startup) (serves : l.worker.Serves s c.inlet) :
    ∃ c', c.Reaches c' ∧ (l.tell publish m (fuel + 1) s e).1.Follows c' := by
  rw [tell_succ]
  dsimp only
  obtain ⟨failed, nothing⟩ | ⟨serves, other, onTheWay⟩ := serves_serveAll publish m.now serves e
  · rw [nothing]
    exact follows_settled m stage (.inl failed)
  · cases learnt : (l.serveAll publish m.now (s.step e).requests).2 with
    | none => exact follows_settled m stage (.inr serves)
    | some event =>
      rw [learnt] at other onTheWay
      have waiting := onTheWay.resolve_left (Option.some_ne_none event)
      rw [Option.elim_some, settled_of_isWaiting m waiting]
      refine more _ c _ event rfl ⟨stage, serves⟩ fun message received => other message ?_
      rw [received]

/-- **A device is told something**, and learns more from what it asks for. -/
theorem follows_tell (fuel : Nat) (l : Life τ σ φ) (c : Course σ φ) (s : Startup σ φ)
    (e : StartupEvent) (stage : l.stage = .underway s) (follows : l.Follows c)
    (other : ∀ m, e ≠ .opening (.received m)) :
    ∃ c', c.Reaches c' ∧ (l.tell publish m fuel s e).1.Follows c' := by
  induction fuel generalizing l c s e with
  | zero => exact ⟨c, .refl c, follows⟩
  | succ fuel ih =>
    obtain ⟨underway, serves⟩ := (follows_underway stage).1 follows
    have noticed : c.act (.notice e) = c.notice s e := Course.act_notice underway other
    obtain ⟨c', reaches, follows⟩ :=
      follows_tell_succ publish m (c := c.notice s e) ih rfl serves
    exact ⟨c', (noticed ▸ c.reaches_act (.notice e)).trans reaches, follows⟩

theorem stage_meets : (l.meets m s).2.stage = l.stage := by
  unfold meets
  split
  · rfl
  · next start _ =>
    -- the time plays no part, and is not to be computed
    obtain ⟨due, time⟩ : ∃ due, due = m.now + Nanoseconds.ofMillis start.patience := ⟨_, rfl⟩
    rw [← time]
    split
    · split <;> rfl
    · rfl
    · rfl
  · rfl

/-- What a device on its way meets, if anything, it meets in the course as well. -/
theorem follows_meets (stage : c.stage = .underway s) (serves : l.worker.Serves s c.inlet) :
    ∃ c', c.Reaches c' ∧ (l.meets m s).2.worker.Serves s c'.inlet ∧
      c'.stage = .underway ((l.meets m s).1.elim s fun e => (s.step e).startup) := by
  have reaches : ∀ e, (∀ m, e ≠ .opening (.received m)) → c.Reaches (c.notice s e) := by
    intro e other
    rw [← Course.act_notice stage other]
    exact c.reaches_act (.notice e)
  unfold meets
  split
  · exact ⟨_, reaches .launched (by simp), serves, rfl⟩
  · next start phase =>
    obtain ⟨due, time⟩ : ∃ due, due = m.now + Nanoseconds.ofMillis start.patience := ⟨_, rfl⟩
    rw [← time]
    split
    · split
      · exact ⟨_, reaches (.opening (.sending (m.stamps 0))) (by simp), serves, rfl⟩
      · exact ⟨c, .refl c, serves, stage⟩
    · next tid waits =>
      have awaited : s.awaited? = some tid := by
        rw [Startup.awaited?, phase]
        exact SessionStart.awaited?_eq_some_iff.2 waits
      have ne_idle : s.phase ≠ .idle := by simp [phase]
      obtain ⟨arrival, keeps⟩ := (serves.keeps ne_idle).read (some ⟨c.attempts, tid⟩)
      cases waiting : c.inlet.queue.items with
      | cons message rest =>
        have act := Course.act_look stage awaited waiting
        rw [Inlet.take_of_cons waiting] at arrival keeps act
        refine ⟨_, c.reaches_act .look, ?_, ?_⟩
        · rw [act]
          exact Worker.serves_of_keeps ne_idle keeps
        · rw [act]
          dsimp only
          rw [arrival]
          rfl
      | nil =>
        rw [Inlet.take_of_nil waiting] at arrival keeps
        have serves := Worker.serves_of_keeps ne_idle keeps
        cases served : c.inlet.isServed with
        | true =>
          simp only [arrival, served, if_true]
          split
          · exact ⟨_, reaches (.opening .timedOut) (by simp), serves, rfl⟩
          · exact ⟨c, .refl c, serves, stage⟩
        | false =>
          simp only [arrival, served, Bool.false_eq_true, if_false]
          exact ⟨_, reaches (.opening .workerGone) (by simp), serves, rfl⟩
    · exact ⟨c, .refl c, serves, stage⟩
  · exact ⟨c, .refl c, serves, stage⟩

/-- An iteration of the main loop is one in the course as well. -/
theorem follows_iterate {mainLoop : MainLoop σ φ} (stage : l.stage = .online mainLoop false)
    (follows : l.Follows c) : ∃ c', c.Reaches c' ∧ (l.iterate m mainLoop).1.Follows c' := by
  obtain ⟨running, keeps⟩ := (follows_online stage).1 follows
  unfold iterate
  split
  · refine ⟨_, c.reaches_act (.iteration m.now (l.outbox m)), ?_⟩
    -- the iteration reads the same out of either inbox, and knows no more of it
    obtain ⟨arrival, keptAfter⟩ := keeps.read none
    obtain ⟨loop, ended, inbox⟩ := mainLoop.iterate_congr m.now (l.outbox m)
      (fun w => Worker.read w mainLoop.context.device) (Inlet.take none) arrival
      (fun w i => Worker.Keeps w mainLoop.context.device i) keeps keptAfter
    rw [Course.act_iteration running]
    have context := mainLoop.context_iterate m.now (l.outbox m) (Inlet.take none) c.inlet
    dsimp only
    rw [loop, ended]
    cases left : (mainLoop.iterate (Inlet.take none) m.now (l.outbox m) c.inlet).isOver with
    | true => exact if_pos left
    | false =>
      refine ⟨if_neg (Bool.not_eq_true _ ▸ left), ?_⟩
      rw [context]
      exact Worker.Keeps.withOutbound inbox _
  · exact ⟨c, .refl c, follows⟩

variable (T : Transport τ)

/-- A life after a pass of the worker. -/
def passed (l : Life τ σ φ) : Life τ σ φ :=
  { l with
    worker := (l.worker.pass T m.now m.now l.link).1
    link := (l.worker.pass T m.now m.now l.link).2.1 }

theorem turn_eq (l : Life τ σ φ) : (l.turn T publish m).1 =
    let l := l.passed m T
    match l.stage with
    | .underway s =>
      match (l.meets m s).1 with
      | some event => ((l.meets m s).2.tell publish m lessons s event).1
      | none => (l.meets m s).2
    | .online mainLoop false => (l.iterate m mainLoop).1
    | .online _ true | .over _ => l
    | .leaving state =>
      if l.worker.phase = .ended then { l with stage := .over (.ok state) } else l := by
  unfold turn passed
  dsimp only
  cases l.stage with
  | underway s =>
    dsimp only
    split
    · next met => simp only [met]
    · next met => simp only [met]
  | online mainLoop isOver => cases isOver <;> rfl
  | leaving state => rfl
  | «over» result => rfl

/-- A pass of the worker is a delivery or the end of the worker in the course, if it is anything. -/
theorem follows_passed (follows : l.Follows c) :
    ∃ c', c.Reaches c' ∧ (l.passed m T).Follows c' := by
  cases stage : l.stage with
  | underway s =>
    obtain ⟨underway, serves⟩ := (follows_underway stage).1 follows
    obtain ⟨j, becomes, serves⟩ := serves.pass T m.now m.now l.link
    have still : (l.passed m T).stage = .underway s := stage
    exact ⟨_, Course.reaches_of_becomes becomes, (follows_underway still).2 ⟨underway, serves⟩⟩
  | online mainLoop isOver =>
    cases isOver with
    | false =>
      obtain ⟨running, keeps⟩ := (follows_online stage).1 follows
      obtain ⟨j, becomes, keeps⟩ := keeps.pass T m.now m.now l.link
      have still : (l.passed m T).stage = .online mainLoop false := stage
      exact ⟨_, Course.reaches_of_becomes becomes, (follows_online still).2 ⟨running, keeps⟩⟩
    | true => exact ⟨c, .refl c, by simpa only [Follows, passed, stage] using follows⟩
  | leaving state => exact ⟨c, .refl c, by simpa only [Follows, passed, stage] using follows⟩
  | «over» result =>
    cases result <;> exact ⟨c, .refl c, by simpa only [Follows, passed, stage] using follows⟩

/-- **A turn of a life** is a part of a course. -/
theorem follows_turn (follows : l.Follows c) :
    ∃ c', c.Reaches c' ∧ (l.turn T publish m).1.Follows c' := by
  obtain ⟨c₁, passes, follows⟩ := follows_passed m T follows
  rw [turn_eq]
  generalize l.passed m T = l at follows
  dsimp only
  split
  · next s stage =>
    obtain ⟨underway, serves⟩ := (follows_underway stage).1 follows
    obtain ⟨c₂, meets, serves, met⟩ := follows_meets m underway serves
    split
    · next event happens =>
      rw [happens] at met
      have fuel : lessons = 3 + 1 := rfl
      rw [fuel]
      obtain ⟨c₃, tells, follows⟩ :=
        follows_tell_succ publish m (follows_tell publish m 3) met serves
      exact ⟨c₃, passes.trans (meets.trans tells), follows⟩
    · next quiet =>
      rw [quiet] at met
      refine ⟨c₂, passes.trans meets, (follows_underway ?_).2 ⟨met, serves⟩⟩
      rw [stage_meets, stage]
      rfl
  · next mainLoop stage =>
    obtain ⟨c₂, goes, follows⟩ := follows_iterate m stage follows
    exact ⟨c₂, passes.trans goes, follows⟩
  · exact ⟨c₁, passes, follows⟩
  · exact ⟨c₁, passes, follows⟩
  · next state stage =>
    refine ⟨c₁, passes, ?_⟩
    split
    · simpa only [Follows, stage] using follows
    · exact follows

/-- A device that is told to leave leaves its course as well. -/
theorem follows_leave (follows : l.Follows c) :
    ∃ c', c.Reaches c' ∧ (l.leave m).1.Follows c' := by
  unfold leave
  split
  · next mainLoop isOver stage =>
    cases isOver with
    | false =>
      obtain ⟨running, -⟩ := (follows_online stage).1 follows
      refine ⟨_, c.reaches_act .farewell, mainLoop, .inl ?_⟩
      unfold Course.act
      rw [running]
    | true =>
      rw [Follows, stage] at follows
      exact ⟨c, .refl c, mainLoop, .inr follows⟩
  · exact ⟨c, .refl c, follows⟩

/-- A worker that is told to stop stops later. -/
theorem follows_shutdown (follows : l.Follows c) :
    { l with worker := l.worker.shutdown }.Follows c := by
  cases stage : l.stage with
  | underway s =>
    obtain ⟨underway, serves⟩ := (follows_underway stage).1 follows
    exact (follows_underway rfl).2 ⟨underway, serves.shutdown⟩
  | online mainLoop isOver =>
    cases isOver with
    | false =>
      obtain ⟨running, keeps⟩ := (follows_online stage).1 follows
      exact (follows_online rfl).2 ⟨running, keeps.shutdown⟩
    | true => simpa only [Follows, stage] using follows
  | leaving state => simpa only [Follows, stage] using follows
  | «over» result => cases result <;> simpa only [Follows, stage] using follows

end Steps

/-- What may happen in a life. -/
inductive Event
  | turn (m : Moment)
  /-- The device is told to leave. -/
  | leave (m : Moment)
  /-- The worker is told to stop. -/
  | shutdown

section Runs

variable (T : Transport τ) (publish : Uuid → String → String → Except DeviceError Unit)

/-- What happens next in a life. -/
def act (l : Life τ σ φ) : Event → Life τ σ φ
  | .turn m => (l.turn T publish m).1
  | .leave m => (l.leave m).1
  | .shutdown => { l with worker := l.worker.shutdown }

theorem follows_act {l : Life τ σ φ} {c : Course σ φ} (e : Event) (follows : l.Follows c) :
    ∃ c', c.Reaches c' ∧ (l.act T publish e).Follows c' := by
  cases e with
  | turn m => exact follows_turn publish m T follows
  | leave m => exact follows_leave m follows
  | shutdown => exact ⟨c, .refl c, follows_shutdown follows⟩

/-- **Every life is a course.** Whatever the transport receives, and whenever its turns come, a
device that lives with its worker does what it could do in a course. -/
theorem exists_course (link : τ) (settings : Settings) (d : DeviceSession σ φ)
    (events : List Event) :
    let life : Life τ σ φ := start link settings d
    ∃ incidents, (events.foldl (act T publish) life).Follows
      ((Course.start d life.worker.inboxCapacity).run incidents) := by
  intro life
  induction events using List.reverseRecOn with
  | nil => exact ⟨[], rfl, rfl, rfl, rfl, rfl, rfl, rfl⟩
  | append_singleton events e ih =>
    obtain ⟨incidents, follows⟩ := ih
    obtain ⟨_, ⟨more, rfl⟩, follows⟩ := follows_act T publish e follows
    refine ⟨incidents ++ more, ?_⟩
    rw [List.foldl_append, Course.run_append]
    exact follows

end Runs

end Life

end RelayDevice
