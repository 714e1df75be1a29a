import RelayDevice.Proofs.Link.Routing

/-!
# Runs of a worker

A pass of the worker takes time, and devices do not wait for its end. `Moment.work` cuts a pass into
steps between which anything may happen: a device attaches, leaves or queues a frame while frames
are being sent, the relay sends something, or the worker is told to stop. `Moment.act` is what
happens next, be it a step of the worker or not, and `Moment.run` is any number of happenings in any
order.

A worker that was told to stop does not begin another part of its pass, but sends what is still
queued and closes the transport. It may give that up at any point.

Where nothing happens between the steps, they add up to `Worker.pass`
(`exists_run_work_eq_pass`). The parts of a pass leave most of a worker alone, which
`applyCommands_eq`, `poll_eq`, `sendOne_eq`, `drain_eq` and `watch_eq` say by naming the rest.
-/

namespace RelayDevice

namespace Worker

variable {τ : Type}

/-! ### Moments -/

/-- Where a worker is between two of its steps. -/
inductive Stage
  /-- It has ended a pass, or all its passes. -/
  | resting
  /-- It is about to poll the transport. -/
  | receiving
  /-- It is sending what devices queued. -/
  | sending
  /-- It is about to watch the heartbeat. -/
  | watching
  /-- It is sending what is left before the transport is closed. -/
  | clearing
deriving DecidableEq

/-- A worker at some point of its work, with its transport. -/
structure Moment (τ : Type) where
  worker : Worker
  link : τ
  stage : Stage

/-- What may happen next. -/
inductive Happening (τ : Type)
  | attach (device : Uuid) (key : Bytes)
  | detach (device : Uuid)
  | queue (frame : Bytes)
  | read (device : Uuid)
  | closeInbox (device : Uuid)
  | shutdown
  /-- Something happens to the transport from outside, such as the arrival of a frame. -/
  | outside (change : τ → τ)
  /-- The worker has waited long enough for the transport to close. -/
  | giveUp
  /-- The worker takes its next step. -/
  | work (now : Nanoseconds)

namespace Moment

/-- A worker that begins. -/
def start (timeout : Nanoseconds) (sizes : QueueSizes) (link : τ) : Moment τ :=
  ⟨.start timeout sizes, link, .resting⟩

/-- The worker begins a pass, unless it is to do none any more. -/
def begin (x : Moment τ) : Moment τ :=
  if x.worker.phase ≠ .running then x
  else if x.worker.cancelled then { x with stage := .clearing }
  else
    let w := x.worker.applyCommands
    if w.isDeserted then { x with worker := { w with cancelled := true }, stage := .clearing }
    else { x with worker := w, stage := .receiving }

variable (T : Transport τ)

/-- The worker sends the oldest frame that is queued, if there is one. -/
def sendOldest (x : Moment τ) : Option (Moment τ) :=
  x.worker.outbound.pop.map fun (frame, outbound) =>
    let (w, t, _) := sendOne T frame { x.worker with outbound } x.link
    ⟨w, t, x.stage⟩

/-- The worker closes the transport. -/
def close (x : Moment τ) : Moment τ :=
  match T.close x.link with
  | (t, .hanging) => ⟨{ x.worker with phase := .closing }, t, .resting⟩
  | (t, .done) | (t, .failed) => ⟨x.worker.finalize, t, .resting⟩

/-- **One step of the worker.** A heartbeat that has failed is not helped by a new connection once
the worker is to stop. -/
def work (now : Nanoseconds) (x : Moment τ) : Moment τ :=
  match x.stage with
  | .resting => x.begin
  | .receiving =>
    if x.worker.cancelled then { x with stage := .clearing }
    else
      let (w, t, _) := poll T now x.worker x.link
      ⟨w, t, .sending⟩
  | .sending =>
    if x.worker.cancelled then { x with stage := .clearing }
    else (x.sendOldest T).getD { x with stage := .watching }
  | .watching =>
    if x.worker.cancelled then
      { x with
        worker := { x.worker with heartbeat := (x.worker.heartbeat.checkLiveness now).2 }
        stage := .resting }
    else
      let (w, t, _) := watch T now x.worker x.link
      ⟨w, t, .resting⟩
  | .clearing => (x.sendOldest T).getD (x.close T)

/-- The worker ends without waiting for the transport to close. -/
def giveUp (x : Moment τ) : Moment τ :=
  if x.stage = .clearing ∨ x.worker.phase = .closing then
    { x with worker := x.worker.finalize, stage := .resting }
  else x

/-- Changes the worker, unless the change is refused. -/
def change (x : Moment τ) (changed : Except NetworkError Worker) : Moment τ :=
  { x with worker := changed.toOption.getD x.worker }

/-- **What happens next.** A request that is refused changes nothing. -/
def act (x : Moment τ) : Happening τ → Moment τ
  | .attach device key => x.change (x.worker.attach device key)
  | .detach device => { x with worker := x.worker.detach device }
  | .queue frame => x.change (x.worker.queue frame)
  | .read device => { x with worker := (x.worker.read device).2 }
  | .closeInbox device => { x with worker := x.worker.closeInbox device }
  | .shutdown => { x with worker := x.worker.shutdown }
  | .outside change => { x with link := change x.link }
  | .giveUp => x.giveUp
  | .work now => x.work T now

/-- Any number of happenings. -/
def run (x : Moment τ) (happenings : List (Happening τ)) : Moment τ := happenings.foldl (act T) x

theorem run_cons (x : Moment τ) (e : Happening τ) (happenings : List (Happening τ)) :
    x.run T (e :: happenings) = (x.act T e).run T happenings := rfl

theorem run_append (x : Moment τ) (before later : List (Happening τ)) :
    x.run T (before ++ later) = (x.run T before).run T later := List.foldl_append

end Moment

/-! ### What the parts of a pass leave alone -/

section Parts

variable {w : Worker} {t : τ} {now : Nanoseconds} {frame : Bytes} {T : Transport τ}

theorem foldl_applyCommand_eq (commands : List WorkerCommand) (w : Worker) :
    commands.foldl applyCommand w
      = { w with
          attached := (commands.foldl applyCommand w).attached
          detached := (commands.foldl applyCommand w).detached
          hadDevices := (commands.foldl applyCommand w).hadDevices } := by
  induction commands generalizing w with
  | nil => rfl
  | cons c commands ih =>
    refine (ih _).trans ?_
    cases c <;> rfl

/-- Commands are about who is attached. -/
theorem applyCommands_eq (w : Worker) :
    w.applyCommands
      = { w with
          commands := []
          attached := w.applyCommands.attached
          detached := w.applyCommands.detached
          hadDevices := w.applyCommands.hadDevices } := foldl_applyCommand_eq _ _

theorem route_eq :
    (w.route now frame).1
      = { w with
          heartbeat := (w.route now frame).1.heartbeat
          attached := (w.route now frame).1.attached } := by
  obtain ⟨m, -, -, routed⟩ | ⟨-, heartbeat, routed⟩ := route_cases w now frame
  · rw [routed]
    rfl
  · rw [routed]

theorem renew_eq {α : Type} (s : Served τ α) :
    w.renew s = { w with heartbeat := (w.renew s).heartbeat } := by
  unfold renew
  split <;> rfl

/-- A frame that arrives is for the heartbeat and the devices. -/
theorem poll_eq :
    (poll T now w t).1
      = { w with
          heartbeat := (poll T now w t).1.heartbeat
          attached := (poll T now w t).1.attached } := by
  unfold poll
  dsimp only
  split
  · rw [renew_eq]
  · rw [renew_eq]
  · rw [route_eq, renew_eq]

/-- Sending concerns only the heartbeat. -/
theorem sendOne_eq :
    (sendOne T frame w t).1 = { w with heartbeat := (sendOne T frame w t).1.heartbeat } := by
  unfold sendOne
  split
  · rfl
  · dsimp only
    split
    · rw [renew_eq]
    · rw [renew_eq]

theorem sendAll_eq (frames : List Bytes) :
    (sendAll T frames w t).1 = { w with heartbeat := (sendAll T frames w t).1.heartbeat } := by
  induction frames generalizing w t with
  | nil => rfl
  | cons frame frames ih =>
    rw [sendAll]
    dsimp only
    rw [ih, sendOne_eq]

/-- Nothing is queued any more. -/
theorem drain_eq :
    (drain T w t).1
      = { w with
          heartbeat := (drain T w t).1.heartbeat
          outbound := { w.outbound with items := [] } } := sendAll_eq _

/-- Watching the heartbeat concerns nothing else. -/
theorem watch_eq :
    (watch T now w t).1 = { w with heartbeat := (watch T now w t).1.heartbeat } := by
  unfold watch
  split
  · rfl
  · dsimp only
    split <;> rw [renew_eq]

end Parts

/-! ### Steps that make a pass -/

/-- Changes what is queued. -/
def withQueued (w : Worker) (frames : List Bytes) : Worker :=
  { w with outbound := { w.outbound with items := frames } }

section Steps

variable {T : Transport τ} {w : Worker} {t : τ} {now : Nanoseconds} {frame : Bytes}

/-- What else is queued does not matter when a frame is sent. -/
theorem sendOne_withQueued (frames : List Bytes) :
    sendOne T frame (w.withQueued frames) t
      = ((sendOne T frame w t).1.withQueued frames, (sendOne T frame w t).2) := by
  unfold sendOne withQueued
  dsimp only
  split
  · rfl
  · unfold renew
    dsimp only
    split <;> split <;> rfl

namespace Moment

variable {stage : Stage}

/-- A worker sends while it is at that part of its pass and was not told to stop, and also before it
closes the transport. -/
def Sends (w : Worker) (stage : Stage) : Prop :=
  stage = .sending ∧ w.cancelled = false ∨ stage = .clearing

theorem work_of_sends (sends : Sends w stage) (frames : List Bytes) :
    work T now ⟨w.withQueued (frame :: frames), t, stage⟩
      = ⟨(sendOne T frame w t).1.withQueued frames, (sendOne T frame w t).2.1, stage⟩ := by
  have oldest : sendOldest T ⟨w.withQueued (frame :: frames), t, stage⟩
      = some ⟨(sendOne T frame w t).1.withQueued frames, (sendOne T frame w t).2.1, stage⟩ := by
    change some (Moment.mk (sendOne T frame (w.withQueued frames) t).1
      (sendOne T frame (w.withQueued frames) t).2.1 stage) = _
    rw [sendOne_withQueued]
  rcases sends with ⟨rfl, going⟩ | rfl
  · have going : (w.withQueued (frame :: frames)).cancelled = false := going
    simp only [work, going, Bool.false_eq_true, if_false, oldest, Option.getD_some]
  · simp only [work, oldest, Option.getD_some]

/-- **One frame a step.** After as many steps as frames are queued, all of them have been sent. -/
theorem run_work_eq_sendAll (sends : Sends w stage) (now : Nanoseconds) (frames : List Bytes) :
    run T ⟨w.withQueued frames, t, stage⟩ (List.replicate frames.length (.work now))
      = ⟨(sendAll T frames (w.withQueued []) t).1, (sendAll T frames (w.withQueued []) t).2.1,
          stage⟩ := by
  induction frames generalizing w t with
  | nil => rfl
  | cons frame frames ih =>
    have still : Sends (sendOne T frame w t).1 stage := by
      rw [sendOne_eq]
      exact sends
    rw [List.length_cons, List.replicate_succ, run_cons, act, work_of_sends sends, ih still,
      sendAll, sendOne_withQueued]

/-- The frames that were queued have been sent, and the worker is still at the same part. -/
theorem run_work_eq_drain (sends : Sends w stage) (now : Nanoseconds) :
    run T ⟨w, t, stage⟩ (List.replicate w.outbound.items.length (.work now))
      = ⟨(drain T w t).1, (drain T w t).2.1, stage⟩ :=
  run_work_eq_sendAll sends now w.outbound.items

theorem sendOldest_drain : sendOldest T ⟨(drain T w t).1, (drain T w t).2.1, stage⟩ = none := by
  rw [drain_eq]
  rfl

/-- Nothing is left to be sent, so the next step is to close the transport. -/
theorem run_work_eq_finish (told : w.cancelled = true) (now : Nanoseconds) :
    run T ⟨w, t, .clearing⟩ (List.replicate (w.outbound.items.length + 1) (.work now))
      = ⟨(finish T w t).1, (finish T w t).2.1, .resting⟩ := by
  have same : { w with cancelled := true } = w := by rw [← told]
  rw [List.replicate_succ', run_append, run_work_eq_drain (.inr rfl), run_cons, act, work,
    sendOldest_drain, Option.getD_none, close, finish, same]
  dsimp only
  cases T.close (drain T w t).2.1 with
  | mk t closing => cases closing <;> rfl

/-- The worker sends what is queued, and then watches the heartbeat. -/
theorem run_work_eq_watch (going : w.cancelled = false) (now later : Nanoseconds) :
    run T ⟨w, t, .sending⟩
        (List.replicate w.outbound.items.length (.work now) ++ [.work now, .work later])
      = ⟨(watch T later (drain T w t).1 (drain T w t).2.1).1,
          (watch T later (drain T w t).1 (drain T w t).2.1).2.1, .resting⟩ := by
  have still : (drain T w t).1.cancelled = false := by
    rw [drain_eq]
    exact going
  have sent : work T now ⟨(drain T w t).1, (drain T w t).2.1, .sending⟩
      = ⟨(drain T w t).1, (drain T w t).2.1, .watching⟩ := by
    simp only [work, still, Bool.false_eq_true, if_false, sendOldest_drain, Option.getD_none]
  rw [run_append, run_work_eq_drain (.inl ⟨rfl, going⟩), run_cons, act, sent, run_cons, act]
  simp only [work, still, Bool.false_eq_true, if_false]
  rfl

section Begin

variable (running : w.phase = .running)

include running

theorem begin_of_cancelled (told : w.cancelled = true) :
    begin ⟨w, t, .resting⟩ = ⟨w, t, .clearing⟩ := by
  rw [begin, if_neg (not_not.2 running), if_pos told]

theorem begin_of_deserted (going : w.cancelled = false) (deserted : w.applyCommands.isDeserted) :
    begin ⟨w, t, .resting⟩ = ⟨{ w.applyCommands with cancelled := true }, t, .clearing⟩ := by
  rw [begin, if_neg (not_not.2 running), if_neg (Bool.not_eq_true _ ▸ going)]
  exact if_pos deserted

theorem begin_of_not_deserted (going : w.cancelled = false)
    (served : w.applyCommands.isDeserted = false) :
    begin ⟨w, t, .resting⟩ = ⟨w.applyCommands, t, .receiving⟩ := by
  rw [begin, if_neg (not_not.2 running), if_neg (Bool.not_eq_true _ ▸ going)]
  exact if_neg (Bool.not_eq_true _ ▸ served)

end Begin

/-- **A pass is made of steps.** Where nothing else happens meanwhile, the steps of the worker add
up to what it does in a pass. -/
theorem exists_run_work_eq_pass (T : Transport τ) (now later : Nanoseconds) (w : Worker) (t : τ) :
    ∃ times : List Nanoseconds, run T ⟨w, t, .resting⟩ (times.map .work)
      = ⟨(pass T now later w t).1, (pass T now later w t).2.1, .resting⟩ := by
  unfold pass
  by_cases running : w.phase = .running
  swap
  · -- the worker has done its last pass
    exact ⟨[], by rw [if_pos running]; rfl⟩
  rw [if_neg (not_not.2 running)]
  have begins (times : List Nanoseconds) : run T ⟨w, t, .resting⟩ ((now :: times).map .work)
      = run T (begin ⟨w, t, .resting⟩) (times.map .work) := rfl
  cases told : w.cancelled with
  | true =>
    refine ⟨now :: List.replicate (w.outbound.items.length + 1) now, ?_⟩
    rw [begins, begin_of_cancelled running told, List.map_replicate]
    exact run_work_eq_finish told now
  | false =>
    have going : w.applyCommands.cancelled = false := by rw [applyCommands_eq, told]
    cases deserted : w.applyCommands.isDeserted with
    | true =>
      refine ⟨now :: List.replicate (w.applyCommands.outbound.items.length + 1) now, ?_⟩
      rw [begins, begin_of_deserted running told deserted, List.map_replicate]
      simp only [deserted, if_true, Bool.false_eq_true, if_false]
      exact run_work_eq_finish (w := { w.applyCommands with cancelled := true }) rfl now
    | false =>
      -- nobody tells the worker to stop while it polls
      let polled := poll T now w.applyCommands t
      have still : polled.1.cancelled = false := by
        rw [show polled.1 = _ from poll_eq]
        exact going
      have polls : work T now ⟨w.applyCommands, t, .receiving⟩
          = ⟨polled.1, polled.2.1, .sending⟩ := by
        simp only [work, going, Bool.false_eq_true, if_false]
        rfl
      refine ⟨now :: now :: (List.replicate polled.1.outbound.items.length now ++ [now, later]), ?_⟩
      rw [begins, begin_of_not_deserted running told deserted, List.map_cons, run_cons, act, polls,
        List.map_append, List.map_replicate]
      simp only [deserted, Bool.false_eq_true, if_false]
      exact run_work_eq_watch still now later

end Moment

end Steps

end Worker

end RelayDevice
