import RelayDevice.Proofs.Link.Run

/-!
# What can happen to a worker

`Worker.Moment.Acts` lists what can happen to a worker, each with the circumstances and with what it
changes, and `Worker.Moment.Steps` does the same for the steps of the worker itself. Nothing else
happens (`Worker.Moment.acts_act`, `Worker.Moment.steps_work`), so whatever a run keeps is proved by
one look at each case.

A worker either still does its passes or is through (`Worker.Moment.isThrough_run`).
-/

namespace RelayDevice

namespace Worker

namespace Moment

variable {τ : Type} (T : Transport τ)

/-! ### What comes of a run -/

section Collect

variable {α : Type} (gives : Moment τ → Happening τ → List α)

/-- What all happenings of a run give, where each gives something at the moment it comes. -/
def collect (x : Moment τ) : List (Happening τ) → List α
  | [] => []
  | e :: happenings => gives x e ++ (x.act T e).collect happenings

theorem collect_append (x : Moment τ) (before later : List (Happening τ)) :
    x.collect T gives (before ++ later)
      = x.collect T gives before ++ (x.run T before).collect T gives later := by
  induction before generalizing x with
  | nil => rfl
  | cons e before ih => rw [List.cons_append, collect, collect, ih, List.append_assoc, run_cons]

theorem collect_append_singleton (x : Moment τ) (before : List (Happening τ)) (e : Happening τ) :
    x.collect T gives (before ++ [e]) = x.collect T gives before ++ gives (x.run T before) e := by
  rw [collect_append, collect, collect, List.append_nil]

end Collect

/-! ### What a step of the worker can be -/

section Oldest

variable {w : Worker} {t : τ} {stage : Stage} {frame : Bytes} {frames : List Bytes}

theorem sendOldest_of_nil (sent : w.outbound.items = []) :
    sendOldest T ⟨w, t, stage⟩ = none := by
  simp only [sendOldest, BoundedQueue.pop, sent, Option.map_none]

theorem sendOldest_of_cons (waiting : w.outbound.items = frame :: frames) :
    sendOldest T ⟨w, t, stage⟩ = some ⟨{ w with
      heartbeat := (sendOne T frame w t).1.heartbeat
      outbound := { w.outbound with items := frames } }, (sendOne T frame w t).2.1, stage⟩ := by
  have sent : sendOldest T ⟨w, t, stage⟩ = some ⟨(sendOne T frame (w.withQueued frames) t).1,
      (sendOne T frame (w.withQueued frames) t).2.1, stage⟩ := by
    simp only [sendOldest, BoundedQueue.pop, waiting, Option.map_some]
    rfl
  -- what waits behind the frame does not matter
  rw [sent, sendOne_withQueued, sendOne_eq]
  rfl

/-- A transport may take its time to close. -/
theorem close_eq (x : Moment τ) : x.close T = ⟨if (T.close x.link).2 = .hanging then
    { x.worker with phase := .closing } else x.worker.finalize, (T.close x.link).1, .resting⟩ := by
  unfold close
  rcases T.close x.link with ⟨t, closing⟩
  cases closing <;> rfl

end Oldest

/-- **The steps of a worker**, each with the circumstances in which it is taken and what it
changes. -/
inductive Steps (now : Nanoseconds) : Moment τ → Moment τ → Prop
  /-- All passes are done. -/
  | rest {w : Worker} {t : τ} (through : w.phase ≠ .running) :
    Steps now ⟨w, t, .resting⟩ ⟨w, t, .resting⟩
  /-- The worker was told to stop, and turns to what is left. -/
  | stop {w : Worker} {t : τ} {stage : Stage} (told : w.cancelled = true)
      (midway : stage = .resting ∧ w.phase = .running ∨ stage = .receiving ∨ stage = .sending) :
    Steps now ⟨w, t, stage⟩ ⟨w, t, .clearing⟩
  /-- The last device has left. -/
  | desert {w : Worker} {t : τ} (running : w.phase = .running) (going : w.cancelled = false)
      (deserted : w.applyCommands.isDeserted = true) :
    Steps now ⟨w, t, .resting⟩ ⟨{ w with
      commands := []
      attached := w.applyCommands.attached
      detached := w.applyCommands.detached
      hadDevices := w.applyCommands.hadDevices
      cancelled := true }, t, .clearing⟩
  | begin {w : Worker} {t : τ} (running : w.phase = .running) (going : w.cancelled = false)
      (served : w.applyCommands.isDeserted = false) :
    Steps now ⟨w, t, .resting⟩ ⟨{ w with
      commands := []
      attached := w.applyCommands.attached
      detached := w.applyCommands.detached
      hadDevices := w.applyCommands.hadDevices }, t, .receiving⟩
  | poll {w : Worker} {t : τ} (going : w.cancelled = false) :
    Steps now ⟨w, t, .receiving⟩ ⟨{ w with
      heartbeat := (Worker.poll T now w t).1.heartbeat
      attached := (Worker.poll T now w t).1.attached }, (Worker.poll T now w t).2.1, .sending⟩
  | send {w : Worker} {t : τ} {stage : Stage} {frame : Bytes} {frames : List Bytes}
      (sends : Sends w stage) (waiting : w.outbound.items = frame :: frames) :
    Steps now ⟨w, t, stage⟩ ⟨{ w with
      heartbeat := (sendOne T frame w t).1.heartbeat
      outbound := { w.outbound with items := frames } }, (sendOne T frame w t).2.1, stage⟩
  /-- Everything was sent. -/
  | turn {w : Worker} {t : τ} (going : w.cancelled = false) (sent : w.outbound.items = []) :
    Steps now ⟨w, t, .sending⟩ ⟨w, t, .watching⟩
  /-- The heartbeat is watched, but a new connection is of no use any more. -/
  | glance {w : Worker} {t : τ} (told : w.cancelled = true) :
    Steps now ⟨w, t, .watching⟩
      ⟨{ w with heartbeat := (w.heartbeat.checkLiveness now).2 }, t, .resting⟩
  | watch {w : Worker} {t : τ} (going : w.cancelled = false) :
    Steps now ⟨w, t, .watching⟩ ⟨{ w with heartbeat := (Worker.watch T now w t).1.heartbeat },
      (Worker.watch T now w t).2.1, .resting⟩
  | close {w : Worker} {t : τ} (sent : w.outbound.items = []) (closes : (T.close t).2 ≠ .hanging) :
    Steps now ⟨w, t, .clearing⟩ ⟨w.finalize, (T.close t).1, .resting⟩
  /-- The worker waits for the transport to close. -/
  | hang {w : Worker} {t : τ} (sent : w.outbound.items = []) (hangs : (T.close t).2 = .hanging) :
    Steps now ⟨w, t, .clearing⟩ ⟨{ w with phase := .closing }, (T.close t).1, .resting⟩

/-- **Nothing else** is a step. -/
theorem steps_work (now : Nanoseconds) (x : Moment τ) : Steps T now x (x.work T now) := by
  rcases x with ⟨w, t, stage⟩
  cases stage with
  | resting =>
    change Steps T now ⟨w, t, .resting⟩ (begin ⟨w, t, .resting⟩)
    by_cases running : w.phase = .running
    · cases told : w.cancelled with
      | true =>
        rw [begin_of_cancelled running told]
        exact .stop told (.inl ⟨rfl, running⟩)
      | false =>
        cases deserted : w.applyCommands.isDeserted with
        | true =>
          rw [begin_of_deserted running told deserted, applyCommands_eq]
          exact .desert running told deserted
        | false =>
          rw [begin_of_not_deserted running told deserted, applyCommands_eq]
          exact .begin running told deserted
    · rw [begin, if_pos running]
      exact .rest running
  | receiving =>
    simp only [work]
    by_cases told : w.cancelled = true
    · rw [if_pos told]
      exact .stop told (.inr (.inl rfl))
    · rw [if_neg told]
      rw [poll_eq]
      exact .poll (Bool.not_eq_true _ ▸ told)
  | sending =>
    simp only [work]
    by_cases told : w.cancelled = true
    · rw [if_pos told]
      exact .stop told (.inr (.inr rfl))
    · rw [if_neg told]
      have going : w.cancelled = false := Bool.not_eq_true _ ▸ told
      cases waiting : w.outbound.items with
      | nil =>
        rw [sendOldest_of_nil T waiting]
        exact .turn going waiting
      | cons frame frames =>
        rw [sendOldest_of_cons T waiting]
        exact .send (.inl ⟨rfl, going⟩) waiting
  | watching =>
    simp only [work]
    by_cases told : w.cancelled = true
    · rw [if_pos told]
      exact .glance told
    · rw [if_neg told]
      rw [watch_eq]
      exact .watch (Bool.not_eq_true _ ▸ told)
  | clearing =>
    simp only [work]
    cases waiting : w.outbound.items with
    | nil =>
      rw [sendOldest_of_nil T waiting, Option.getD_none, close_eq]
      dsimp only
      split
      · next hangs => exact .hang waiting hangs
      · next closes => exact .close waiting closes
    | cons frame frames =>
      rw [sendOldest_of_cons T waiting]
      exact .send (.inr rfl) waiting

/-! ### What a happening can be -/

section Happenings

variable (x : Moment τ)

theorem read_eq (w : Worker) (device : Uuid) : (w.read device).2 =
    { w with attached := (w.read device).2.attached, detached := (w.read device).2.detached } := by
  unfold read
  split
  · split <;> rfl
  · split
    · split <;> rfl
    · rfl

/-- **What can happen**, and what it changes: a device asks for something, the world outside moves,
or the worker takes its next step. -/
inductive Acts : Moment τ → Happening τ → Moment τ → Prop
  | attach {w : Worker} {t : τ} {stage : Stage} {device : Uuid} {key : Bytes}
      (going : w.phase ≠ .ended) :
    Acts ⟨w, t, stage⟩ (.attach device key) ⟨{ w with
      commands := w.commands ++ [.attach device ⟨key, .empty w.inboxCapacity⟩] }, t, stage⟩
  /-- The worker has ended. -/
  | late {w : Worker} {t : τ} {stage : Stage} {device : Uuid} {key : Bytes}
      (ended : w.phase = .ended) : Acts ⟨w, t, stage⟩ (.attach device key) ⟨w, t, stage⟩
  | detach {w : Worker} {t : τ} {stage : Stage} {device : Uuid} (going : w.phase ≠ .ended) :
    Acts ⟨w, t, stage⟩ (.detach device)
      ⟨{ w with commands := w.commands ++ [.detach device] }, t, stage⟩
  /-- There is nothing left to be detached from. -/
  | gone {w : Worker} {t : τ} {stage : Stage} {device : Uuid} (ended : w.phase = .ended) :
    Acts ⟨w, t, stage⟩ (.detach device) ⟨w, t, stage⟩
  | queue {w : Worker} {t : τ} {stage : Stage} {frame : Bytes} {outbound : BoundedQueue Bytes}
      (pushed : w.outbound.push frame = .ok outbound) :
    Acts ⟨w, t, stage⟩ (.queue frame) ⟨{ w with outbound }, t, stage⟩
  | refuse {w : Worker} {t : τ} {stage : Stage} {frame : Bytes} {refusal : QueueRefusal}
      (refused : w.outbound.push frame = .error refusal) :
    Acts ⟨w, t, stage⟩ (.queue frame) ⟨w, t, stage⟩
  | read {w : Worker} {t : τ} {stage : Stage} (device : Uuid) :
    Acts ⟨w, t, stage⟩ (.read device) ⟨{ w with
      attached := (w.read device).2.attached, detached := (w.read device).2.detached }, t, stage⟩
  | closeInbox {w : Worker} {t : τ} {stage : Stage} (device : Uuid) :
    Acts ⟨w, t, stage⟩ (.closeInbox device) ⟨w.closeInbox device, t, stage⟩
  | shutdown {w : Worker} {t : τ} {stage : Stage} :
    Acts ⟨w, t, stage⟩ .shutdown ⟨{ w with cancelled := true }, t, stage⟩
  | outside {w : Worker} {t : τ} {stage : Stage} (change : τ → τ) :
    Acts ⟨w, t, stage⟩ (.outside change) ⟨w, change t, stage⟩
  | giveUp {w : Worker} {t : τ} {stage : Stage} (leaving : stage = .clearing ∨ w.phase = .closing) :
    Acts ⟨w, t, stage⟩ .giveUp ⟨w.finalize, t, .resting⟩
  /-- There is nothing to be given up. -/
  | persist {w : Worker} {t : τ} {stage : Stage}
      (early : ¬ (stage = .clearing ∨ w.phase = .closing)) :
    Acts ⟨w, t, stage⟩ .giveUp ⟨w, t, stage⟩
  | work {x y : Moment τ} {now : Nanoseconds} (step : Steps T now x y) : Acts x (.work now) y

/-- **Nothing else** can happen. -/
theorem acts_act (e : Happening τ) : Acts T x e (x.act T e) := by
  rcases x with ⟨w, t, stage⟩
  cases e with
  | work now => exact .work (steps_work T now _)
  | attach device key =>
    change Acts T _ _ (change ⟨w, t, stage⟩ (w.attach device key))
    unfold Worker.attach
    split
    · next ended => exact .late ended
    · next going => exact .attach going
  | detach device =>
    change Acts T _ _ ⟨w.detach device, t, stage⟩
    unfold Worker.detach
    split
    · next ended => exact .gone ended
    · next going => exact .detach going
  | queue frame =>
    change Acts T _ _ (change ⟨w, t, stage⟩ (w.queue frame))
    unfold Worker.queue
    cases pushed : w.outbound.push frame with
    | ok outbound => exact .queue pushed
    | error refusal => cases refusal <;> exact .refuse pushed
  | read device =>
    change Acts T _ _ ⟨(w.read device).2, t, stage⟩
    rw [read_eq]
    exact .read device
  | closeInbox device => exact .closeInbox device
  | shutdown => exact .shutdown
  | outside change => exact .outside change
  | giveUp =>
    change Acts T _ _ (Moment.giveUp ⟨w, t, stage⟩)
    unfold Moment.giveUp
    split
    · next leaving => exact .giveUp leaving
    · next early => exact .persist early

end Happenings

/-! ### When all is done -/

/-- The worker does no passes any more, and rests. -/
structure IsThrough (x : Moment τ) : Prop where
  phase : x.worker.phase ≠ .running
  stage : x.stage = .resting

theorem isThrough_close (x : Moment τ) : (x.close T).IsThrough := by
  rw [close_eq]
  refine ⟨?_, rfl⟩
  dsimp only
  split <;> exact nofun

variable {T} {x : Moment τ} {e : Happening τ} {happenings : List (Happening τ)}

/-- A worker that is through stays so. -/
theorem IsThrough.act (through : x.IsThrough) (e : Happening τ) : (x.act T e).IsThrough := by
  have acts := acts_act T x e
  generalize x.act T e = y at acts
  cases acts with
  | attach _ | late _ | detach _ | gone _ | queue _ | refuse _ | read _ | closeInbox _ | shutdown
  | outside _ | persist _ => exact ⟨through.phase, through.stage⟩
  | giveUp leaving => exact ⟨nofun, rfl⟩
  | work step =>
    obtain ⟨phase, stage⟩ := through
    -- any other step is taken at another stage, or while there are passes to be done
    cases step with
    | rest through => exact ⟨phase, stage⟩
    | stop told midway =>
      rcases midway with ⟨-, running⟩ | rfl | rfl
      · exact absurd running phase
      · cases stage
      · cases stage
    | desert running _ _ | begin running _ _ => exact absurd running phase
    | send sends waiting =>
      rcases sends with ⟨rfl, -⟩ | rfl
      · cases stage
      · cases stage
    | poll _ | turn _ _ | glance _ | watch _ | close _ _ | hang _ _ => cases stage

theorem IsThrough.run (through : x.IsThrough) (happenings : List (Happening τ)) :
    (x.run T happenings).IsThrough := by
  induction happenings generalizing x with
  | nil => exact through
  | cons e happenings ih => exact ih (through.act e)

/-- A worker ends its passes while it is clearing, either with nothing left to be sent or because it
gives up, and is through at once. -/
theorem running_act (running : x.worker.phase = .running) (e : Happening τ) :
    (x.act T e).worker.phase = .running ∨
    ((x.act T e).IsThrough ∧ x.stage = .clearing ∧
      (e = .giveUp ∨ (∃ now, e = .work now) ∧ x.worker.outbound.items = [])) := by
  have acts := acts_act T x e
  generalize x.act T e = y at acts
  cases acts with
  | attach _ | late _ | detach _ | gone _ | queue _ | refuse _ | read _ | closeInbox _ | shutdown
  | outside _ | persist _ => exact .inl running
  | giveUp leaving =>
    have clearing := leaving.resolve_right fun closing => nomatch running.symm.trans closing
    exact .inr ⟨⟨nofun, rfl⟩, clearing, .inl rfl⟩
  | work step =>
    -- of the steps, only the last one ends the passes
    cases step with
    | close sent _ | hang sent _ => exact .inr ⟨⟨nofun, rfl⟩, rfl, .inr ⟨⟨_, rfl⟩, sent⟩⟩
    | rest through => exact absurd running through
    | _ => exact .inl running

/-- **One or the other.** A worker either still does its passes or is through. -/
theorem isThrough_run (running : x.worker.phase = .running) (happenings : List (Happening τ)) :
    (x.run T happenings).worker.phase = .running ∨ (x.run T happenings).IsThrough := by
  induction happenings using List.reverseRecOn with
  | nil => exact .inl running
  | append_singleton happenings e ih =>
    rw [run_append]
    rcases ih with running | through
    · exact (running_act running e).imp_right And.left
    · exact .inr (through.act e)

end Moment

end Worker

end RelayDevice
