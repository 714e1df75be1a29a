import RelayDevice.Proofs.Link.Steps

/-!
# What a transport is asked to do

A transport knows neither queue nor gate: all that it sees of a worker is the operations that it is
asked for, one after the other. `Transport.traced` is a transport that puts them down
(`TransportCall`) and does otherwise what it did before.

* `Worker.Moment.calls` names what the transport is asked for by each happening, and
  `Worker.Moment.act_traced` and `Worker.Moment.run_traced` say that this is what is put down,
  and that the record changes nothing else. What is proved of the calls of a run therefore holds of
  the transport itself.
* A worker that is through turns to the transport no more. So it closes the transport once, with
  nothing left to send, and that is the last thing it asks for
  (`Worker.Moment.exists_of_close_mem_calls`).

A worker that sends has put the frame to the gate before. A frame that is held back leaves no trace
in the record.
-/

namespace RelayDevice

/-- What a transport is asked to do. -/
inductive TransportCall
  | receive
  | send (frame : Bytes)
  | reconnect
  | close
deriving DecidableEq

/-- The frame that a transport is asked to send. -/
def TransportCall.sent? : TransportCall → Option Bytes
  | send frame => some frame
  | receive | reconnect | close => none

/-- A transport with the record of what it was asked for, the oldest first. -/
structure Traced (τ : Type) where
  link : τ
  calls : List TransportCall

/-- What an operation gives, with a record beside the transport. -/
def Served.noted {τ α : Type} (s : Served τ α) (calls : List TransportCall) :
    Served (Traced τ) α :=
  ⟨⟨s.transport, calls⟩, s.renewed, s.result⟩

/-- **A record of all calls.** Each operation does what it did, and is put down. -/
def Transport.traced {τ : Type} (T : Transport τ) : Transport (Traced τ) where
  name := T.name
  receive r := (T.receive r.link).noted (r.calls ++ [.receive])
  send r frame := (T.send r.link frame).noted (r.calls ++ [.send frame])
  reconnect r := (T.reconnect r.link).noted (r.calls ++ [.reconnect])
  close r := (⟨(T.close r.link).1, r.calls ++ [.close]⟩, (T.close r.link).2)

namespace Worker

variable {τ : Type} (T : Transport τ) (w : Worker) (t : τ) (now : Nanoseconds) (frame : Bytes)

/-! ### The parts of a pass -/

section Parts

variable (calls : List TransportCall)

theorem poll_traced : poll T.traced now w ⟨t, calls⟩
    = ((poll T now w t).1, ⟨(poll T now w t).2.1, calls ++ [.receive]⟩, (poll T now w t).2.2) := by
  unfold poll
  dsimp only [Transport.traced, Served.noted]
  rcases T.receive t with ⟨t, renewed, e | received⟩
  · rfl
  · cases received <;> rfl

/-- What a transport is asked for when a frame is to be sent. -/
def sendCalls : List TransportCall :=
  if (w.heartbeat.gate frame).1 then [.send frame] else []

theorem sendOne_traced : sendOne T.traced frame w ⟨t, calls⟩
    = ((sendOne T frame w t).1, ⟨(sendOne T frame w t).2.1, calls ++ w.sendCalls frame⟩,
        (sendOne T frame w t).2.2) := by
  unfold sendOne sendCalls
  rcases w.heartbeat.gate frame with ⟨_ | _, heartbeat⟩
  · simp
  · dsimp only [Transport.traced, Served.noted]
    rcases T.send t frame with ⟨t, renewed, e | sent⟩ <;> rfl

/-- What a transport is asked for when the heartbeat is watched. -/
def watchCalls : List TransportCall :=
  if (w.heartbeat.checkLiveness now).1.isOk then [] else [.reconnect]

theorem watch_traced : watch T.traced now w ⟨t, calls⟩
    = ((watch T now w t).1, ⟨(watch T now w t).2.1, calls ++ w.watchCalls now⟩,
        (watch T now w t).2.2) := by
  unfold watch watchCalls
  rcases w.heartbeat.checkLiveness now with ⟨e | up, heartbeat⟩
  · dsimp only [Transport.traced, Served.noted]
    rcases T.reconnect t with ⟨t, renewed, e | replaced⟩ <;> rfl
  · simp [Except.isOk, Except.toBool]

end Parts

/-! ### The record of a run -/

/-- The same happening to a transport with a record, of which the outside knows nothing. -/
def Happening.traced : Happening τ → Happening (Traced τ)
  | .attach device key => .attach device key
  | .detach device => .detach device
  | .queue frame => .queue frame
  | .read device => .read device
  | .closeInbox device => .closeInbox device
  | .shutdown => .shutdown
  | .outside change => .outside fun r => { r with link := change r.link }
  | .giveUp => .giveUp
  | .work now => .work now

namespace Moment

/-- The same moment, with a record beside the transport. -/
def withCalls (x : Moment τ) (calls : List TransportCall) : Moment (Traced τ) :=
  ⟨x.worker, ⟨x.link, calls⟩, x.stage⟩

/-- What the transport is asked for when the oldest frame is to be sent. -/
def sendOldestCalls (x : Moment τ) : List TransportCall :=
  match x.worker.outbound.items with
  | [] => []
  | frame :: _ => x.worker.sendCalls frame

/-- What the transport is asked for by a step of the worker. -/
def workCalls (now : Nanoseconds) (x : Moment τ) : List TransportCall :=
  match x.stage with
  | .resting => []
  | .receiving => if x.worker.cancelled then [] else [.receive]
  | .sending => if x.worker.cancelled then [] else x.sendOldestCalls
  | .watching => if x.worker.cancelled then [] else x.worker.watchCalls now
  | .clearing => if x.worker.outbound.items = [] then [.close] else x.sendOldestCalls

/-- What the transport is asked for by a happening. -/
def calls (x : Moment τ) : Happening τ → List TransportCall
  | .work now => x.workCalls now
  | _ => []

variable (x : Moment τ) (record : List TransportCall)

theorem sendOldest_traced : (x.withCalls record).sendOldest T.traced
    = (x.sendOldest T).map fun y => y.withCalls (record ++ x.sendOldestCalls) := by
  unfold sendOldest sendOldestCalls BoundedQueue.pop withCalls
  dsimp only
  cases x.worker.outbound.items with
  | nil => rfl
  | cons frame frames =>
    dsimp only [Option.map_some]
    rw [sendOne_traced]
    rfl

theorem begin_traced : (x.withCalls record).begin = x.begin.withCalls record := by
  unfold begin withCalls
  dsimp only
  split
  · rfl
  · split
    · rfl
    · split <;> rfl

theorem close_traced :
    (x.withCalls record).close T.traced = (x.close T).withCalls (record ++ [.close]) := by
  unfold close withCalls
  dsimp only [Transport.traced]
  rcases T.close x.link with ⟨t, closing⟩
  cases closing <;> rfl

theorem work_traced : (x.withCalls record).work T.traced now
    = (x.work T now).withCalls (record ++ x.workCalls now) := by
  have oldest := sendOldest_traced T x record
  rcases x with ⟨w, t, stage⟩
  cases stage with
  | resting =>
    change begin (withCalls ⟨w, t, .resting⟩ record) = _
    rw [begin_traced, workCalls, List.append_nil]
    rfl
  | receiving =>
    simp only [work, workCalls, withCalls]
    by_cases told : w.cancelled = true
    · simp [told]
    · simp [told, poll_traced]
  | sending =>
    simp only [work, workCalls]
    change (if w.cancelled then withCalls ⟨w, t, .clearing⟩ record
      else (sendOldest T.traced (withCalls ⟨w, t, .sending⟩ record)).getD
        (withCalls ⟨w, t, .watching⟩ record)) = _
    rw [oldest]
    by_cases told : w.cancelled = true
    · simp [told]
    · -- where nothing is queued, nothing is asked for
      cases waiting : w.outbound.items <;>
        simp [told, sendOldest, sendOldestCalls, BoundedQueue.pop, waiting]
  | watching =>
    simp only [work, workCalls, withCalls]
    by_cases told : w.cancelled = true
    · simp [told]
    · simp [told, watch_traced]
  | clearing =>
    simp only [work, workCalls]
    change (sendOldest T.traced (withCalls ⟨w, t, .clearing⟩ record)).getD
      (close T.traced (withCalls ⟨w, t, .clearing⟩ record)) = _
    rw [oldest, close_traced]
    cases waiting : w.outbound.items <;>
      simp [sendOldest, sendOldestCalls, BoundedQueue.pop, waiting]

/-- **The calls of a happening.** The transport is asked for what `calls` says, and the record
changes nothing else. -/
theorem act_traced (e : Happening τ) : (x.withCalls record).act T.traced e.traced
    = (x.act T e).withCalls (record ++ x.calls e) := by
  cases e with
  | work now => exact work_traced T now x record
  | giveUp =>
    dsimp only [act, Happening.traced, calls]
    rw [List.append_nil]
    by_cases leaving : x.stage = .clearing ∨ x.worker.phase = .closing
    · simp [giveUp, withCalls, leaving]
    · simp [giveUp, withCalls, leaving]
  | attach device key =>
    dsimp only [act, Happening.traced, calls]
    rw [List.append_nil]
    rfl
  | detach device | queue frame | read device | closeInbox device | shutdown | outside change =>
    dsimp only [act, Happening.traced, calls]
    rw [List.append_nil]
    rfl

/-- **The calls of a run.** -/
theorem run_traced (happenings : List (Happening τ)) :
    (x.withCalls record).run T.traced (happenings.map .traced)
      = (x.run T happenings).withCalls (record ++ x.collect T calls happenings) := by
  induction happenings generalizing x record with
  | nil =>
    rw [collect, List.append_nil]
    rfl
  | cons e happenings ih =>
    rw [List.map_cons, run_cons, act_traced, ih, collect, List.append_assoc]
    rfl

/-! ### The end -/

variable {T} {x : Moment τ} {e : Happening τ} {happenings : List (Happening τ)}

theorem IsThrough.calls (through : x.IsThrough) (e : Happening τ) : x.calls e = [] := by
  cases e with
  | work now => rw [Moment.calls, workCalls, through.stage]
  | _ => rfl

theorem IsThrough.collect_calls (through : x.IsThrough) (happenings : List (Happening τ)) :
    x.collect T Moment.calls happenings = [] := by
  induction happenings generalizing x with
  | nil => rfl
  | cons e happenings ih => rw [collect, through.calls, ih (through.act e), List.nil_append]

theorem calls_of_clearing (clearing : x.stage = .clearing) (sent : x.worker.outbound.items = [])
    (now : Nanoseconds) : x.calls (.work now) = [.close] := by
  rw [Moment.calls, workCalls, clearing]
  exact if_pos sent

/-- The transport is closed once nothing is left to be sent, and the worker is through then. -/
theorem of_close_mem_calls (closes : .close ∈ x.calls e) :
    ∃ now, e = .work now ∧ x.stage = .clearing ∧ x.worker.outbound.items = [] ∧
      (x.act T e).IsThrough := by
  have oldest : .close ∉ x.sendOldestCalls := by
    unfold sendOldestCalls
    split
    · exact List.not_mem_nil
    · unfold sendCalls
      split
      · exact fun among => nomatch List.mem_singleton.1 among
      · exact List.not_mem_nil
  cases e with
  | work now =>
    change .close ∈ x.workCalls now at closes
    rcases x with ⟨w, t, stage⟩
    cases stage with
    | resting => cases closes
    | receiving =>
      simp only [workCalls] at closes
      split at closes
      · cases closes
      · cases List.mem_singleton.1 closes
    | sending =>
      simp only [workCalls] at closes
      split at closes
      · cases closes
      · exact absurd closes oldest
    | watching =>
      simp only [workCalls, watchCalls] at closes
      split at closes
      · cases closes
      · split at closes
        · cases closes
        · cases List.mem_singleton.1 closes
    | clearing =>
      simp only [workCalls] at closes
      by_cases sent : w.outbound.items = []
      · refine ⟨now, rfl, rfl, sent, ?_⟩
        have closing : Moment.act T ⟨w, t, .clearing⟩ (.work now) = close T ⟨w, t, .clearing⟩ := by
          change (sendOldest T ⟨w, t, .clearing⟩).getD _ = _
          rw [sendOldest_of_nil T sent, Option.getD_none]
        rw [closing]
        exact isThrough_close T _
      · rw [if_neg sent] at closes
        exact absurd closes oldest
  | _ => cases closes

/-- **The end.** Where the transport is closed, this happens once, in a step that finds nothing left
to be sent, and it is the last thing that the transport is asked for. -/
theorem exists_of_close_mem_calls (closed : .close ∈ x.collect T calls happenings) :
    ∃ before now later, happenings = before ++ .work now :: later ∧
      (x.run T before).stage = .clearing ∧ (x.run T before).worker.outbound.items = [] ∧
      .close ∉ x.collect T calls before ∧
      x.collect T calls happenings = x.collect T calls before ++ [.close] ∧
      (x.run T happenings).IsThrough := by
  induction happenings generalizing x with
  | nil => cases closed
  | cons e happenings ih =>
    by_cases closes : .close ∈ x.calls e
    · -- the worker is through then, and the rest of the run adds nothing to the record
      obtain ⟨now, rfl, clearing, sent, through⟩ := of_close_mem_calls (T := T) closes
      have asked : x.calls (.work now) = [.close] := calls_of_clearing clearing sent now
      refine ⟨[], now, happenings, rfl, clearing, sent, List.not_mem_nil, ?_, through.run _⟩
      calc x.calls (.work now) ++ (x.act T (.work now)).collect T calls happenings
          = [.close] := by rw [asked, through.collect_calls, List.append_nil]
        _ = x.collect T calls [] ++ [.close] := rfl
    · rw [collect, List.mem_append] at closed
      obtain ⟨before, now, later, rfl, clearing, sent, fresh, asked, through⟩ :=
        ih (closed.resolve_left closes)
      refine ⟨e :: before, now, later, rfl, clearing, sent, ?_, ?_, through⟩
      · rw [collect, List.mem_append, not_or]
        exact ⟨closes, fresh⟩
      · rw [collect, asked, collect, List.append_assoc]

/-- A worker that has closed the transport is through. -/
theorem isThrough_of_close_mem_calls (closed : .close ∈ x.collect T calls happenings) :
    (x.run T happenings).IsThrough := by
  obtain ⟨-, -, -, -, -, -, -, -, through⟩ := exists_of_close_mem_calls closed
  exact through

/-- Where the worker has ended its passes and did not give up what was left to be sent, it has
closed the transport. -/
theorem close_mem_calls (running : x.worker.phase = .running)
    (ended : (x.run T happenings).worker.phase ≠ .running)
    (patient : ∀ before later, happenings = before ++ .giveUp :: later →
      (x.run T before).stage ≠ .clearing) :
    .close ∈ x.collect T calls happenings := by
  -- on the run from its end, as patience is asked of all that came before
  induction happenings using List.reverseRecOn with
  | nil => exact absurd running ended
  | append_singleton happenings e ih =>
    rw [run_append] at ended
    rw [collect_append_singleton, List.mem_append]
    by_cases before : (x.run T happenings).worker.phase = .running
    · refine .inr ?_
      obtain ⟨-, clearing, rfl | ⟨⟨now, rfl⟩, sent⟩⟩ := (running_act before e).resolve_left ended
      · exact absurd clearing (patient happenings [] rfl)
      · rw [calls_of_clearing clearing sent]
        exact List.mem_singleton_self _
    · refine .inl (ih before fun earlier later split => ?_)
      exact patient earlier (later ++ [e]) (by rw [split, List.append_assoc]; rfl)

end Moment

end Worker

end RelayDevice
