import RelayDevice.Proofs.Link.Calls
import RelayDevice.Proofs.Wire.Canonical
import RelayDevice.Simulation.Loopback

/-!
# From the queue to the transport

Frames that devices queue leave the queue one after the other, and each that leaves it is put to the
gate of the heartbeat: it is handed over to the transport or held back. Nothing is lost between the
two ends, sent twice, or overtaken.

* `Worker.Moment.acceptedBy` and `Worker.Moment.drainedBy` name the frames that enter and leave the
  queue, the latter with the heartbeat that decides on them (`Drained`).
  `Worker.Moment.items_act` is the step: what was waiting, with what has come, is what has left,
  with what waits now. `Worker.Moment.calls_sent_eq` is the other one: what the transport is asked
  to send is what has left and was let through.
* `Heartbeat.gate_cases` says that the heartbeat is asked about keepalive requests that name their
  device (`Heartbeat.IsKeepalive`), and that any other octets pass it by.

`Worker.handed_over_in_order` is the account of a whole run. Its end rests on the end of the calls:
whoever closes the transport has found the queue empty.
-/

namespace RelayDevice

/-! ### What the heartbeat is asked about -/

theorem Message.deviceId?_eq_some_iff {m : Message} {device : Uuid} :
    m.deviceId? = some device ↔ m.attribute? .deviceId = some device.octets := by
  unfold deviceId?
  constructor
  · intro named
    obtain ⟨octets, value, spelled⟩ := Option.bind_eq_some_iff.1 named
    unfold Uuid.ofBytes? at spelled
    split at spelled
    · obtain rfl := Option.some.inj spelled
      exact value
    · cases spelled
  · intro value
    rw [value]
    exact Uuid.ofBytes?_octets device

/-- **A message names a device** in the first of its attributes that are made for this, if that has
just the sixteen octets of the device. -/
def Message.Names (m : Message) (device : Uuid) : Prop :=
  ∃ before later, m.attributes = before ++ ⟨.deviceId, device.octets⟩ :: later ∧
    ∀ a ∈ before, a.kind ≠ .deviceId

theorem Message.deviceId?_eq_some_iff_names {m : Message} {device : Uuid} :
    m.deviceId? = some device ↔ m.Names device := by
  rw [deviceId?_eq_some_iff, attribute?, Option.map_eq_some_iff]
  constructor
  · rintro ⟨a, found, value⟩
    obtain ⟨kind, before, later, parts, others⟩ := List.find?_eq_some_iff_append.1 found
    have kind : a.kind = .deviceId := of_decide_eq_true kind
    refine ⟨before, later, ?_, fun b among => by simpa using others b among⟩
    rw [parts, ← kind, ← value]
  · rintro ⟨before, later, parts, others⟩
    refine ⟨⟨.deviceId, device.octets⟩, List.find?_eq_some_iff_append.2 ⟨?_, ?_⟩, rfl⟩
    · exact decide_eq_true rfl
    · exact ⟨before, later, parts, fun b among => by simpa using others b among⟩

namespace Heartbeat

variable {h : Heartbeat} {frame : Bytes} {device : Uuid}

/-- **A keepalive request of a device**: a frame that can be read, is a request or an indication,
and names the device in sixteen octets. -/
structure IsKeepalive (frame : Bytes) (device : Uuid) (m : Message) : Prop where
  decoded : Message.decode frame = .ok m
  method_eq : m.method = Method.keepalive
  class_eq : m.messageClass = .request ∨ m.messageClass = .indication
  named : m.attribute? .deviceId = some device.octets

theorem keepaliveOf?_eq_some_iff :
    keepaliveOf? frame = some device ↔ ∃ m, IsKeepalive frame device m := by
  unfold keepaliveOf?
  constructor
  · intro found
    cases decoded : Message.decode frame with
    | error e =>
      rw [decoded] at found
      split at found
      · cases found
      · split at found <;> cases found
    | ok m =>
      obtain ⟨length, -, parsed⟩ := Message.exists_header_of_decode decoded
      rw [parsed, decoded] at found
      dsimp only at found
      split at found
      · next suits =>
        exact ⟨m, decoded, suits.1, MessageClass.isResponse_eq_false_iff.1 suits.2,
          Message.deviceId?_eq_some_iff.1 found⟩
      · cases found
  · rintro ⟨m, keepalive⟩
    obtain ⟨length, -, parsed⟩ := Message.exists_header_of_decode keepalive.decoded
    rw [parsed, keepalive.decoded]
    dsimp only
    rw [if_pos ⟨keepalive.method_eq, MessageClass.isResponse_eq_false_iff.2 keepalive.class_eq⟩]
    exact Message.deviceId?_eq_some_iff.2 keepalive.named

/-- **What is put to the heartbeat.** A keepalive request that names its device is the offer of that
device. Any other octets are let through and change nothing. -/
theorem gate_cases (h : Heartbeat) (frame : Bytes) :
    (∃ device m, IsKeepalive frame device m ∧ h.gate frame = h.offer device) ∨
    (∀ device m, ¬ IsKeepalive frame device m) ∧ h.gate frame = (true, h) := by
  unfold gate
  cases named : keepaliveOf? frame with
  | none =>
    refine .inr ⟨fun device m keepalive => ?_, rfl⟩
    rw [keepaliveOf?_eq_some_iff.2 ⟨m, keepalive⟩] at named
    cases named
  | some device =>
    obtain ⟨m, keepalive⟩ := keepaliveOf?_eq_some_iff.1 named
    exact .inl ⟨device, m, keepalive, rfl⟩

end Heartbeat

/-! ### What enters the queue and what leaves it -/

/-- A frame that leaves the queue, with the heartbeat that decides on it. -/
structure Drained where
  frame : Bytes
  heartbeat : Heartbeat
deriving DecidableEq

/-- The heartbeat lets the frame through. -/
def Drained.passes (d : Drained) : Bool := (d.heartbeat.gate d.frame).1

namespace Worker

namespace Moment

variable {τ : Type}

/-- The frame that a device queues, unless it is refused. -/
def acceptedBy (x : Moment τ) : Happening τ → List Bytes
  | .queue frame => if (x.worker.queue frame).isOk then [frame] else []
  | _ => []

/-- The frame that a step of the worker takes from the queue. -/
def drainedBy (x : Moment τ) : Happening τ → List Drained
  | .work _ =>
    if x.stage = .sending ∧ x.worker.cancelled = false ∨ x.stage = .clearing then
      (x.worker.outbound.items.take 1).map (⟨·, x.worker.heartbeat⟩)
    else []
  | _ => []

theorem acceptedBy_queue_of_push {x : Moment τ} {outbound : BoundedQueue Bytes} {frame : Bytes}
    (pushed : x.worker.outbound.push frame = .ok outbound) :
    x.acceptedBy (.queue frame) = [frame] := by
  rw [acceptedBy, queue, pushed]
  rfl

theorem acceptedBy_queue_of_refused {x : Moment τ} {refusal : QueueRefusal} {frame : Bytes}
    (refused : x.worker.outbound.push frame = .error refusal) :
    x.acceptedBy (.queue frame) = [] := by
  rw [acceptedBy, queue, refused]
  cases refusal <;> rfl

section Drain

variable {w : Worker} {t : τ} {stage : Stage} {now : Nanoseconds} {frame : Bytes}
  {frames : List Bytes}

theorem drainedBy_of_sends (sends : Sends w stage) (waiting : w.outbound.items = frame :: frames) :
    drainedBy ⟨w, t, stage⟩ (.work now) = [⟨frame, w.heartbeat⟩] := by
  rw [drainedBy, waiting]
  exact if_pos sends

theorem drainedBy_of_nil (sent : w.outbound.items = []) :
    drainedBy ⟨w, t, stage⟩ (.work now) = [] := by
  rw [drainedBy, sent]
  exact ite_self _

theorem drainedBy_of_cancelled (told : w.cancelled = true) :
    drainedBy ⟨w, t, .sending⟩ (.work now) = [] := by
  refine if_neg ?_
  rintro (⟨-, going⟩ | clearing)
  · exact Bool.false_ne_true (going.symm.trans told)
  · cases clearing

end Drain

variable (T : Transport τ) (x : Moment τ)

theorem items_of_steps {y : Moment τ} {now : Nanoseconds} (step : Steps T now x y) :
    x.worker.outbound.items
      = (x.drainedBy (.work now)).map Drained.frame ++ y.worker.outbound.items := by
  cases step with
  | stop told midway =>
    rcases midway with ⟨rfl, -⟩ | rfl | rfl
    · rfl
    · rfl
    · -- the stage is that of sending, but nothing is sent any more
      rw [drainedBy_of_cancelled told]
      rfl
  | send sends waiting =>
    rw [drainedBy_of_sends sends waiting]
    exact waiting
  | turn _ sent | close sent _ | hang sent _ =>
    rw [drainedBy_of_nil sent]
    rfl
  | rest _ | desert _ _ _ | begin _ _ _ | poll _ | glance _ | watch _ => rfl

/-- **The step.** What was waiting, and what has come, is what has left, and what waits now. -/
theorem items_act (e : Happening τ) :
    x.worker.outbound.items ++ x.acceptedBy e
      = (x.drainedBy e).map Drained.frame ++ (x.act T e).worker.outbound.items := by
  have acts := acts_act T x e
  generalize x.act T e = y at acts
  cases acts with
  | queue pushed =>
    rw [acceptedBy_queue_of_push pushed]
    exact (BoundedQueue.items_of_push pushed).symm
  | refuse refused =>
    rw [acceptedBy_queue_of_refused refused]
    exact List.append_nil _
  | work step => exact (List.append_nil _).trans (items_of_steps T x step)
  | attach _ | late _ | detach _ | gone _ | read _ | closeInbox _ | shutdown | outside _
  | giveUp _ | persist _ => exact List.append_nil _

/-- **The other step.** What the transport is asked to send is what has left the queue and was let
through. -/
theorem calls_sent_eq (e : Happening τ) :
    (x.calls e).filterMap TransportCall.sent?
      = ((x.drainedBy e).filter Drained.passes).map Drained.frame := by
  have oldest : x.sendOldestCalls.filterMap TransportCall.sent?
      = (((x.worker.outbound.items.take 1).map (⟨·, x.worker.heartbeat⟩)).filter
          Drained.passes).map Drained.frame := by
    unfold sendOldestCalls sendCalls
    cases x.worker.outbound.items with
    | nil => rfl
    | cons frame frames =>
      by_cases passes : (x.worker.heartbeat.gate frame).1 = true
      · simp [passes, Drained.passes, TransportCall.sent?]
      · simp [passes, Drained.passes]
  cases e with
  | work now =>
    change (x.workCalls now).filterMap _ = _
    rcases x with ⟨w, t, stage⟩
    cases stage with
    | resting => rfl
    | receiving =>
      simp only [workCalls]
      split <;> rfl
    | sending =>
      simp only [workCalls]
      by_cases told : w.cancelled = true
      · rw [if_pos told, drainedBy_of_cancelled told]
        rfl
      · rw [if_neg told, oldest, drainedBy, if_pos (.inl ⟨rfl, Bool.not_eq_true _ ▸ told⟩)]
    | watching =>
      simp only [workCalls, watchCalls]
      split
      · rfl
      · split <;> rfl
    | clearing =>
      simp only [workCalls]
      by_cases sent : w.outbound.items = []
      · rw [if_pos sent, drainedBy_of_nil sent]
        rfl
      · rw [if_neg sent, oldest, drainedBy, if_pos (.inr rfl)]
  | _ => rfl

/-! ### Runs -/

variable (happenings : List (Happening τ))

theorem items_run :
    x.worker.outbound.items ++ x.collect T acceptedBy happenings
      = (x.collect T drainedBy happenings).map Drained.frame
        ++ (x.run T happenings).worker.outbound.items := by
  induction happenings generalizing x with
  | nil => exact List.append_nil _
  | cons e happenings ih =>
    calc x.worker.outbound.items ++ (x.acceptedBy e ++ (x.act T e).collect T acceptedBy happenings)
        = (x.drainedBy e).map Drained.frame ++ ((x.act T e).worker.outbound.items
            ++ (x.act T e).collect T acceptedBy happenings) := by
          rw [← List.append_assoc, items_act T, List.append_assoc]
      _ = (x.drainedBy e).map Drained.frame
            ++ (((x.act T e).collect T drainedBy happenings).map Drained.frame
              ++ ((x.act T e).run T happenings).worker.outbound.items) := by rw [ih]
      _ = _ := by rw [collect, List.map_append, List.append_assoc, run_cons]

theorem collect_calls_sent_eq :
    (x.collect T calls happenings).filterMap TransportCall.sent?
      = ((x.collect T drainedBy happenings).filter Drained.passes).map Drained.frame := by
  induction happenings generalizing x with
  | nil => rfl
  | cons e happenings ih =>
    rw [collect, List.filterMap_append, calls_sent_eq, ih, collect, List.filter_append,
      List.map_append]

end Moment

/-- **Handed over in order.** The frames that the queue has accepted are those that have left it,
followed by those that still wait in it, and the transport was asked to send exactly the frames that
have left and were let through, in that order. Only keepalive requests that name their device are
put to the heartbeat; any other octets are let through and leave it as it is. Where the worker has
closed the transport, this was the last thing that it asked for, and all that had been accepted by
then had left the queue. A worker that has ended its passes has closed the transport, unless it gave
up while frames were still to be sent. -/
theorem handed_over_in_order {τ : Type} (T : Transport τ) (timeout : Nanoseconds)
    (sizes : QueueSizes) (t : τ) (happenings : List (Happening τ)) :
    let x : Moment τ := .start timeout sizes t
    let traced (happenings : List (Happening τ)) :=
      (x.withCalls []).run T.traced (happenings.map .traced)
    let accepted := x.collect T Moment.acceptedBy
    let drained := x.collect T Moment.drainedBy
    (accepted happenings = (drained happenings).map Drained.frame
        ++ (traced happenings).worker.outbound.items ∧
      (traced happenings).link.calls.filterMap TransportCall.sent?
        = ((drained happenings).filter Drained.passes).map Drained.frame) ∧
    (∀ (h : Heartbeat) (frame : Bytes),
      (∃ device m, Heartbeat.IsKeepalive frame device m ∧ h.gate frame = h.offer device) ∨
      (∀ device m, ¬ Heartbeat.IsKeepalive frame device m) ∧ h.gate frame = (true, h)) ∧
    (.close ∈ (traced happenings).link.calls →
      ∃ before now later, happenings = before ++ .work now :: later ∧
        accepted before = (drained before).map Drained.frame ∧
        .close ∉ (traced before).link.calls ∧
        (traced happenings).link.calls = (traced before).link.calls ++ [.close]) ∧
    ((traced happenings).worker.phase ≠ .running →
      (∀ before later, happenings = before ++ .giveUp :: later →
        (traced before).stage ≠ .clearing) →
      .close ∈ (traced happenings).link.calls) := by
  intro x traced accepted drained
  have traced_eq (happenings : List (Happening τ)) : traced happenings
      = (x.run T happenings).withCalls (x.collect T Moment.calls happenings) :=
    Moment.run_traced T x [] happenings
  have account (happenings : List (Happening τ)) : accepted happenings
      = (drained happenings).map Drained.frame ++ (x.run T happenings).worker.outbound.items :=
    Moment.items_run T x happenings
  simp only [traced_eq]
  refine ⟨⟨account happenings, Moment.collect_calls_sent_eq T x happenings⟩,
    Heartbeat.gate_cases, fun closed => ?_, fun ended patient => ?_⟩
  · obtain ⟨before, now, later, split, -, sent, fresh, asked, -⟩ :=
      Moment.exists_of_close_mem_calls closed
    refine ⟨before, now, later, split, ?_, fresh, asked⟩
    rw [account before, sent, List.append_nil]
  · exact Moment.close_mem_calls rfl ended patient

/-- Two devices share a connection and leave it soon. The second keepalive of the kettle is held
back, and what was queued last, which is no frame at all, is not. -/
def sharedAndLeft : List (Happening Loopback) :=
  [.attach Heartbeat.oven [0x6B], .attach Heartbeat.kettle [0x6B],
    .queue (Heartbeat.keepaliveFrame Heartbeat.oven),
    .queue (Heartbeat.keepaliveFrame Heartbeat.kettle), .work 0,
    .queue (Heartbeat.keepaliveFrame Heartbeat.kettle), .queue [0xFF],
    .detach Heartbeat.oven, .detach Heartbeat.kettle] ++ List.replicate 13 (.work 0)

theorem handed_over_sharedAndLeft :
    let y := ((Moment.start Heartbeat.defaultTimeout ⟨64, 256⟩ Loopback.start).withCalls []).run
      Loopback.transport.traced (sharedAndLeft.map .traced)
    y.link.calls.filterMap TransportCall.sent? = [Heartbeat.keepaliveFrame Heartbeat.oven,
      Heartbeat.keepaliveFrame Heartbeat.kettle, [0xFF]] ∧ .close ∈ y.link.calls := by
  intro y
  obtain ⟨⟨-, sent⟩, -, -, ended⟩ := handed_over_in_order Loopback.transport
    Heartbeat.defaultTimeout ⟨64, 256⟩ .start sharedAndLeft
  constructor
  · refine sent.trans ?_
    decide +kernel
  · refine ended (by decide +kernel) fun before later split => ?_
    -- nobody gives up
    have among : Happening.giveUp ∈ sharedAndLeft := by simp [split]
    simp [sharedAndLeft] at among

end Worker

end RelayDevice
