import RelayDevice.Account
import RelayDevice.Proofs.Link.Attachment
import RelayDevice.Proofs.Link.Handover
import RelayDevice.Proofs.Wire.Answers

/-!
# What a device queues on its way out

A device that stops closes its inbox, queues the request that ends its session, and asks to be
detached. In between the worker does its passes, and other devices come and go.

A worker that nobody tells to stop does so once no device is attached
(`Worker.Moment.Deserted`), and it sends what is queued before it closes the transport. So a frame
that is queued before the worker has closed the transport is handed over, and one that is queued
later is not. `Worker.farewell_handed_over` says this of the request that ends a session. It also
says when that request comes too late: only where a message for the device has come in while its
inbox was closed already. Such a message makes the worker forget the device, and if it was the last
one, the worker stops before the device has said that it leaves (`Worker.farewell_lost`).
-/

namespace RelayDevice

/-! ### What is no keepalive passes the gate -/

/-- A frame of another method is let through, whatever the heartbeat. -/
theorem Account.passes_of_frame {a : Account} {s : Stamp} {device : Uuid} {r : DeviceRequest}
    {frame : Bytes} (written : a.frame s device r = .ok frame) (other : r.method ≠ Method.keepalive)
    (h : Heartbeat) : (h.gate frame).1 = true := by
  rcases h.gate_cases frame with ⟨named, m, keepalive, -⟩ | ⟨-, passes⟩
  · have read : m = (a.request s device r).delivered (some a.key) frame :=
      Except.ok.inj (keepalive.decoded.symm.trans (Message.decode_encoded written))
    have method : m.method = r.method := by
      rw [read, Message.method_delivered]
      rfl
    exact absurd (method.symm.trans keepalive.method_eq) other
  · rw [passes]

namespace Worker

namespace Moment

variable {τ : Type} {T : Transport τ} {x : Moment τ} {e : Happening τ}
  {happenings : List (Happening τ)} {frame : Bytes}

/-! ### Workers that stop -/

/-- A worker that is at its end was told, or has decided, to stop. As long as it does its passes,
its queue is open. -/
structure Orderly (x : Moment τ) : Prop where
  clearing : x.stage = .clearing → x.worker.cancelled = true
  ended : x.worker.phase ≠ .running → x.worker.cancelled = true
  isOpen : x.worker.phase = .running → x.worker.outbound.isOpen = true

theorem Orderly.start (timeout : Nanoseconds) (sizes : QueueSizes) (t : τ) :
    (Moment.start timeout sizes t).Orderly where
  clearing := nofun
  ended := fun ended => absurd rfl ended
  isOpen := fun _ => rfl

theorem Orderly.act (orderly : x.Orderly) (e : Happening τ) : (x.act T e).Orderly := by
  have acts := acts_act T x e
  generalize x.act T e = y at acts
  cases acts with
  | attach _ | late _ | detach _ | gone _ | refuse _ | read _ | closeInbox _ | outside _
  | persist _ => exact ⟨orderly.clearing, orderly.ended, orderly.isOpen⟩
  | queue pushed =>
    refine ⟨orderly.clearing, orderly.ended, fun going => ?_⟩
    exact (BoundedQueue.isOpen_of_push pushed).trans (orderly.isOpen going)
  | shutdown => exact ⟨fun _ => rfl, fun _ => rfl, orderly.isOpen⟩
  | giveUp leaving =>
    refine ⟨nofun, fun _ => ?_, nofun⟩
    rcases leaving with clearing | closing
    · exact orderly.clearing clearing
    · exact orderly.ended (closing ▸ nofun)
  | work step =>
    cases step with
    | rest _ | send _ _ => exact ⟨orderly.clearing, orderly.ended, orderly.isOpen⟩
    | stop told _ => exact ⟨fun _ => told, orderly.ended, orderly.isOpen⟩
    | desert _ _ _ => exact ⟨fun _ => rfl, fun _ => rfl, orderly.isOpen⟩
    | begin _ _ _ | poll _ | turn _ _ | glance _ | watch _ =>
      exact ⟨nofun, orderly.ended, orderly.isOpen⟩
    | close _ _ | hang _ _ => exact ⟨nofun, fun _ => orderly.clearing rfl, nofun⟩

theorem Orderly.run (orderly : x.Orderly) (happenings : List (Happening τ)) :
    (x.run T happenings).Orderly := by
  induction happenings generalizing x with
  | nil => exact orderly
  | cons e happenings ih => exact ih (orderly.act e)

/-- A worker that stops has no devices left. This is so unless somebody else tells it to stop. -/
def Deserted (x : Moment τ) : Prop := x.worker.cancelled = true → x.worker.attached = []

/-- Where no device is attached, a reader does not change that. -/
theorem attached_read_of_nil {w : Worker} (nobody : w.attached = []) (device : Uuid) :
    (w.read device).2.attached = [] := by
  have absent : w.attachment? device = none := by
    rw [attachment?, nobody]
    rfl
  rw [Worker.read, absent]
  dsimp only
  split
  · split <;> exact nobody
  · exact nobody

theorem Deserted.act (deserted : x.Deserted) (untold : e ≠ .shutdown) : (x.act T e).Deserted := by
  have acts := acts_act T x e
  generalize x.act T e = y at acts
  cases acts with
  | attach _ | late _ | detach _ | gone _ | queue _ | refuse _ | outside _ | giveUp _ | persist _ =>
    exact deserted
  | read device => exact fun told => attached_read_of_nil (deserted told) device
  | closeInbox device =>
    intro told
    change List.map _ _ = []
    rw [deserted told]
    rfl
  | shutdown => exact absurd rfl untold
  | work step =>
    cases step with
    | desert _ _ empty =>
      have gone := (Bool.and_eq_true_iff.1 empty).2
      exact fun _ => List.isEmpty_iff.1 gone
    | begin _ going _ | poll going =>
      exact fun told => absurd (going.symm.trans told) (by decide)
    | rest _ | stop _ _ | send _ _ | turn _ _ | glance _ | watch _ | close _ _ | hang _ _ =>
      exact deserted

theorem Deserted.run (deserted : x.Deserted) (untold : .shutdown ∉ happenings) :
    (x.run T happenings).Deserted := by
  induction happenings generalizing x with
  | nil => exact deserted
  | cons e happenings ih =>
    rw [List.mem_cons, not_or] at untold
    exact ih (deserted.act (Ne.symm untold.1)) untold.2

/-- Where nobody tells the worker to stop, it ends its passes only once it has forgotten a device
that it hosted. -/
theorem exists_forgets {device : Uuid} {key : Bytes} {isOpen : Bool} (orderly : x.Orderly)
    (deserted : x.Deserted) (hosts : x.worker.Hosts device key isOpen)
    (others : ∀ e ∈ happenings, ¬ e.Concerns device) (untold : .shutdown ∉ happenings)
    (ended : (x.run T happenings).worker.phase ≠ .running) :
    ∃ earlier e later, happenings = earlier ++ e :: later ∧
      (x.run T earlier).Forgets T device key e := by
  have nobody : (x.run T happenings).worker.attached = [] :=
    deserted.run untold ((orderly.run happenings).ended ended)
  rcases hosts.run (T := T) others with still | ⟨-, forgotten⟩
  · obtain ⟨inbox, -, found⟩ := still.attachment
    rw [attachment?, nobody] at found
    cases found
  · exact forgotten

/-! ### Frames that are queued before the end -/

/-- **What is queued in time is handed over.** A frame that the heartbeat lets through at any rate,
and that is queued before the worker closes the transport, is sent before. -/
theorem exists_sent_before_close (running : x.worker.phase = .running) (orderly : x.Orderly)
    (passes : ∀ h : Heartbeat, (h.gate frame).1 = true)
    (room : x.worker.outbound.items.length < x.worker.outbound.capacity)
    (closed : .close ∈ x.collect T calls (.queue frame :: happenings)) :
    ∃ asked, x.collect T calls (.queue frame :: happenings) = asked ++ [.close] ∧
      .send frame ∈ asked := by
  obtain ⟨before, now, later, split, -, sent, -, asked, -⟩ := exists_of_close_mem_calls closed
  refine ⟨x.collect T calls before, asked, ?_⟩
  cases before with
  | nil => cases split
  | cons first before =>
    obtain ⟨rfl, -⟩ := List.cons_eq_cons.1 split
    -- the frame was accepted, and as nothing is left of the queue, it has been drained
    have pushed : x.worker.outbound.push frame
        = .ok { x.worker.outbound with items := x.worker.outbound.items ++ [frame] } := by
      have isOpen : ¬ x.worker.outbound.isOpen = false := by
        rw [orderly.isOpen running]
        decide
      rw [BoundedQueue.push, if_neg isOpen, if_neg (Nat.not_le.2 room)]
    have accepted : frame ∈ x.collect T acceptedBy (.queue frame :: before) := by
      rw [collect, acceptedBy_queue_of_push pushed]
      exact List.mem_cons_self
    have account := items_run T x (.queue frame :: before)
    rw [sent, List.append_nil] at account
    have drained : frame ∈ (x.collect T drainedBy (.queue frame :: before)).map Drained.frame :=
      account ▸ List.mem_append_right _ accepted
    obtain ⟨d, among, rfl⟩ := List.mem_map.1 drained
    have sent_frame : d.frame ∈ (x.collect T calls (.queue d.frame :: before)).filterMap
        TransportCall.sent? := by
      rw [collect_calls_sent_eq]
      exact List.mem_map.2 ⟨d, List.mem_filter.2 ⟨among, passes d.heartbeat⟩, rfl⟩
    obtain ⟨call, among, sends⟩ := List.mem_filterMap.1 sent_frame
    cases call with
    | send frame =>
      obtain rfl := Option.some.inj sends
      exact among
    | _ => cases sends

end Moment

variable {τ : Type} (T : Transport τ)

/-- **The farewell of a device.** The worker hosts a device, which closes its inbox, queues the
request that ends its session and may then do what it likes. Nobody tells the worker to stop before
that request is queued, and there is room for it. If the worker closes the transport in the end, the
request has been sent before that, exactly if it was queued before that. And it was, unless the
worker has forgotten the device in the meantime, for a message that came in when its inbox was
closed. -/
theorem farewell_handed_over (timeout : Nanoseconds) (sizes : QueueSizes) (t : τ)
    (before silent later : List (Happening τ)) (device : Uuid) (key : Bytes) (a : Account)
    (s : Stamp) (frame : Bytes)
    (hosts : ((Moment.start timeout sizes t).run T before).worker.Hosts device key true)
    (others : ∀ e ∈ silent, ¬ e.Concerns device)
    (untold : .shutdown ∉ before ++ silent)
    (written : a.frame s device .endSession = .ok frame) :
    let x := Moment.start timeout sizes t
    let traced (happenings : List (Happening τ)) :=
      (x.withCalls []).run T.traced (happenings.map .traced)
    let parting := before ++ .closeInbox device :: silent
    let z := traced parting
    let y := traced (parting ++ .queue frame :: later)
    z.worker.outbound.items.length < z.worker.outbound.capacity →
    .close ∈ y.link.calls →
    ((∃ asked, y.link.calls = z.link.calls ++ asked ++ [.close] ∧ .send frame ∈ asked) ↔
      .close ∉ z.link.calls) ∧
    (.close ∈ z.link.calls →
      ∃ earlier e rest, silent = earlier ++ e :: rest ∧
        (x.run T (before ++ .closeInbox device :: earlier)).Forgets T device key e) := by
  intro x traced parting z y room closed
  have traced_eq (happenings : List (Happening τ)) : traced happenings
      = (x.run T happenings).withCalls (x.collect T Moment.calls happenings) :=
    Moment.run_traced T x [] happenings
  have z_calls : z.link.calls = x.collect T Moment.calls parting :=
    congrArg (·.link.calls) (traced_eq _)
  have y_calls : y.link.calls
      = z.link.calls ++ (x.run T parting).collect T Moment.calls (.queue frame :: later) := by
    rw [z_calls, ← Moment.collect_append]
    exact congrArg (·.link.calls) (traced_eq _)
  have orderly : (x.run T parting).Orderly := (Moment.Orderly.start timeout sizes t).run parting
  refine ⟨⟨?_, fun fresh => ?_⟩, fun early => ?_⟩
  · rintro ⟨asked, split, -⟩ early
    rw [z_calls] at early
    have through := Moment.isThrough_of_close_mem_calls early
    -- a worker that is through asks for nothing any more
    rw [through.collect_calls, List.append_nil] at y_calls
    have lengths := congrArg List.length (y_calls.symm.trans split)
    simp only [List.length_append, List.length_cons] at lengths
    omega
  · -- the transport is closed later, so the worker still does its passes
    rw [y_calls, List.mem_append] at closed
    have since := closed.resolve_left fresh
    have running : (x.run T parting).worker.phase = .running := by
      refine (Moment.isThrough_run (T := T) (x := x) rfl parting).resolve_right fun through => ?_
      rw [through.collect_calls] at since
      exact List.not_mem_nil since
    have passes : ∀ h : Heartbeat, (h.gate frame).1 = true :=
      Account.passes_of_frame written (by decide)
    have free : (x.run T parting).worker.outbound.items.length
        < (x.run T parting).worker.outbound.capacity := by
      have worker_eq : z.worker = (x.run T parting).worker := congrArg Moment.worker (traced_eq _)
      exact worker_eq ▸ room
    obtain ⟨asked, asked_eq, sends⟩ :=
      Moment.exists_sent_before_close running orderly passes free since
    exact ⟨asked, by rw [y_calls, asked_eq, List.append_assoc], sends⟩
  · -- the worker was through before, and nobody had told it to stop
    rw [z_calls] at early
    have through := Moment.isThrough_of_close_mem_calls early
    have along (happenings : List (Happening τ)) :
        x.run T (before ++ .closeInbox device :: happenings)
          = ((x.run T before).act T (.closeInbox device)).run T happenings := by
      rw [Moment.run_append, Moment.run_cons]
    rw [along] at through
    simp only [along]
    rw [List.mem_append, not_or] at untold
    have orderly : (x.run T before).Orderly := (Moment.Orderly.start timeout sizes t).run before
    have deserted : (x.run T before).Deserted := Moment.Deserted.run nofun untold.1
    exact Moment.exists_forgets (orderly.act _) (deserted.act nofun) hosts.closeInbox others
      untold.2 through.phase

/-- The oven is attached. -/
def ovenOnline : List (Happening Loopback) := [.attach Heartbeat.oven [0x6B], .work 0]

/-- The account of the oven. -/
def ovenAccount : Account := ⟨"u", "k"⟩

/-- The request that ends the session of the oven. -/
def ovenFarewell : Bytes :=
  (ovenAccount.request default Heartbeat.oven .endSession).frame (some ovenAccount.key)

/-- The oven leaves, and the worker does some more passes. -/
def ovenGone : List (Happening Loopback) :=
  .queue ovenFarewell :: .detach Heartbeat.oven :: List.replicate 7 (.work 0)

/-- While the oven is on its way out, a kettle is attached, a request that names it comes in, and it
leaves again. -/
def kettleVisits : List (Happening Loopback) :=
  .work 0 :: .attach Heartbeat.kettle [0x6B]
    :: .outside (·.deliver [Heartbeat.keepaliveFrame Heartbeat.kettle])
    :: List.replicate 6 (.work 0) ++ .detach Heartbeat.kettle :: List.replicate 4 (.work 0)

theorem farewell_handed_over_oven :
    let y := ((Moment.start Heartbeat.defaultTimeout ⟨64, 256⟩ Loopback.start).withCalls []).run
      Loopback.transport.traced
        ((ovenOnline ++ .closeInbox Heartbeat.oven :: kettleVisits ++ ovenGone).map .traced)
    ∃ asked, y.link.calls = asked ++ [.close] ∧ .send ovenFarewell ∈ asked := by
  intro y
  have hosts : ((Moment.start Heartbeat.defaultTimeout ⟨64, 256⟩ Loopback.start).run
      Loopback.transport ovenOnline).worker.Hosts Heartbeat.oven [0x6B] true := by
    refine ⟨⟨.empty 64, rfl, by decide +kernel⟩, ?_⟩
    rw [show (Moment.run _ _ _).worker.commands = [] by decide +kernel]
    exact nofun
  have fits : (ovenAccount.request default Heartbeat.oven .endSession).bodyLength
      (some ovenAccount.key) ≤ 65535 := by decide +kernel
  have others : ∀ e ∈ kettleVisits, ¬ e.Concerns Heartbeat.oven := by
    have another : Heartbeat.kettle ≠ Heartbeat.oven := by decide
    simp [kettleVisits, Happening.Concerns, another]
  have untold : .shutdown ∉ ovenOnline ++ kettleVisits := by simp [ovenOnline, kettleVisits]
  obtain ⟨⟨-, sent⟩, -⟩ := farewell_handed_over Loopback.transport Heartbeat.defaultTimeout
    ⟨64, 256⟩ .start ovenOnline kettleVisits
    (.detach Heartbeat.oven :: List.replicate 7 (.work 0)) Heartbeat.oven [0x6B] ovenAccount default
    ovenFarewell hosts others untold (Message.encode_eq_ok fits) (by decide +kernel)
    (by decide +kernel)
  obtain ⟨asked, asked_eq, sends⟩ := sent (by decide +kernel)
  exact ⟨_, asked_eq, List.mem_append_right _ sends⟩

/-- A request that names the oven comes in after it has closed its inbox. -/
def ovenDisturbed : List (Happening Loopback) :=
  .closeInbox Heartbeat.oven :: .outside (·.deliver [Heartbeat.keepaliveFrame Heartbeat.oven])
    :: List.replicate 5 (.work 0)

/-- **A farewell may be lost.** The oven closes its inbox, and a request that names it comes in
before it says that it leaves. The worker forgets the oven and stops, as it has no other device. -/
theorem farewell_lost :
    let y := ((Moment.start Heartbeat.defaultTimeout ⟨64, 256⟩ Loopback.start).withCalls []).run
      Loopback.transport.traced ((ovenOnline ++ ovenDisturbed ++ ovenGone).map .traced)
    .close ∈ y.link.calls ∧ .send ovenFarewell ∉ y.link.calls := by
  decide +kernel

end Worker

end RelayDevice
