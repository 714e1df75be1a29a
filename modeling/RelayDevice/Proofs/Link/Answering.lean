import RelayDevice.Proofs.Link.Attachment
import RelayDevice.Proofs.Link.Calls
import RelayDevice.Proofs.Outcome
import RelayDevice.Simulation.Loopback

/-!
# Answers do not overtake the attachment

A device asks to be attached and then queues frames. The request and the frames wait in different
places, which the worker visits at different points of its pass, and a frame may be sent in the very
pass in which the request has not been taken up. Yet once anything has been sent, the worker takes
up all requests before it polls again.

So a device that has asked to be attached is either hosted, or its request still waits
(`Worker.Requests`) and the worker has not sent anything since, or is not about to poll
(`Worker.Requests.run`). `Worker.attached_before_answers` is what this means to the device: the
answer to a frame that was sent is offered to it. Two kinds of messages are not, though they name
the device. Answers to keepalives are for the heartbeat, and what is not authentic under the key of
the device is dropped (`Worker.not_offered_to_oven`).
-/

namespace RelayDevice

namespace Worker

variable {τ : Type} {T : Transport τ} {w : Worker} {x : Moment τ} {device : Uuid} {key : Bytes}
  {e : Happening τ} {happenings : List (Happening τ)}

/-- **A request waits** to attach a device with an open inbox, and no later one concerns it. -/
def Requests (w : Worker) (device : Uuid) (key : Bytes) : Prop :=
  ∃ earlier inbox later, w.commands = earlier ++ .attach device ⟨key, inbox⟩ :: later ∧
    inbox.isOpen = true ∧ ∀ c ∈ later, c.device ≠ device

theorem Requests.of_eq {v : Worker} (requests : w.Requests device key)
    (commands : v.commands = w.commands) : v.Requests device key := by
  unfold Requests
  rw [commands]
  exact requests

theorem Requests.append {v : Worker} {c : WorkerCommand} (requests : w.Requests device key)
    (commands : v.commands = w.commands ++ [c]) (another : c.device ≠ device) :
    v.Requests device key := by
  obtain ⟨earlier, inbox, later, waiting, isOpen, others⟩ := requests
  refine ⟨earlier, inbox, later ++ [c], ?_, isOpen, fun c' among => ?_⟩
  · rw [commands, waiting, List.append_assoc]
    rfl
  · rcases List.mem_append.1 among with before | last
    · exact others c' before
    · exact List.mem_singleton.1 last ▸ another

/-- The request is taken up with all others. -/
theorem Requests.applyCommands (requests : w.Requests device key) :
    w.applyCommands.Hosts device key true := by
  obtain ⟨earlier, inbox, later, waiting, isOpen, others⟩ := requests
  refine ⟨⟨inbox, isOpen, attachment?_applyCommands_of_attach waiting others⟩, ?_⟩
  rw [commands_applyCommands]
  exact nofun

theorem Requests.closeInbox {other : Uuid} (requests : w.Requests device key)
    (another : other ≠ device) : (w.closeInbox other).Requests device key := by
  obtain ⟨f, commands, device_eq, same⟩ := exists_commands_closeInbox w other
  obtain ⟨earlier, inbox, later, waiting, isOpen, others⟩ := requests
  refine ⟨earlier.map f, inbox, later.map f, ?_, isOpen, fun c among => ?_⟩
  · have kept := same (.attach device ⟨key, inbox⟩) (Ne.symm another)
    rw [commands, waiting, List.map_append, List.map_cons, kept]
  · obtain ⟨c', among', rfl⟩ := List.mem_map.1 among
    rw [device_eq]
    exact others c' among'

/-- A worker that has not ended takes the request. -/
theorem requests_act (taken : x.worker.phase ≠ .ended) :
    (x.act T (.attach device key)).worker.Requests device key := by
  have acts := Moment.acts_act T x (.attach device key)
  generalize x.act T (.attach device key) = y at acts
  cases acts with
  | attach _ => exact ⟨_, _, [], rfl, rfl, nofun⟩
  | late ended => exact absurd ended taken

/-- **The step.** While the request waits, the worker does not come to poll. -/
theorem Requests.act (requests : x.worker.Requests device key) (another : ¬ e.Concerns device) :
    (x.act T e).worker.Hosts device key true ∨
      (x.act T e).worker.Requests device key ∧
        ((x.act T e).stage = .receiving → x.stage = .receiving ∧ x.calls e = []) := by
  have acts := Moment.acts_act T x e
  generalize x.act T e = y at acts
  cases acts with
  | attach _ | detach _ => exact .inr ⟨requests.append rfl another, fun polls => ⟨polls, rfl⟩⟩
  | closeInbox other => exact .inr ⟨requests.closeInbox another, fun polls => ⟨polls, rfl⟩⟩
  | late _ | gone _ | queue _ | refuse _ | read _ | shutdown | outside _ | persist _ =>
    exact .inr ⟨requests.of_eq rfl, fun polls => ⟨polls, rfl⟩⟩
  | giveUp _ => exact .inr ⟨requests.of_eq rfl, nofun⟩
  | work step =>
    cases step with
    | desert _ _ _ | begin _ _ _ =>
      -- the request is taken up here, and a poll comes no earlier
      exact .inl (requests.applyCommands.of_eq rfl (commands_applyCommands _).symm)
    | send sends _ =>
      refine .inr ⟨requests.of_eq rfl, fun polls => ?_⟩
      -- nothing is sent while the worker is about to poll
      rcases sends with ⟨rfl, -⟩ | rfl <;> cases polls
    | rest _ | stop _ _ | poll _ | turn _ _ | glance _ | watch _ | close _ _ | hang _ _ =>
      exact .inr ⟨requests.of_eq rfl, nofun⟩

/-- **The run.** Either the device is hosted, or its request still waits and the worker, if it is
about to poll, has not turned to the transport since. -/
theorem Requests.run (requests : x.worker.Requests device key)
    (others : ∀ e ∈ happenings, ¬ e.Concerns device) :
    (x.run T happenings).worker.Hosts device key true ∨
      (x.run T happenings).worker.Requests device key ∧
        ((x.run T happenings).stage = .receiving → x.collect T Moment.calls happenings = []) := by
  -- what has been asked for is known up to the last happening, so the run is taken from its end
  induction happenings using List.reverseRecOn with
  | nil => exact .inr ⟨requests, fun _ => rfl⟩
  | append_singleton happenings e ih =>
    have another : ¬ e.Concerns device := others e (List.mem_append_right _ List.mem_cons_self)
    rw [Moment.run_append, Moment.collect_append_singleton]
    rcases ih fun e' among => others e' (List.mem_append_left _ among) with hosts | ⟨still, idle⟩
    · exact .inl ((hosts.act another).resolve_right nofun)
    · refine (still.act another).imp_right fun ⟨later, polls⟩ => ⟨later, fun receiving => ?_⟩
      obtain ⟨before, asked⟩ := polls receiving
      rw [idle before, asked, List.append_nil]

/-- A message that is polled comes to the inbox of a device that it is for. -/
theorem attachment?_work {inbox : BoundedQueue Message} {frame : Bytes} {m : Message}
    {verdict : Integrity} {now : Nanoseconds}
    (found : x.worker.attachment? device = some ⟨key, inbox⟩) (isOpen : inbox.isOpen = true)
    (polls : x.stage = .receiving) (going : x.worker.cancelled = false)
    (received : (T.receive x.link).result = .ok (some frame))
    (decoded : Message.decode frame = .ok m) (other : Heartbeat.isAnswer m = false)
    (addressed : x.worker.isAddressed m device = true)
    (authentic : Integrity.verify frame key = .ok verdict) :
    (x.act T (.work now)).worker.attachment? device
      = some ⟨key, (inbox.push m).toOption.getD inbox⟩ := by
  have polled : (x.act T (.work now)).worker = (poll T now x.worker x.link).1 := by
    rw [Moment.act, Moment.work, polls]
    dsimp only
    rw [if_neg (Bool.not_eq_true _ ▸ going)]
  rw [polled, poll_of_frame received, route_of_not_answer decoded other]
  have found' : (x.worker.renew (T.receive x.link)).attachment? device = some ⟨key, inbox⟩ := by
    rw [renew_eq]
    exact found
  refine attachment?_distribute found' ?_
  rw [isAddressed_renew, if_pos addressed]
  exact Attachment.apply_offer_of_verify isOpen authentic

/-- Once something has been sent since a device asked to be attached, it is attached whenever the
worker is about to poll. -/
theorem hosts_of_sent {before early late : List (Happening τ)} {frame : Bytes}
    (taken : (x.run T before).worker.phase ≠ .ended)
    (undisturbed : ∀ e ∈ early ++ late, ¬ e.Concerns device)
    (sent : .send frame ∈
      (x.run T (before ++ .attach device key :: early)).collect T Moment.calls late)
    (polls : (x.run T (before ++ .attach device key :: early ++ late)).stage = .receiving) :
    (x.run T (before ++ .attach device key :: early ++ late)).worker.Hosts device key true := by
  have along (since : List (Happening τ)) : x.run T (before ++ .attach device key :: since)
      = ((x.run T before).act T (.attach device key)).run T since := by
    rw [Moment.run_append, Moment.run_cons]
  have requests : ((x.run T before).act T (.attach device key)).worker.Requests device key :=
    requests_act taken
  rw [List.append_assoc, List.cons_append, along] at polls ⊢
  rw [along] at sent
  refine (requests.run undisturbed).resolve_right ?_
  rintro ⟨-, idle⟩
  have nothing := idle polls
  rw [Moment.collect_append, List.append_eq_nil_iff] at nothing
  rw [nothing.2] at sent
  exact List.not_mem_nil sent

/-- **Answers do not overtake the attachment.** A device asks to be attached, which the worker does
not refuse, and queues a frame, and neither does it ask for anything else nor does it close its
inbox. Once that frame has been sent, the device is attached with its own key whenever the worker is
about to poll. A message that is received then, answers no keepalive, is for the device and is
authentic under its key, comes to its inbox, if there is room. -/
theorem attached_before_answers (T : Transport τ) (timeout : Nanoseconds) (sizes : QueueSizes)
    (t : τ) (device : Uuid) (key : Bytes) (before early late : List (Happening τ)) (frame : Bytes)
    (taken : ((Moment.start timeout sizes t).run T before).worker.phase ≠ .ended)
    (undisturbed : ∀ e ∈ early ++ .queue frame :: late, ¬ e.Concerns device) :
    let traced (happenings : List (Happening τ)) :=
      ((Moment.start timeout sizes t).withCalls []).run T.traced (happenings.map .traced)
    let queued := before ++ .attach device key :: early ++ [.queue frame]
    let y := traced (queued ++ late)
    .send frame ∈ y.link.calls.drop (traced queued).link.calls.length →
    y.stage = .receiving →
    ∃ inbox, y.worker.attachment? device = some ⟨key, inbox⟩ ∧ inbox.isOpen = true ∧
      ∀ now received m verdict, y.worker.cancelled = false →
        (T.receive y.link.link).result = .ok (some received) →
        Message.decode received = .ok m → Heartbeat.isAnswer m = false →
        y.worker.isAddressed m device = true → Integrity.verify received key = .ok verdict →
        (y.act T.traced (.work now)).worker.attachment? device
          = some ⟨key, (inbox.push m).toOption.getD inbox⟩ := by
  intro traced queued y sent polls
  let x := Moment.start timeout sizes t
  have traced_eq (happenings : List (Happening τ)) : traced happenings
      = (x.run T happenings).withCalls (x.collect T Moment.calls happenings) :=
    Moment.run_traced T x [] happenings
  have y_eq : y = (x.run T (queued ++ late)).withCalls
      (x.collect T Moment.calls (queued ++ late)) := traced_eq _
  have queued_eq : queued = before ++ .attach device key :: (early ++ [.queue frame]) :=
    List.append_assoc before _ _
  have undisturbed' : ∀ e ∈ (early ++ [.queue frame]) ++ late, ¬ e.Concerns device := by
    rw [List.append_assoc]
    exact undisturbed
  clear_value y queued
  subst y_eq
  rw [traced_eq] at sent
  have hosts : (x.run T (queued ++ late)).worker.Hosts device key true := by
    -- what the record shows was sent after the frame had been queued
    have sent_late : .send frame ∈ (x.run T queued).collect T Moment.calls late := by
      change _ ∈ List.drop (x.collect T Moment.calls queued).length
        (x.collect T Moment.calls (queued ++ late)) at sent
      rw [Moment.collect_append, List.drop_left] at sent
      exact sent
    change (x.run T (queued ++ late)).stage = .receiving at polls
    rw [queued_eq] at sent_late polls ⊢
    exact hosts_of_sent taken undisturbed' sent_late polls
  obtain ⟨inbox, isOpen, found⟩ := hosts.attachment
  refine ⟨inbox, found, isOpen, ?_⟩
  intro now received m verdict going arrived decoded other addressed authentic
  have same : Moment.act T.traced ((x.run T (queued ++ late)).withCalls
      (x.collect T Moment.calls (queued ++ late))) (.work now) = _ :=
    Moment.act_traced T (x.run T (queued ++ late)) _ (.work now)
  rw [same]
  exact attachment?_work found isOpen polls going arrived decoded other addressed authentic

/-- The oven asks to be attached while the worker polls, and what it queues is sent in the same
pass. -/
def ovenAsked : List (Happening Loopback) :=
  [.work 0, .attach Heartbeat.oven [0x6B], .queue (Heartbeat.keepaliveFrame Heartbeat.oven)]

/-- The worker ends that pass, and a frame arrives before it polls again. -/
def ovenAnswered (frame : Bytes) : List (Happening Loopback) :=
  [.work 0, .work 0, .work 0, .work 0, .outside (·.deliver [frame]), .work 0]

/-- A request that names the oven. -/
def ovenRequest : Message :=
  ⟨.request, .keepalive, Heartbeat.keepaliveTransaction, [⟨.deviceId, Heartbeat.oven.octets⟩]⟩

theorem attached_before_answers_oven :
    let frame := Heartbeat.keepaliveFrame Heartbeat.oven
    let y := ((Moment.start Heartbeat.defaultTimeout ⟨64, 256⟩ Loopback.start).withCalls []).run
      Loopback.transport.traced ((ovenAsked ++ ovenAnswered frame).map .traced)
    ∃ inbox, y.worker.attachment? Heartbeat.oven = some ⟨[0x6B], inbox⟩ ∧
      (y.act Loopback.transport.traced (.work 0)).worker.attachment? Heartbeat.oven
        = some ⟨[0x6B], (inbox.push ovenRequest).toOption.getD inbox⟩ := by
  intro frame y
  have undisturbed : ∀ e ∈ [] ++ .queue frame :: ovenAnswered frame,
      ¬ e.Concerns Heartbeat.oven := by
    simp [ovenAnswered, Happening.Concerns]
  obtain ⟨inbox, attached, -, offered⟩ := attached_before_answers Loopback.transport
    Heartbeat.defaultTimeout ⟨64, 256⟩ .start Heartbeat.oven [0x6B] [.work 0] []
    (ovenAnswered frame) frame (by decide +kernel) undisturbed (by decide +kernel)
    (by decide +kernel)
  refine ⟨inbox, attached, offered 0 frame ovenRequest .absent ?_ ?_ ?_ ?_ ?_ ?_⟩
  · decide +kernel
  · exact Outcome.toOption_eq_some_iff.1 (by decide +kernel)
  · decide +kernel
  · decide
  · decide +kernel
  · decide +kernel

/-- **Not everything that names a device is offered to it.** The oven is attached, and an answer to
a keepalive and a forged request are received. Both name the oven, and its inbox stays empty. -/
theorem not_offered_to_oven :
    let x := Moment.start Heartbeat.defaultTimeout ⟨64, 256⟩ Loopback.start
    let Misses (frame : Bytes) :=
      let y := x.run Loopback.transport (ovenAsked ++ ovenAnswered frame)
      .send (Heartbeat.keepaliveFrame Heartbeat.oven)
        ∈ x.collect Loopback.transport Moment.calls (ovenAsked ++ ovenAnswered frame) ∧
      y.stage = .receiving ∧ y.worker.cancelled = false ∧
      (Loopback.receive y.link).result.toOption = some (some frame) ∧
      (Message.decode frame).toOption.any (y.worker.isAddressed · Heartbeat.oven) = true ∧
      (y.act Loopback.transport (.work 0)).worker.attachment? Heartbeat.oven
        = some ⟨[0x6B], .empty 64⟩
    Misses (zeroTagged 0x3BCA) ∧ Misses (zeroTagged 0x3AC5) := by
  decide +kernel

end Worker

end RelayDevice
