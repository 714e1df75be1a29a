import RelayDevice.Proofs.Link.Attachment
import RelayDevice.Proofs.Link.Handover

/-!
# Who is handed a frame

Of the devices on a connection each has a key of its own and an inbox of its own, and what a frame
comes to is settled for each of them apart. A frame reaches a device (`Worker.Reaches`) if it can be
read, answers no keepalive, names that device or none that is attached, and is authentic, or bears no
tag, under that device's key. What then becomes of the message is up to the inbox: with room it waits
there, a full inbox loses it, and a device whose inbox is closed is forgotten
(`Worker.Attachment.apply_offer_iff`).

`Worker.attachment?_route` is the crux. It follows one device through the whole of
`Worker.route`, and finds it either offered the message or left alone. The look-up that it rests on
needs that no device is attached twice (`Worker.IsKeyed`), which holds of a worker at every moment
(`Worker.isKeyed_run`): a device that attaches again takes its own place.
`Worker.route_delivers_exactly` is the account.
-/

namespace RelayDevice

/-! ### Inboxes -/

namespace Attachment

variable {a : Attachment} {m m' : Message}

/-- The attachment with one more message, at the end of its inbox. -/
def receive (a : Attachment) (m : Message) : Attachment :=
  { a with inbox := { a.inbox with items := a.inbox.items ++ [m] } }

theorem receive_ne_self : a.receive m ≠ a := by
  intro same
  have longer : a.inbox.items ++ [m] = a.inbox.items := congrArg (·.inbox.items) same
  exact List.cons_ne_nil m [] (List.append_right_eq_self.1 longer)

theorem receive_inj (same : a.receive m = a.receive m') : m = m' := by
  have items : a.inbox.items ++ [m] = a.inbox.items ++ [m'] := congrArg (·.inbox.items) same
  exact (List.cons.inj (List.append_cancel_left items)).1

end Attachment

namespace Worker

/-! ### No device is attached twice -/

/-- Each attached device has one entry. -/
def IsKeyed (w : Worker) : Prop := (w.attached.map Prod.fst).Nodup

section Keys

variable {w : Worker} {device : Uuid} {a : Attachment}

theorem IsKeyed.of_sublist {v : Worker} (keyed : w.IsKeyed)
    (kept : (v.attached.map Prod.fst).Sublist (w.attached.map Prod.fst)) : v.IsKeyed :=
  kept.nodup keyed

theorem IsKeyed.of_keys_eq {v : Worker} (keyed : w.IsKeyed)
    (same : v.attached.map Prod.fst = w.attached.map Prod.fst) : v.IsKeyed := by
  rw [IsKeyed, same]
  exact keyed

theorem IsKeyed.applyCommand (keyed : w.IsKeyed) (c : WorkerCommand) :
    (w.applyCommand c).IsKeyed := by
  cases c with
  | attach device a =>
    have others : ((w.attached.filter (·.1 ≠ device)).map Prod.fst).Nodup :=
      (List.filter_sublist.map Prod.fst).nodup keyed
    change ((w.attached.filter (·.1 ≠ device) ++ [(device, a)]).map Prod.fst).Nodup
    rw [List.map_append, List.nodup_append]
    refine ⟨others, List.nodup_singleton device, ?_⟩
    -- the entry that the device had before is taken out
    intro other among last own
    obtain ⟨entry, kept, rfl⟩ := List.mem_map.1 among
    obtain rfl := List.mem_singleton.1 own
    exact of_decide_eq_true (List.mem_filter.1 kept).2
  | detach device => exact keyed.of_sublist (List.filter_sublist.map Prod.fst)

theorem IsKeyed.foldl (keyed : w.IsKeyed) (commands : List WorkerCommand) :
    (commands.foldl Worker.applyCommand w).IsKeyed := by
  induction commands generalizing w with
  | nil => exact keyed
  | cons c commands ih => exact ih (keyed.applyCommand c)

theorem IsKeyed.applyCommands (keyed : w.IsKeyed) : w.applyCommands.IsKeyed := by
  have taken : { w with commands := [] }.IsKeyed := keyed
  exact taken.foldl w.commands

theorem IsKeyed.distribute (keyed : w.IsKeyed) (frame : Bytes) (m : Message) :
    (w.distribute frame m).1.IsKeyed := by
  refine keyed.of_sublist ?_
  rw [attached_distribute]
  exact keys_filterMap_sublist (w.handOut frame m) w.attached

theorem IsKeyed.route (keyed : w.IsKeyed) (now : Nanoseconds) (frame : Bytes) :
    (w.route now frame).1.IsKeyed := by
  obtain ⟨m, -, -, routed⟩ | ⟨-, heartbeat, routed⟩ := route_cases w now frame
  · rw [routed]
    exact keyed.distribute frame m
  · rw [routed]
    exact keyed

/-- What devices do to their inboxes leaves the keys as they are. -/
theorem keys_map_ite (other : Uuid) (f : Attachment → Attachment)
    (attached : List (Uuid × Attachment)) :
    (attached.map fun (d, b) => if d = other then (d, f b) else (d, b)).map Prod.fst
      = attached.map Prod.fst := by
  rw [List.map_map]
  refine List.map_congr_left fun entry _ => ?_
  dsimp only [Function.comp_apply]
  split <;> rfl

theorem IsKeyed.read (keyed : w.IsKeyed) (device : Uuid) : (w.read device).2.IsKeyed := by
  unfold Worker.read
  split
  · split
    · next inbox _ => exact keyed.of_keys_eq (keys_map_ite device (fun b => { b with inbox }) _)
    · exact keyed
  · -- the device is not attached any more, and reads what was left for it
    split
    · split
      · exact keyed
      · exact keyed
    · exact keyed

variable {τ : Type} {T : Transport τ}

theorem IsKeyed.poll (keyed : w.IsKeyed) (now : Nanoseconds) (t : τ) :
    (Worker.poll T now w t).1.IsKeyed := by
  have renewed : (w.renew (T.receive t)).IsKeyed := by
    rw [renew_eq]
    exact keyed
  by_cases arrived : ∃ frame, (T.receive t).result = .ok (some frame)
  · obtain ⟨frame, arrived⟩ := arrived
    rw [poll_of_frame arrived]
    exact renewed.route now frame
  · rw [poll_of_nothing fun frame received => arrived ⟨frame, received⟩]
    exact renewed

theorem IsKeyed.act {x : Moment τ} (keyed : x.worker.IsKeyed) (e : Happening τ) :
    (x.act T e).worker.IsKeyed := by
  have acts := Moment.acts_act T x e
  generalize x.act T e = y at acts
  cases acts with
  | attach _ | late _ | detach _ | gone _ | queue _ | refuse _ | shutdown | outside _ | giveUp _
  | persist _ => exact keyed
  | read device => exact keyed.read device
  | closeInbox device =>
    exact keyed.of_keys_eq (keys_map_ite device (fun b => { b with inbox := b.inbox.close }) _)
  | work step =>
    cases step with
    | desert _ _ _ | begin _ _ _ => exact keyed.applyCommands
    | poll _ => exact keyed.poll _ _
    | rest _ | stop _ _ | send _ _ | turn _ _ | glance _ | watch _ | close _ _ | hang _ _ =>
      exact keyed

/-- **At every moment** of any run no device is attached twice. -/
theorem isKeyed_run (T : Transport τ) (timeout : Nanoseconds) (sizes : QueueSizes) (t : τ)
    (happenings : List (Happening τ)) :
    ((Moment.start timeout sizes t).run T happenings).worker.IsKeyed := by
  have run (x : Moment τ) (keyed : x.worker.IsKeyed) : (x.run T happenings).worker.IsKeyed := by
    induction happenings generalizing x with
    | nil => exact keyed
    | cons e happenings ih =>
      rw [Moment.run_cons]
      exact ih _ (keyed.act e)
  exact run _ List.nodup_nil

end Keys

/-! ### One device -/

section Fate

variable {w : Worker} {device : Uuid} {a : Attachment} {frame : Bytes} {m : Message}
  {now : Nanoseconds}

/-- **A frame reaches a device** that verifies with a key: it can be read, and the message is no
response to a keepalive, is meant for the device and is not wrong under the key. A message is meant
for a device if it names that device, or no device that is attached. -/
structure Reaches (w : Worker) (frame : Bytes) (m : Message) (device : Uuid) (key : Bytes) :
    Prop where
  decoded : Message.decode frame = .ok m
  other : ¬ (m.method = .keepalive ∧ (m.messageClass = .success ∨ m.messageClass = .error))
  meant : m.Names device ∨ ∀ named, m.Names named → w.attachment? named = none
  authentic : ∃ verdict, Integrity.verify frame key = .ok verdict

theorem isAddressed_iff :
    w.isAddressed m device = true ↔
      m.Names device ∨ ∀ named, m.Names named → w.attachment? named = none := by
  simp only [← Message.deviceId?_eq_some_iff_names]
  unfold isAddressed
  cases named : m.deviceId? with
  | none => simp
  | some other =>
    cases there : w.attachment? other with
    | none => simp [isAttached, there]
    | some b => simp [isAttached, there]

/-- **What an inbox makes of a message** that is offered in a frame the device trusts: one of three
things, each of which rules out the others. -/
theorem Attachment.apply_offer_iff {verdict : Integrity}
    (authentic : Integrity.verify frame a.key = .ok verdict) (m : Message) :
    (∀ m', (offer a frame m).apply a = some (a.receive m') ↔
        m = m' ∧ a.inbox.isOpen = true ∧ a.inbox.items.length < a.inbox.capacity) ∧
      ((offer a frame m).apply a = none ↔ a.inbox.isOpen = false) ∧
      ((offer a frame m).apply a = some a ↔
        a.inbox.isOpen = true ∧ a.inbox.capacity ≤ a.inbox.items.length) := by
  by_cases isOpen : a.inbox.isOpen = true
  · have opened : ¬ a.inbox.isOpen = false := by
      rw [isOpen]
      decide
    have kept := apply_offer_of_verify (m := m) isOpen authentic
    rw [BoundedQueue.push, if_neg opened] at kept
    by_cases full : a.inbox.capacity ≤ a.inbox.items.length
    · have kept : (offer a frame m).apply a = some a := by rwa [if_pos full] at kept
      rw [kept]
      refine ⟨fun m' => iff_of_false (fun same => ?_) fun h => Nat.not_lt.2 full h.2.2,
        iff_of_false (Option.some_ne_none a) opened, iff_of_true rfl ⟨isOpen, full⟩⟩
      exact Attachment.receive_ne_self (Option.some.inj same).symm
    · have room := Nat.lt_of_not_le full
      have kept : (offer a frame m).apply a = some (a.receive m) := by rwa [if_neg full] at kept
      rw [kept]
      refine ⟨fun m' => ⟨fun same => ?_, fun h => by rw [h.1]⟩,
        iff_of_false (Option.some_ne_none _) opened,
        iff_of_false (fun same => ?_) fun h => full h.2⟩
      · exact ⟨Attachment.receive_inj (Option.some.inj same), isOpen, room⟩
      · exact Attachment.receive_ne_self (Option.some.inj same)
  · have closed : a.inbox.isOpen = false := Bool.not_eq_true _ ▸ isOpen
    have gone : (offer a frame m).apply a = none := by
      rw [offer, authentic]
      dsimp only
      rw [BoundedQueue.push, if_pos closed]
      rfl
    have nothing (b : Attachment) : none ≠ some b := (Option.some_ne_none b).symm
    rw [gone]
    exact ⟨fun m' => iff_of_false (nothing _) fun h => isOpen h.2.1, iff_of_true rfl closed,
      iff_of_false (nothing a) fun h => isOpen h.1⟩

theorem attachment?_distribute_eq (keyed : w.IsKeyed) :
    (w.distribute frame m).1.attachment? device
      = (w.attachment? device).bind (w.handOut frame m device) := by
  rw [attachment?, attached_distribute]
  exact lookup_filterMap (w.handOut frame m) keyed

/-- **One device.** Where the frame reaches it, it is offered the message, and where it does not, it
is left as it was. -/
theorem attachment?_route (keyed : w.IsKeyed) (now : Nanoseconds) (frame : Bytes)
    (found : w.attachment? device = some a) :
    (∃ m, w.Reaches frame m device a.key ∧
        (w.route now frame).1.attachment? device = (Attachment.offer a frame m).apply a) ∨
      (∀ m, ¬ w.Reaches frame m device a.key) ∧
        (w.route now frame).1.attachment? device = some a := by
  obtain ⟨m, decoded, other, routed⟩ | ⟨answers, heartbeat, routed⟩ := route_cases w now frame
  · have unanswering : ¬ (m.method = .keepalive ∧
        (m.messageClass = .success ∨ m.messageClass = .error)) := by
      rw [← Heartbeat.isAnswer_eq_true_iff, other]
      decide
    rw [routed, attachment?_distribute_eq keyed, found, Option.bind_some, handOut]
    by_cases addressed : w.isAddressed m device = true
    · rw [if_pos addressed]
      cases authentic : Integrity.verify frame a.key with
      | ok verdict =>
        have meant := isAddressed_iff.1 addressed
        exact .inl ⟨m, ⟨decoded, unanswering, meant, verdict, authentic⟩, rfl⟩
      | error cause =>
        refine .inr ⟨fun m' reaches => ?_, ?_⟩
        · obtain ⟨verdict, trusted⟩ := reaches.authentic
          cases authentic.symm.trans trusted
        · rw [Attachment.offer, authentic]
          rfl
    · rw [if_neg addressed]
      refine .inr ⟨fun m' reaches => ?_, rfl⟩
      -- there is only one message that could reach the device
      obtain rfl : m = m' := Except.ok.inj (decoded.symm.trans reaches.decoded)
      exact addressed (isAddressed_iff.2 reaches.meant)
  · refine .inr ⟨fun m reaches => ?_, ?_⟩
    · exact reaches.other (Heartbeat.isAnswer_eq_true_iff.1 (answers m reaches.decoded))
    · rw [routed]
      exact found

theorem attachment?_route_of_none (keyed : w.IsKeyed) (absent : w.attachment? device = none) :
    (w.route now frame).1.attachment? device = none := by
  obtain ⟨m, -, -, routed⟩ | ⟨-, heartbeat, routed⟩ := route_cases w now frame
  · rw [routed, attachment?_distribute_eq keyed, absent]
    rfl
  · rw [routed]
    exact absent

end Fate

/-! ### All devices -/

/-- **A frame is delivered exactly to the right inboxes.** Of each attached device the following
holds. The message of the frame is put at the end of its inbox, once, if and only if the frame
reaches the device and there is room in an inbox that is open. The device is forgotten if and only if
the frame reaches it and its inbox is closed. It is left as it was if and only if the frame does not
reach it, or its inbox is full. No device comes to be attached by a frame, and besides the attached
devices the heartbeat alone may change: no other queue does. -/
theorem route_delivers_exactly {w : Worker} (keyed : w.IsKeyed) (now : Nanoseconds)
    (frame : Bytes) :
    (∀ device a, w.attachment? device = some a →
      (∀ m, (w.route now frame).1.attachment? device = some (a.receive m) ↔
          w.Reaches frame m device a.key ∧ a.inbox.isOpen = true ∧
            a.inbox.items.length < a.inbox.capacity) ∧
        ((w.route now frame).1.attachment? device = none ↔
          (∃ m, w.Reaches frame m device a.key) ∧ a.inbox.isOpen = false) ∧
        ((w.route now frame).1.attachment? device = some a ↔
          ∀ m, w.Reaches frame m device a.key →
            a.inbox.isOpen = true ∧ a.inbox.capacity ≤ a.inbox.items.length)) ∧
      (∀ device, w.attachment? device = none →
        (w.route now frame).1.attachment? device = none) ∧
      (w.route now frame).1 = { w with
        attached := (w.route now frame).1.attached
        heartbeat := (w.route now frame).1.heartbeat } := by
  refine ⟨fun device a found => ?_, fun device => attachment?_route_of_none keyed, ?_⟩
  · obtain ⟨m, reaches, offered⟩ | ⟨missed, same⟩ := attachment?_route keyed now frame found
    · have only {other : Message} (again : w.Reaches frame other device a.key) : m = other :=
        Except.ok.inj (reaches.decoded.symm.trans again.decoded)
      obtain ⟨verdict, authentic⟩ := reaches.authentic
      obtain ⟨waits, gone, stays⟩ := Attachment.apply_offer_iff authentic m
      rw [offered]
      refine ⟨fun other => (waits other).trans ⟨?_, ?_⟩, gone.trans ?_, stays.trans ⟨?_, ?_⟩⟩
      · rintro ⟨rfl, takes⟩
        exact ⟨reaches, takes⟩
      · rintro ⟨again, takes⟩
        exact ⟨only again, takes⟩
      · exact (and_iff_right ⟨m, reaches⟩).symm
      · intro lost other _
        exact lost
      · intro lost
        exact lost m reaches
    · -- the device is left as it was, and nothing that asks to reach it holds
      rw [same]
      refine ⟨fun other => ?_, ?_, ?_⟩
      · refine iff_of_false (fun same => ?_) fun h => missed other h.1
        exact Attachment.receive_ne_self (Option.some.inj same).symm
      · exact iff_of_false nofun fun ⟨⟨m, reaches⟩, _⟩ => missed m reaches
      · exact iff_of_true rfl fun m reaches => absurd reaches (missed m)
  · rw [← route_eq]

/-- A third device. -/
def toaster : Uuid := ⟨List.replicate 16 0x33, rfl⟩

/-- A request whose attribute for a device has three octets, so that it names none. -/
def garbledRequest : Message :=
  ⟨.request, .action, Heartbeat.keepaliveTransaction, [⟨.deviceId, [1, 2, 3]⟩]⟩

/-- The frame of `garbledRequest`. -/
def garbledFrame : Bytes :=
  [0x3A, 0xC5, 0x00, 0x08, 0x21, 0x12, 0xA4, 0x42] ++ Heartbeat.keepaliveTransaction.octets
    ++ [0x0C, 0x03, 0x00, 0x03, 1, 2, 3, 0]

/-- A worker with three devices: the oven has room in its inbox, the kettle has closed its inbox,
and the inbox of the toaster is full. -/
def busyWorker : Worker :=
  { Worker.start Heartbeat.defaultTimeout ⟨64, 256⟩ with
    attached := [(Heartbeat.oven, ⟨[0x6B], .empty 1⟩),
      (Heartbeat.kettle, ⟨[0x6C], (BoundedQueue.empty 1).close⟩),
      (toaster, ⟨[0x6D], ⟨[garbledRequest], 1, true⟩⟩)]
    hadDevices := true }

theorem route_delivers_garbledFrame :
    busyWorker.IsKeyed ∧
      ((busyWorker.route 5 garbledFrame).1.attachment? Heartbeat.oven).map (·.inbox.items)
        = some [garbledRequest] ∧
      (busyWorker.route 5 garbledFrame).1.attachment? Heartbeat.kettle = none ∧
      (busyWorker.route 5 garbledFrame).1.attachment? toaster = busyWorker.attachment? toaster := by
  have keyed : busyWorker.IsKeyed := by
    unfold IsKeyed
    decide
  have reaches {device : Uuid} {key : Bytes} :
      busyWorker.Reaches garbledFrame garbledRequest device key := by
    refine ⟨?_, by decide, .inr fun named names => ?_, .absent, ?_⟩
    · exact Outcome.toOption_eq_some_iff.1 (by decide +kernel)
    · have nobody : garbledRequest.deviceId? = none := by decide
      rw [← Message.deviceId?_eq_some_iff_names, nobody] at names
      cases names
    · -- without a tag there is nothing to be wrong under a key
      have untagged : Integrity.locate garbledFrame = none := by decide +kernel
      rw [Integrity.verify, untagged]
  obtain ⟨fates, -, -⟩ := route_delivers_exactly keyed 5 garbledFrame
  refine ⟨keyed, ?_, ?_, ?_⟩
  · have waits := ((fates Heartbeat.oven _ rfl).1 garbledRequest).2 ⟨reaches, rfl, by decide⟩
    rw [waits]
    rfl
  · exact (fates Heartbeat.kettle _ rfl).2.1.2 ⟨⟨_, reaches⟩, rfl⟩
  · refine (fates toaster _ rfl).2.2.2 fun m _ => ⟨rfl, ?_⟩
    decide

end Worker

end RelayDevice
