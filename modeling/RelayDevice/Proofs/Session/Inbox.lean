import RelayDevice.Proofs.Link.Run
import RelayDevice.Proofs.Session.Course

/-!
# The inbox of a lone device

A worker with one device keeps the messages for it in one place after another: the device brings
its inbox along with the request to be attached (`Worker.Place.requested`), and once the worker has
taken that up the inbox stands with the others (`Worker.Place.attached`). `Worker.Keeps` says that
what is found there is what an `Inlet` holds.

* `Worker.Keeps.read` — what the device reads is what it would take out of the inlet;
* `Worker.Keeps.pass` — a pass of the worker is for the device the arrival of a message, or the end
  of the worker, or nothing.

The second rests on `Worker.pass_cases`, by which a pass is one poll of the transport and nothing
else that devices could notice, unless it is the last one.
-/

namespace RelayDevice

/-- What a pass of the worker may make of an inbox. It stays as it is, a message comes, or the
worker is gone. -/
def Inlet.Becomes (i j : Inlet) : Prop := j = i ∨ (∃ m, j = i.deliver m) ∨ j = i.forsake

theorem Inlet.deliver_of_push {i : Inlet} {m : Message} {queue : BoundedQueue Message}
    (served : i.isServed = true) (pushed : i.queue.push m = .ok queue) :
    i.deliver m = { i with queue, delivered := i.delivered ++ [m] } := by
  rw [deliver, if_pos served, pushed]

/-! ### The inbox of a lone device -/

namespace Worker

variable {w : Worker} {device : Uuid} {i : Inlet}

/-- Where the inbox of a worker's only device is: with the worker, or still with the request to be
attached. A device that comes when the worker has ended has none. -/
inductive Place (w : Worker) (device : Uuid) (queue : BoundedQueue Message) : Prop
  | attached (key : Bytes) (attached : w.attached = [(device, ⟨key, queue⟩)])
    (commands : w.commands = [])
  | requested (key : Bytes) (attached : w.attached = [])
    (commands : w.commands = [.attach device ⟨key, queue⟩]) (items : queue.items = [])
  | refused (attached : w.attached = []) (commands : w.commands = []) (items : queue.items = [])
    (ended : w.phase = .ended)

/-- The worker keeps the inbox of its only device. -/
structure Keeps (w : Worker) (device : Uuid) (i : Inlet) : Prop where
  detached : w.detached = []
  place : w.Place device i.queue
  isOpen : i.queue.isOpen = true
  isServed : i.isServed = decide (w.phase ≠ .ended)

/-- No device has turned to the worker yet. -/
structure IsAlone (w : Worker) (i : Inlet) : Prop where
  detached : w.detached = []
  attached : w.attached = []
  commands : w.commands = []
  hadDevices : w.hadDevices = false
  queue : i.queue = .empty w.inboxCapacity
  isServed : i.isServed = decide (w.phase ≠ .ended)

theorem read_of_not_attached (detached : w.detached = []) (attached : w.attached = [])
    (requested : w.phase ≠ .ended → ∃ a, w.commands = [.attach device a]) :
    w.read device = (if w.phase = .ended then .disconnected else .nothing, w) := by
  have attachment : w.attachment? device = none := by
    rw [attachment?, attached]
    rfl
  unfold Worker.read
  rw [attachment, detached]
  by_cases ended : w.phase = .ended
  · simp [ended]
  · obtain ⟨a, commands⟩ := requested ended
    simp [ended, commands]

/-- What a device reads out of its inbox is what it takes out of the inlet. -/
theorem Keeps.read (keeps : w.Keeps device i) (awaiting : Option Attempt) :
    (w.read device).1 = (i.take awaiting).1 ∧
      (w.read device).2.Keeps device (i.take awaiting).2 := by
  have served := keeps.isServed
  have nothing : (if w.phase = .ended then Arrival.disconnected else .nothing) =
      if i.isServed then .nothing else .disconnected := by
    rw [served]
    by_cases ended : w.phase = .ended <;> simp [ended]
  cases keeps.place with
  | attached key attached commands =>
    have attachment : w.attachment? device = some ⟨key, i.queue⟩ := by
      rw [attachment?, attached, List.lookup_cons_self]
    cases waiting : i.queue.items with
    | nil =>
      have read : w.read device = (if w.phase = .ended then .disconnected else .nothing, w) := by
        unfold Worker.read
        rw [attachment]
        simp only [BoundedQueue.pop, waiting]
      rw [read, Inlet.take_of_nil waiting]
      exact ⟨nothing, keeps⟩
    | cons m rest =>
      have read : w.read device = (.message m, { w with
          attached := [(device, ⟨key, { i.queue with items := rest }⟩)] }) := by
        unfold Worker.read
        rw [attachment]
        simp [BoundedQueue.pop, waiting, attached]
      rw [read, Inlet.take_of_cons waiting]
      exact ⟨rfl, keeps.detached, .attached key rfl commands, keeps.isOpen, served⟩
  | requested key attached commands items =>
    rw [read_of_not_attached keeps.detached attached fun _ => ⟨_, commands⟩,
      Inlet.take_of_nil items]
    exact ⟨nothing, keeps⟩
  | refused attached commands items ended =>
    rw [read_of_not_attached keeps.detached attached fun going => absurd ended going,
      Inlet.take_of_nil items]
    exact ⟨nothing, keeps⟩

/-! ### Passes -/

section Passes

variable {τ : Type} (T : Transport τ) (now later : Nanoseconds) (w : Worker) (t : τ)

/-- A worker that finishes keeps what it has of devices. -/
theorem finish_eq : (finish T w t).1 = { w with
    heartbeat := (finish T w t).1.heartbeat
    outbound := (finish T w t).1.outbound
    cancelled := (finish T w t).1.cancelled
    phase := (finish T w t).1.phase } := by
  unfold finish
  dsimp only
  split
  · rw [drain_eq]
  · rw [finalize, drain_eq]
  · rw [finalize, drain_eq]

/-- What a pass comes to: nothing, the end of the worker, or the arrival of a frame. -/
theorem pass_cases :
    (w.pass T now later t).1 = w ∨
    (w.phase = .running ∧ (w.pass T now later t).1 = (finish T w t).1) ∨
    (w.phase = .running ∧ w.applyCommands.isDeserted = true ∧
      (w.pass T now later t).1 = (finish T w.applyCommands t).1) ∨
    (w.phase = .running ∧ (w.pass T now later t).1 = { (poll T now w.applyCommands t).1 with
      heartbeat := (w.pass T now later t).1.heartbeat
      outbound := (w.pass T now later t).1.outbound }) := by
  unfold pass
  by_cases running : w.phase = .running
  swap
  · rw [if_pos running]
    exact .inl rfl
  refine .inr ?_
  rw [if_neg (not_not.2 running)]
  cases w.cancelled with
  | true => exact .inl ⟨running, rfl⟩
  | false =>
    refine .inr ?_
    dsimp only
    cases deserted : w.applyCommands.isDeserted with
    | true => exact .inl ⟨running, rfl, rfl⟩
    | false =>
      refine .inr ⟨running, ?_⟩
      simp only [Bool.false_eq_true, if_false]
      rw [watch_eq, drain_eq]

variable {w}

/-- An offer to a device that takes messages: the attachment stays as it is, or the message has come
to its inbox. -/
theorem Attachment.apply_offer {a : Attachment} (isOpen : a.inbox.isOpen = true) (frame : Bytes)
    (m : Message) : (offer a frame m).apply a = some a ∨
      ∃ inbox, a.inbox.push m = .ok inbox ∧ (offer a frame m).apply a = some { a with inbox } := by
  unfold offer
  cases Integrity.verify frame a.key with
  | error cause => exact .inl rfl
  | ok verdict =>
    dsimp only
    cases pushed : a.inbox.push m with
    | ok inbox => exact .inr ⟨inbox, rfl, rfl⟩
    | error refusal =>
      cases refusal with
      | full => exact .inl rfl
      | closed =>
        rw [BoundedQueue.push, isOpen, if_neg (by decide)] at pushed
        split at pushed <;> cases pushed

theorem attached_route_of_nil (attached : w.attached = []) (frame : Bytes) :
    (w.route now frame).1.attached = [] := by
  obtain ⟨m, -, -, routed⟩ | ⟨-, heartbeat, routed⟩ := route_cases w now frame
  · rw [routed, distribute, attached]
    rfl
  · rw [routed]
    exact attached

/-- A frame that arrives may be a message for the only device, whose inbox then grows by it. -/
theorem attached_route {device : Uuid} {a : Attachment} (attached : w.attached = [(device, a)])
    (isOpen : a.inbox.isOpen = true) (frame : Bytes) :
    (w.route now frame).1.attached = [(device, a)] ∨
      ∃ m inbox, a.inbox.push m = .ok inbox ∧
        (w.route now frame).1.attached = [(device, { a with inbox })] := by
  obtain ⟨m, -, -, routed⟩ | ⟨-, heartbeat, routed⟩ := route_cases w now frame
  · rw [routed, distribute, attached]
    cases addressed : w.isAddressed m device with
    | false => exact .inl (by simp [addressed])
    | true =>
      obtain same | ⟨inbox, pushed, grown⟩ := Attachment.apply_offer isOpen frame m
      · exact .inl (by simp [addressed, same])
      · exact .inr ⟨m, inbox, pushed, by simp [addressed, grown]⟩
  · rw [routed]
    exact .inl attached

/-- What is polled is a frame, or nothing that concerns a device. -/
theorem attached_poll (T : Transport τ) (now : Nanoseconds) (w : Worker) (t : τ) :
    (poll T now w t).1.attached = w.attached ∨
      ∃ u frame, u.attached = w.attached ∧
        (poll T now w t).1.attached = (route u now frame).1.attached := by
  unfold poll
  dsimp only
  split
  · exact .inl (by rw [renew_eq])
  · exact .inl (by rw [renew_eq])
  · next frame _ => exact .inr ⟨_, frame, by rw [renew_eq], rfl⟩

theorem Keeps.congr {v : Worker} {device : Uuid} {i j : Inlet} (keeps : w.Keeps device i)
    (detached : v.detached = w.detached) (attached : v.attached = w.attached)
    (commands : v.commands = w.commands) (ended : w.phase = .ended → v.phase = .ended)
    (queue : j.queue = i.queue) (isServed : j.isServed = decide (v.phase ≠ .ended)) :
    v.Keeps device j := by
  refine ⟨detached.trans keeps.detached, ?_, queue ▸ keeps.isOpen, isServed⟩
  rw [queue]
  cases keeps.place with
  | attached key there none => exact .attached key (attached.trans there) (commands.trans none)
  | requested key none request items =>
    exact .requested key (attached.trans none) (commands.trans request) items
  | refused none nothing items gone =>
    exact .refused (attached.trans none) (commands.trans nothing) items (ended gone)

theorem Keeps.isServed_of_running {device : Uuid} {i : Inlet} (keeps : w.Keeps device i)
    (running : w.phase = .running) : i.isServed = true := by
  rw [keeps.isServed, running]
  rfl

/-- Once its commands are applied, a worker has its device attached. -/
theorem Keeps.applyCommands {device : Uuid} {i : Inlet} (keeps : w.Keeps device i)
    (running : w.phase = .running) :
    w.applyCommands.detached = [] ∧ w.applyCommands.commands = [] ∧
      ∃ key, w.applyCommands.attached = [(device, ⟨key, i.queue⟩)] := by
  cases keeps.place with
  | attached key attached commands =>
    rw [Worker.applyCommands, commands]
    exact ⟨keeps.detached, rfl, key, attached⟩
  | requested key attached commands =>
    simp [Worker.applyCommands, commands, applyCommand, keeps.detached, attached]
  | refused _ _ _ ended => cases running.symm.trans ended

/-- A worker that finishes is gone, unless its transport hangs. -/
theorem exists_becomes_of_finish {i : Inlet} (served : i.isServed = true) (t : τ) :
    ∃ j, i.Becomes j ∧ j.queue = i.queue ∧
      j.isServed = decide ((finish T w t).1.phase ≠ .ended) := by
  by_cases ended : (finish T w t).1.phase = .ended
  · exact ⟨i.forsake, .inr (.inr rfl), rfl, (decide_eq_false (not_not.2 ended)).symm⟩
  · exact ⟨i, .inl rfl, rfl, served.trans (decide_eq_true ended).symm⟩

/-- **A pass of the worker**, as its only device sees it. -/
theorem Keeps.pass {device : Uuid} {i : Inlet} (keeps : w.Keeps device i) (t : τ) :
    ∃ j, i.Becomes j ∧ (w.pass T now later t).1.Keeps device j := by
  obtain same | ⟨running, passed⟩ | ⟨running, deserted, -⟩ | ⟨running, passed⟩ :=
    pass_cases T now later w t
  · rw [same]
    exact ⟨i, .inl rfl, keeps⟩
  · obtain ⟨j, becomes, queue, served⟩ :=
      exists_becomes_of_finish T (keeps.isServed_of_running running) t
    refine ⟨j, becomes, ?_⟩
    rw [passed]
    refine keeps.congr ?_ ?_ ?_ (fun ended => ?_) queue served
    · rw [finish_eq]
    · rw [finish_eq]
    · rw [finish_eq]
    · cases running.symm.trans ended
  · -- a worker that has its device attached is not deserted
    obtain ⟨-, -, key, attached⟩ := keeps.applyCommands running
    rw [isDeserted, attached, Bool.and_eq_true] at deserted
    cases deserted.2
  · obtain ⟨detached, commands, key, attached⟩ := keeps.applyCommands running
    have served := keeps.isServed_of_running running
    -- whatever the poll makes of the inbox, the rest of the pass leaves it alone
    have polled : ∀ j : Inlet, j.isServed = true → j.queue.isOpen = true →
        (poll T now w.applyCommands t).1.attached = [(device, ⟨key, j.queue⟩)] →
        (w.pass T now later t).1.Keeps device j := by
      intro j served isOpen attached
      refine ⟨?_, .attached key ?_ ?_, isOpen, ?_⟩
      · rw [passed, poll_eq]
        exact detached
      · rw [passed]
        exact attached
      · rw [passed, poll_eq]
        exact commands
      · rw [passed, poll_eq, applyCommands_eq, served, running]
        rfl
    obtain same | ⟨u, frame, before, routed⟩ := attached_poll T now w.applyCommands t
    · exact ⟨i, .inl rfl, polled i served keeps.isOpen (same.trans attached)⟩
    · obtain same | ⟨m, inbox, pushed, grown⟩ :=
        attached_route now (before.trans attached) keeps.isOpen frame
      · exact ⟨i, .inl rfl, polled i served keeps.isOpen (routed.trans same)⟩
      · have delivered := Inlet.deliver_of_push served pushed
        refine ⟨i.deliver m, .inr (.inl ⟨m, rfl⟩), ?_⟩
        rw [delivered]
        refine polled _ served ?_ (routed.trans grown)
        exact (BoundedQueue.isOpen_of_push pushed).trans keeps.isOpen

theorem IsAlone.congr {v : Worker} {i j : Inlet} (alone : w.IsAlone i)
    (same : v = { w with
      heartbeat := v.heartbeat
      outbound := v.outbound
      cancelled := v.cancelled
      phase := v.phase })
    (queue : j.queue = i.queue) (isServed : j.isServed = decide (v.phase ≠ .ended)) :
    v.IsAlone j := by
  refine ⟨?_, ?_, ?_, ?_, ?_, isServed⟩
  · rw [same]
    exact alone.detached
  · rw [same]
    exact alone.attached
  · rw [same]
    exact alone.commands
  · rw [same]
    exact alone.hadDevices
  · rw [same, queue]
    exact alone.queue

/-- A worker without devices hands nothing on. -/
theorem IsAlone.pass {i : Inlet} (alone : w.IsAlone i) (t : τ) :
    ∃ j, i.Becomes j ∧ (w.pass T now later t).1.IsAlone j := by
  have applied : w.applyCommands = w := by
    rw [Worker.applyCommands, alone.commands, List.foldl_nil, ← alone.commands]
  obtain same | ⟨running, passed⟩ | ⟨-, deserted, -⟩ | ⟨running, passed⟩ :=
    pass_cases T now later w t
  · rw [same]
    exact ⟨i, .inl rfl, alone⟩
  · have served : i.isServed = true := by
      rw [alone.isServed, running]
      rfl
    obtain ⟨j, becomes, queue, served⟩ := exists_becomes_of_finish T served t
    refine ⟨j, becomes, ?_⟩
    rw [passed]
    exact alone.congr (finish_eq T w t) queue served
  · rw [applied, isDeserted, alone.hadDevices] at deserted
    cases deserted
  · have attached : (poll T now w t).1.attached = w.attached := by
      obtain same | ⟨u, frame, before, routed⟩ := attached_poll T now w t
      · exact same
      · rw [routed, attached_route_of_nil now (before.trans alone.attached) frame, alone.attached]
    refine ⟨i, .inl rfl, alone.congr ?_ rfl ?_⟩
    · rw [passed, applied, poll_eq, attached]
    · rw [passed, applied, poll_eq]
      exact alone.isServed

end Passes

end Worker

end RelayDevice
