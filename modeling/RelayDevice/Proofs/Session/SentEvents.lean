import RelayDevice.Proofs.Session.EventNames
import RelayDevice.Proofs.Session.Parts

/-!
# Events that features send

A feature sends its events by the names that it declares, and the relay knows them by the names in
the descriptor. The other names of an installation are looked up twice on the way: once when the
descriptor is made, and once for every event that is sent. What is sent is then compared with the
names of all events of the device, which were taken from the descriptor when it came online.

`EventFate` is what may become of an event that is sent under a name: with one exception nothing is
queued, and the exceptions have reasons of their own, none of which is the name. The descriptor
lists the events of a feature in one piece and in the order of their declaration
(`Dispatcher.getElem?_events`), so it is known where to look for an event, whatever it is called
there. `MainLoop.event_sent_as_listed` says that it is sent under the name that is found in this
place.
-/

namespace RelayDevice

variable {σ φ : Type}

/-! ### Sending an event -/

/-- **What may become of an event** that is sent under a name: the result, and the queue afterwards.
One frame is queued, or none. -/
inductive EventFate (c : DeviceContext) (name : String) (payload : Bytes) (o : Outbox) :
    Except DeviceError Unit → BoundedQueue Bytes → Prop
  | queued {frame : Bytes} {m : Message} :
    o.queue.isOpen = true → o.queue.items.length < o.queue.capacity →
    Message.decode frame = .ok m → m.messageClass = .request → m.method = Method.event →
    m.text? .name = some name → m.attribute? .payload = some payload →
    EventFate c name payload o (.ok ()) { o.queue with items := o.queue.items ++ [frame] }
  | tooLarge {cause : FramingError} :
    65535 < (c.account.request o.stamp.1 c.device (.event name payload)).bodyLength
      (some c.account.key) →
    EventFate c name payload o (.error (.framing cause)) o.queue
  | full : o.queue.isOpen = true → o.queue.capacity ≤ o.queue.items.length →
    EventFate c name payload o (.error (.network .outboundFull)) o.queue
  | closed : o.queue.isOpen = false →
    EventFate c name payload o (.error (.network .workerStopped)) o.queue

namespace DeviceContext

theorem send_of_error {c : DeviceContext} {r : DeviceRequest} {o : Outbox} {cause : FramingError}
    (unwritten : c.account.frame o.stamp.1 c.device r = .error cause) :
    c.send r o = (.error (.framing cause), o.stamp.2) := by
  rw [send]
  dsimp only
  rw [unwritten]

theorem send_of_ok {c : DeviceContext} {r : DeviceRequest} {o : Outbox} {frame : Bytes}
    (written : c.account.frame o.stamp.1 c.device r = .ok frame) :
    c.send r o = o.stamp.2.push frame := by
  rw [send]
  dsimp only
  rw [written]

/-- The frame of an event says what was to be told, under the given name. -/
theorem eventFate_of_written {c : DeviceContext} {name : String} {payload : Bytes} {o : Outbox}
    {frame : Bytes}
    (written : c.account.frame o.stamp.1 c.device (.event name payload) = .ok frame) :
    EventFate c name payload o (o.stamp.2.push frame).1 (o.stamp.2.push frame).2.queue := by
  have same : o.stamp.2.queue = o.queue := rfl
  rw [Outbox.push, same, BoundedQueue.push]
  by_cases shut : o.queue.isOpen = false
  · rw [if_pos shut]
    exact .closed shut
  have isOpen : o.queue.isOpen = true := eq_true_of_ne_false shut
  rw [if_neg shut]
  by_cases taken : o.queue.capacity ≤ o.queue.items.length
  · rw [if_pos taken]
    exact .full isOpen taken
  rw [if_neg taken]
  -- the frame is read as the request that it was made from, but for the tag
  refine .queued isOpen (Nat.lt_of_not_le taken) (Message.decode_encoded written)
    (Message.messageClass_delivered ..) (Message.method_delivered ..) ?_ ?_
  · rw [Message.text?, Message.attribute?_delivered (by decide)]
    exact Utf8.decode?_encode name
  · rw [Message.attribute?_delivered (by decide)]
    rfl

/-- **Whatever is sent has its fate.** -/
theorem eventFate_send (c : DeviceContext) (name : String) (payload : Bytes) (o : Outbox) :
    EventFate c name payload o (c.send (.event name payload) o).1
      (c.send (.event name payload) o).2.queue := by
  cases written : c.account.frame o.stamp.1 c.device (.event name payload) with
  | ok frame =>
    rw [send_of_ok written]
    exact eventFate_of_written written
  | error cause =>
    rw [send_of_error written]
    refine .tooLarge (Nat.lt_of_not_le fun fits => ?_)
    -- nothing but its size keeps a frame from being written
    have readable := Message.encode_eq_ok fits
    rw [Account.frame, Account.sign, readable] at written
    cases written

end DeviceContext

/-! ### Events in the descriptor -/

namespace Dispatcher

theorem events_eq (d : Dispatcher σ φ) :
    d.descriptor.events
      = d.registry.declared.events ++ d.features.flatMap (·.descriptor.events) := by
  rw [descriptor_eq_foldl, Descriptor.foldl_append]
  dsimp only
  rw [List.flatMap_map]
  rfl

/-- How many events are listed before those of a feature: all of the device and of the features
before it. -/
def eventsBefore (d : Dispatcher σ φ) (before : List (Installed φ)) : Nat :=
  d.registry.declared.events.length + (before.map (·.registry.declared.events.length)).sum

/-- **Where an event is listed**, and how. -/
theorem getElem?_events {d : Dispatcher σ φ} {before after : List (Installed φ)} {f : Installed φ}
    (split : d.features = before ++ f :: after) {place : Nat} {event : Event}
    (declared : f.registry.declared.events[place]? = some event) :
    d.descriptor.events[d.eventsBefore before + place]?
      = some ⟨f.translate event.name, event.components⟩ := by
  have others : (before.flatMap (·.descriptor.events)).length
      = (before.map (·.registry.declared.events.length)).sum := by
    rw [List.length_flatMap]
    refine congrArg List.sum (List.map_congr_left fun g _ => ?_)
    exact List.length_map _
  have own : f.descriptor.events[place]? = some ⟨f.translate event.name, event.components⟩ := by
    rw [Installed.descriptor, List.getElem?_map]
    exact congrArg (Option.map _) declared
  obtain ⟨early, -⟩ := List.getElem?_eq_some_iff.1 own
  -- past the device's events, and those of the features before
  rw [events_eq, split, eventsBefore, Nat.add_assoc,
    List.getElem?_append_right (Nat.le_add_right ..), Nat.add_sub_cancel_left,
    List.flatMap_append, ← others, List.getElem?_append_right (Nat.le_add_right ..),
    Nat.add_sub_cancel_left, List.flatMap_cons, List.getElem?_append_left early, own]

theorem translate_mem_eventNames {d : Dispatcher σ φ} {f : Installed φ} (member : f ∈ d.features)
    {event : Event} (declared : event ∈ f.registry.declared.events) :
    f.translate event.name ∈ d.eventNames := by
  rw [eventNames_eq, List.mem_append, List.mem_flatMap]
  refine .inr ⟨f, member, ?_⟩
  rw [Installed.eventNames_eq]
  exact List.mem_map_of_mem (List.mem_map_of_mem declared)

end Dispatcher

/-! ### Calls of a feature -/

namespace Installed

theorem hasEvent_iff (i : Installed φ) (name : String) :
    i.registry.hasEvent name = true ↔ name ∈ i.registry.declared.events.map (·.name) := by
  rw [Registry.hasEvent, Registry.event?, List.find?_isSome, List.mem_map]
  simp

/-- An event of its own is passed on under its other name. -/
theorem perform_declared {i : Installed φ} {event : Event}
    (declared : event ∈ i.registry.declared.events) {c : DeviceContext}
    (known : i.translate event.name ∈ c.events) (payload : Bytes) (o : Outbox) :
    i.perform c (.event event.name payload) o
      = c.send (.event (i.translate event.name) payload) o := by
  have own := (i.hasEvent_iff event.name).2 (List.mem_map_of_mem declared)
  rw [perform, if_pos own, DeviceContext.perform, if_pos known]
  rfl

/-- Any other event is refused, before anything is made of it. -/
theorem perform_undeclared {i : Installed φ} {name : String}
    (undeclared : name ∉ i.registry.declared.events.map (·.name)) (c : DeviceContext)
    (payload : Bytes) (o : Outbox) :
    i.perform c (.event name payload) o = (.error (.capability (.unknown .event name)), o) := by
  have foreign : ¬ i.registry.hasEvent name = true := mt (i.hasEvent_iff name).1 undeclared
  rw [perform, if_neg foreign]

end Installed

/-- **Events are sent under the names that the descriptor lists.** Take any device that is online,
put together from any parts and with any other names for events, and any of its features. An event
that the feature declares is listed in the descriptor, in the place that the feature and the order
of its declarations give it. When the feature sends the event, either one frame is queued, with the
name that is listed in this place, or nothing is queued, since the frame is too large, or the queue
has no room or is closed. The name is never at fault. Any other name is, whoever else may declare
it, or if it is the other name of an event: then nothing is queued either. -/
theorem MainLoop.event_sent_as_listed {l : MainLoop σ φ} (online : l.IsOnline)
    {before after : List (Installed φ)} {f : Installed φ}
    (split : l.dispatcher.features = before ++ f :: after) (payload : Bytes) (o : Outbox) :
    (∀ place event, f.registry.declared.events[place]? = some event →
      ∃ listed, l.dispatcher.descriptor.events[l.dispatcher.eventsBefore before + place]?
          = some ⟨listed, event.components⟩ ∧
        EventFate l.context listed payload o
          (f.perform l.context (.event event.name payload) o).1
          (f.perform l.context (.event event.name payload) o).2.queue) ∧
    ∀ name, name ∉ f.registry.declared.events.map (·.name) →
      f.perform l.context (.event name payload) o
        = (.error (.capability (.unknown .event name)), o) := by
  refine ⟨fun place event declared => ?_, fun name undeclared => ?_⟩
  · refine ⟨f.translate event.name, Dispatcher.getElem?_events split declared, ?_⟩
    have member : f ∈ l.dispatcher.features := by
      rw [split]
      exact List.mem_append_right before List.mem_cons_self
    have own := List.mem_of_getElem? declared
    -- what may be told was read off the descriptor
    have known : f.translate event.name ∈ l.context.events := by
      rw [online.context_eq]
      exact Dispatcher.translate_mem_eventNames member own
    rw [Installed.perform_declared own known]
    exact l.context.eventFate_send ..
  · exact Installed.perform_undeclared undeclared l.context payload o

/-! ### A door with a bell -/

namespace Dispatcher

theorem check_door : (announcer "door" ["opened"]).declared.check = .ok () := by decide +kernel

theorem check_doorbell : (announcer "bell" ["rang", "rested"]).declared.check = .ok () := by
  decide +kernel

/-- A bell whose two events are known by each other's names. -/
def doorbell : Installed Unit :=
  ⟨announcer "bell" ["rang", "rested"], ⟨_, check_doorbell⟩,
    [("rang", "rested"), ("rested", "rang")], (), 0⟩

/-- A door with this bell. -/
def door : DeviceSession Unit Unit :=
  { name := "door", uuid := ⟨List.replicate 16 2, rfl⟩, isNew := false, state := .registered
    timing := .standard
    device := ⟨fun s => (s, none), fun s => .done (s, none), fun _ => none⟩
    dispatcher := ⟨(), ⟨_, check_door⟩, [doorbell], ⟨"u", "k"⟩⟩ }

/-- The main loop of the door, once it is online. -/
def doorLoop : MainLoop Unit Unit := (Startup.enter door [] 0 ⟨.empty 3, fun _ => default, 0⟩).1

/-- What the bell declares first is listed second, after the event of the door, and one frame is
queued for it under the name that is found there. The event of the door is not the bell's. -/
theorem event_sent_doorbell :
    let o : Outbox := ⟨.empty 3, fun _ => default, 0⟩
    let rung := doorbell.perform doorLoop.context (.event "rang" [1]) o
    doorLoop.dispatcher.descriptor.events.map (·.name) = ["opened", "rested", "rang"] ∧
      rung.2.queue.items.length = 1 ∧
      EventFate doorLoop.context "rested" [1] o rung.1 rung.2.queue ∧
      doorbell.perform doorLoop.context (.event "opened" [1]) o
        = (.error (.capability (.unknown .event "opened")), o) := by
  intro o rung
  have split : doorLoop.dispatcher.features = [] ++ doorbell :: [] := rfl
  obtain ⟨own, foreign⟩ := MainLoop.event_sent_as_listed (.entered door [] 0 o) split [1] o
  obtain ⟨listed, found, fate⟩ := own 0 ⟨"rang", []⟩ (by decide +kernel)
  have second : doorLoop.dispatcher.descriptor.events[1]? = some ⟨"rested", []⟩ := by decide +kernel
  obtain ⟨rfl, -⟩ := Event.mk.inj (Option.some.inj (found.symm.trans second))
  exact ⟨by decide +kernel, by decide +kernel, fate, foreign "opened" (by decide +kernel)⟩

end Dispatcher

end RelayDevice
