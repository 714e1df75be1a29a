import Mathlib.Data.List.Basic
import RelayDevice.Link.Worker
import RelayDevice.Proofs.Link.Ownership
import RelayDevice.Proofs.Lookup

/-!
# What becomes of a frame that arrives

A frame that can be read is for the heartbeat alone if it answers a keepalive
(`Worker.route_of_answer`), and for the devices alone if it does not
(`Worker.route_of_not_answer`); `Worker.route_cases` tells the two apart where the heartbeat does not
matter. Only the devices ask for the authentication of a frame.

A frame is forged for a worker (`Worker.IsForged`) if its authentication attribute is wrong under
the key of every attached device. No device is handed such a frame, so the inboxes and the attached
devices stay as they are (`Worker.distribute_of_wrong`). The heartbeat may still take note of it.
`Worker.route_of_forged` says that this is all that becomes of a forged frame, and that it happens
exactly where the frame is news to the heartbeat (`Heartbeat.IsNews`).

A heartbeat keeps the devices it has seen in a list whose order no call depends on, so two
heartbeats are compared by what they tell of each device (`Heartbeat.Same`).
-/

namespace RelayDevice

/-! ### What a heartbeat tells -/

namespace Heartbeat

/-- Two heartbeats tell the same: of each device whether it was seen and answered, who the owner is,
and when it was last answered. -/
structure Same (h k : Heartbeat) : Prop where
  timeout_eq : h.timeout = k.timeout
  owner_eq : h.owner = k.owner
  lookup_seen_eq : ∀ device, List.lookup device h.seen = List.lookup device k.seen
  lastOwnerAnswer_eq : h.lastOwnerAnswer = k.lastOwnerAnswer

theorem Same.refl (h : Heartbeat) : h.Same h := ⟨rfl, rfl, fun _ => rfl, rfl⟩

/-- A message is news: it answers a keepalive, and either the device that it is credited to was not
answered before, or that device owns the heartbeat and was last answered at another time. -/
def IsNews (h : Heartbeat) (now : Nanoseconds) (m : Message) : Prop :=
  isAnswer m = true ∧ ∃ device, (m.deviceId? <|> h.owner) = some device ∧
    (h.isAcknowledged device = false ∨ h.owner = some device ∧ h.lastOwnerAnswer ≠ some now)

variable {h : Heartbeat} {device other : Uuid} {now : Nanoseconds} {m : Message}

theorem lookup_note_self {answered : Bool} :
    List.lookup device (h.note device answered).seen = some answered :=
  List.lookup_cons_self

theorem lookup_note_of_ne {answered : Bool} (another : other ≠ device) :
    List.lookup other (h.note device answered).seen = List.lookup other h.seen := by
  rw [note, List.lookup_cons, beq_false_of_ne another]
  exact lookup_filter_ne h.seen another

theorem isAcknowledged_eq_true_iff :
    h.isAcknowledged device = true ↔ List.lookup device h.seen = some true := by
  rw [isAcknowledged]
  cases List.lookup device h.seen with
  | none => exact iff_of_false nofun nofun
  | some answered => rw [Option.getD_some, Option.some.injEq]

/-- **A note is taken** exactly of what is news. -/
theorem same_acknowledge_iff : (h.acknowledge now m).2.Same h ↔ ¬ h.IsNews now m := by
  cases answer : isAnswer m with
  | false =>
    rw [acknowledge_of_not_answer answer]
    refine iff_of_true (Same.refl h) fun news => ?_
    rw [news.1] at answer
    cases answer
  | true =>
    cases credited : (m.deviceId? <|> h.owner) with
    | none =>
      rw [acknowledge_of_credited_none answer credited]
      refine iff_of_true (Same.refl h) ?_
      rintro ⟨-, device, some, -⟩
      rw [credited] at some
      cases some
    | some device =>
      rw [acknowledge_of_credited answer credited]
      constructor
      · rintro same ⟨-, other, again, news⟩
        obtain rfl : device = other := Option.some.inj (credited.symm.trans again)
        rcases news with unanswered | ⟨own, earlier⟩
        · -- after the note the device counts as answered, so before as well
          have answered := (same.lookup_seen_eq device).symm.trans lookup_note_self
          rw [← isAcknowledged_eq_true_iff, unanswered] at answered
          cases answered
        · have noted := same.lastOwnerAnswer_eq
          dsimp only at noted
          rw [if_pos own] at noted
          exact earlier noted.symm
      · intro old
        have answered : h.isAcknowledged device = true := by
          by_contra unanswered
          exact old ⟨answer, device, credited, .inl (Bool.not_eq_true _ ▸ unanswered)⟩
        refine ⟨rfl, rfl, fun other => ?_, ?_⟩
        · by_cases same : other = device
          · subst same
            exact lookup_note_self.trans (isAcknowledged_eq_true_iff.1 answered).symm
          · exact lookup_note_of_ne same
        · dsimp only
          split
          · next own =>
            by_contra earlier
            exact old ⟨answer, device, credited, .inr ⟨own, fun same => earlier same.symm⟩⟩
          · rfl

end Heartbeat

/-! ### Handing a frame on -/

namespace Worker

variable {w : Worker} {now : Nanoseconds} {frame : Bytes} {m : Message}

/-- Answers to keepalives are for the heartbeat alone. -/
theorem route_of_answer (decoded : Message.decode frame = .ok m)
    (answer : Heartbeat.isAnswer m = true) :
    w.route now frame = ({ w with heartbeat := (w.heartbeat.acknowledge now m).2 }, []) := by
  have noted : w.heartbeat.acknowledge now m = (true, (w.heartbeat.acknowledge now m).2) :=
    Prod.ext (Heartbeat.acknowledge_fst.trans answer) rfl
  rw [route, decoded]
  dsimp only
  rw [noted]

/-- Any other message is for the devices alone. -/
theorem route_of_not_answer (decoded : Message.decode frame = .ok m)
    (other : Heartbeat.isAnswer m = false) : w.route now frame = w.distribute frame m := by
  rw [route, decoded]
  dsimp only
  rw [Heartbeat.acknowledge_of_not_answer other]

/-- **The exits.** A frame is handed to the devices, or else it cannot be read or answers a keepalive
and leaves them alone. -/
theorem route_cases (w : Worker) (now : Nanoseconds) (frame : Bytes) :
    (∃ m, Message.decode frame = .ok m ∧ Heartbeat.isAnswer m = false ∧
        w.route now frame = w.distribute frame m) ∨
      (∀ m, Message.decode frame = .ok m → Heartbeat.isAnswer m = true) ∧
        ∃ heartbeat, (w.route now frame).1 = { w with heartbeat } := by
  cases decoded : Message.decode frame with
  | error e =>
    refine .inr ⟨fun m read => (by cases read), w.heartbeat, ?_⟩
    rw [route, decoded]
  | ok m =>
    cases answer : Heartbeat.isAnswer m with
    | true =>
      refine .inr ⟨fun other read => ?_, (w.heartbeat.acknowledge now m).2, ?_⟩
      · exact Except.ok.inj read ▸ answer
      · rw [route_of_answer decoded answer]
    | false => exact .inl ⟨m, rfl, answer, route_of_not_answer decoded answer⟩

/-- **No device is handed what is wrong under its key.** So each keeps its inbox, and none is
forgotten for having closed it. -/
theorem distribute_of_wrong
    (wrong : ∀ entry ∈ w.attached, ∃ cause, Integrity.verify frame entry.2.key = .error cause) :
    (w.distribute frame m).1 = w := by
  have kept : (w.distribute frame m).1.attached = w.attached := by
    rw [distribute, List.filterMap_map]
    refine (List.filterMap_congr fun entry among => ?_).trans List.filterMap_some
    obtain ⟨cause, refused⟩ := wrong entry among
    have offer : Attachment.offer entry.2 frame m = .refused cause := by
      rw [Attachment.offer, refused]
    dsimp only [Function.comp_apply]
    rw [offer]
    -- whether or not the frame is for the device
    cases w.isAddressed m entry.1 with
    | true => rfl
    | false => rfl
  calc (w.distribute frame m).1
      = { w with attached := (w.distribute frame m).1.attached } := rfl
    _ = w := by rw [kept]

/-! ### Forged frames -/

/-- **Forged.** A frame that can be read and has an authentication attribute, which is wrong under
the key of every device. There is a device to be fooled. -/
structure IsForged (w : Worker) (frame : Bytes) (m : Message) : Prop where
  attached_ne_nil : w.attached ≠ []
  decoded : Message.decode frame = .ok m
  hasAttribute : m.hasAttribute .messageIntegrity = true
  wrong : ∀ entry ∈ w.attached, ∃ cause, Integrity.verify frame entry.2.key = .error cause

/-- **A forged frame** changes nothing but the heartbeat: the devices stay attached, with the
inboxes they had. The heartbeat, which asks for no key, changes exactly where the frame is news to
it. -/
theorem route_of_forged (forged : w.IsForged frame m) (now : Nanoseconds) :
    (w.route now frame).1 = { w with heartbeat := (w.route now frame).1.heartbeat } ∧
      ((w.route now frame).1.heartbeat.Same w.heartbeat ↔ ¬ w.heartbeat.IsNews now m) := by
  have routed : (w.route now frame).1
      = { w with heartbeat := (w.heartbeat.acknowledge now m).2 } := by
    cases answer : Heartbeat.isAnswer m with
    | true => rw [route_of_answer forged.decoded answer]
    | false =>
      rw [route_of_not_answer forged.decoded answer, distribute_of_wrong forged.wrong,
        Heartbeat.acknowledge_of_not_answer answer]
  rw [routed]
  exact ⟨rfl, Heartbeat.same_acknowledge_iff⟩

/-- A worker with one device, whose first keepalive was sent. -/
def ovenWorker : Worker :=
  let w := Worker.start Heartbeat.defaultTimeout ⟨64, 256⟩
  { w with
    heartbeat := (w.heartbeat.offer Heartbeat.oven).2
    attached := [(Heartbeat.oven, ⟨[0x6B], .empty 64⟩)]
    hadDevices := true }

/-- A frame of a message type that names the oven, with a tag of zeros. -/
def zeroTagged (type : UInt16) : Bytes :=
  Bytes.ofUInt16 type
    ++ [0x00, 0x2C, 0x21, 0x12, 0xA4, 0x42] ++ Heartbeat.keepaliveTransaction.octets
    ++ [0x0C, 0x03, 0x00, 0x10] ++ Heartbeat.oven.octets
    ++ [0x00, 0x08, 0x00, 0x14] ++ List.replicate 20 0

/-- What such a frame is read as. -/
def zeroTaggedMessage (c : MessageClass) (method : Method) : Message :=
  ⟨c, method, Heartbeat.keepaliveTransaction,
    [⟨.deviceId, Heartbeat.oven.octets⟩, ⟨.messageIntegrity, List.replicate 20 0⟩]⟩

theorem isForged_zeroTagged {type : UInt16} {c : MessageClass} {method : Method}
    (decoded : Message.decode (zeroTagged type) = .ok (zeroTaggedMessage c method))
    (mismatch : Integrity.verify (zeroTagged type) [0x6B] = .error .mismatch) :
    ovenWorker.IsForged (zeroTagged type) (zeroTaggedMessage c method) where
  attached_ne_nil := List.cons_ne_nil _ _
  decoded := decoded
  hasAttribute := rfl
  wrong := by
    intro entry among
    obtain rfl := List.mem_singleton.1 among
    exact ⟨.mismatch, mismatch⟩

theorem route_forged_action :
    ovenWorker.IsForged (zeroTagged 0x3AC5) (zeroTaggedMessage .request .action) ∧
      (ovenWorker.route 5 (zeroTagged 0x3AC5)).1.attached = ovenWorker.attached ∧
      (ovenWorker.route 5 (zeroTagged 0x3AC5)).1.heartbeat.Same ovenWorker.heartbeat := by
  have forged : ovenWorker.IsForged (zeroTagged 0x3AC5) (zeroTaggedMessage .request .action) :=
    isForged_zeroTagged (by decide +kernel) (by decide +kernel)
  obtain ⟨kept, same⟩ := route_of_forged forged 5
  refine ⟨forged, by rw [kept], same.2 fun news => ?_⟩
  exact absurd news.1 (by decide)

/-- **The owner need not have been answered.** An answer with a wrong tag counts for the heartbeat
like any other. -/
theorem route_forged_answer :
    ovenWorker.IsForged (zeroTagged 0x3BCA) (zeroTaggedMessage .success .keepalive) ∧
      ¬ (ovenWorker.route 5 (zeroTagged 0x3BCA)).1.heartbeat.Same ovenWorker.heartbeat := by
  refine ⟨isForged_zeroTagged (by decide +kernel) (by decide +kernel), fun same => ?_⟩
  have noted : (ovenWorker.route 5 (zeroTagged 0x3BCA)).1.heartbeat.lastOwnerAnswer = some 5 := by
    decide +kernel
  rw [same.lastOwnerAnswer_eq] at noted
  cases noted

end Worker

end RelayDevice
