import RelayDevice.Proofs.Link.Steps
import RelayDevice.Proofs.Lookup

/-!
# A device on a connection

What a device asks of the worker waits among the commands until the worker begins its next pass. A
device is hosted (`Worker.Hosts`) once it is attached and none of the commands that wait concerns
it. As long as nobody attaches it again, detaches it or closes its inbox
(`Worker.Happening.Concerns`), it is hosted ever after, with one exception: a device whose inbox is
closed is forgotten as soon as a message would be put there (`Worker.Moment.Forgets`).

`Worker.Hosts.act` is the step and `Worker.Hosts.run` the run. Other devices attach, leave and
close their inboxes meanwhile as they like.
-/

namespace RelayDevice

/-- The device that a command concerns. -/
def WorkerCommand.device : WorkerCommand → Uuid
  | attach device _ | detach device => device

namespace Worker

variable {w : Worker} {device : Uuid} {a : Attachment} {frame : Bytes} {m : Message}

/-! ### Commands -/

section Commands

variable {c : WorkerCommand} {commands : List WorkerCommand}

/-- No command waits any more. -/
theorem commands_applyCommands (w : Worker) : w.applyCommands.commands = [] := by
  rw [applyCommands_eq]

/-- A command for another device does not matter. -/
theorem attachment?_applyCommand_of_ne (w : Worker) (another : c.device ≠ device) :
    (w.applyCommand c).attachment? device = w.attachment? device := by
  cases c with
  | attach other a =>
    have another : device ≠ other := Ne.symm another
    have skipped : (device == other) = false := beq_false_of_ne another
    calc List.lookup device (w.attached.filter (·.1 ≠ other) ++ [(other, a)])
        = (List.lookup device (w.attached.filter (·.1 ≠ other))).or none := by
          rw [List.lookup_append, List.lookup_cons, skipped, List.lookup_nil]
      _ = List.lookup device w.attached := by rw [Option.or_none, lookup_filter_ne _ another]
  | detach other => exact lookup_filter_ne w.attached (Ne.symm another)

theorem attachment?_applyCommand_attach (w : Worker) (device : Uuid) (a : Attachment) :
    (w.applyCommand (.attach device a)).attachment? device = some a := by
  calc List.lookup device (w.attached.filter (·.1 ≠ device) ++ [(device, a)])
      = (none : Option Attachment).or (some a) := by
        rw [List.lookup_append, lookup_filter_self, List.lookup_cons_self]
    _ = some a := rfl

theorem attachment?_foldl_of_ne (w : Worker) (others : ∀ c ∈ commands, c.device ≠ device) :
    (commands.foldl applyCommand w).attachment? device = w.attachment? device := by
  induction commands generalizing w with
  | nil => rfl
  | cons c commands ih =>
    rw [List.foldl_cons, ih _ fun c' among => others c' (List.mem_cons_of_mem _ among),
      attachment?_applyCommand_of_ne w (others c List.mem_cons_self)]

/-- Commands for other devices do not matter. -/
theorem attachment?_applyCommands_of_ne (others : ∀ c ∈ w.commands, c.device ≠ device) :
    w.applyCommands.attachment? device = w.attachment? device :=
  attachment?_foldl_of_ne { w with commands := [] } others

/-- The last command for a device decides. -/
theorem attachment?_applyCommands_of_attach {earlier later : List WorkerCommand}
    (waiting : w.commands = earlier ++ .attach device a :: later)
    (others : ∀ c ∈ later, c.device ≠ device) :
    w.applyCommands.attachment? device = some a := by
  unfold applyCommands
  rw [waiting, List.foldl_append, List.foldl_cons, attachment?_foldl_of_ne _ others,
    attachment?_applyCommand_attach]

end Commands

/-! ### Offers -/

section Offers

/-- **An offer** in a frame that is authentic for a device whose inbox is open: the message waits
there, if there is room. -/
theorem Attachment.apply_offer_of_verify {verdict : Integrity} (isOpen : a.inbox.isOpen = true)
    (authentic : Integrity.verify frame a.key = .ok verdict) :
    (offer a frame m).apply a
      = some { a with inbox := (a.inbox.push m).toOption.getD a.inbox } := by
  unfold offer
  rw [authentic]
  dsimp only
  cases pushed : a.inbox.push m with
  | ok inbox => rfl
  | error refusal =>
    cases refusal with
    | full => rfl
    | closed =>
      -- an open inbox is not closed
      rw [BoundedQueue.push, isOpen, if_neg (by decide)] at pushed
      split at pushed <;> cases pushed

/-- Only a device whose inbox is closed is forgotten, and only for a frame that is authentic for
it. -/
theorem Attachment.apply_offer_eq_none (gone : (offer a frame m).apply a = none) :
    a.inbox.isOpen = false ∧ ∃ verdict, Integrity.verify frame a.key = .ok verdict := by
  cases authentic : Integrity.verify frame a.key with
  | error cause =>
    rw [offer, authentic] at gone
    cases gone
  | ok verdict =>
    refine ⟨?_, verdict, rfl⟩
    cases isOpen : a.inbox.isOpen with
    | false => rfl
    | true =>
      rw [apply_offer_of_verify isOpen authentic] at gone
      cases gone

theorem Attachment.apply_offer_eq_some {b : Attachment}
    (kept : (offer a frame m).apply a = some b) :
    b.key = a.key ∧ b.inbox.isOpen = a.inbox.isOpen := by
  unfold offer at kept
  cases authentic : Integrity.verify frame a.key with
  | error cause =>
    rw [authentic] at kept
    obtain rfl := Option.some.inj kept
    exact ⟨rfl, rfl⟩
  | ok verdict =>
    rw [authentic] at kept
    dsimp only at kept
    cases pushed : a.inbox.push m with
    | ok inbox =>
      rw [pushed] at kept
      obtain rfl := Option.some.inj kept
      exact ⟨rfl, BoundedQueue.isOpen_of_push pushed⟩
    | error refusal =>
      rw [pushed] at kept
      cases refusal with
      | full =>
        obtain rfl := Option.some.inj kept
        exact ⟨rfl, rfl⟩
      | closed => cases kept

/-- What is left of an attachment when a message is handed out. -/
def handOut (w : Worker) (frame : Bytes) (m : Message) (device : Uuid) (a : Attachment) :
    Option Attachment :=
  if w.isAddressed m device then (Attachment.offer a frame m).apply a else some a

theorem attached_distribute (w : Worker) (frame : Bytes) (m : Message) :
    (w.distribute frame m).1.attached
      = w.attached.filterMap fun entry => (w.handOut frame m entry.1 entry.2).map (entry.1, ·) := by
  rw [distribute, List.filterMap_map]
  refine List.filterMap_congr fun entry _ => ?_
  dsimp only [Function.comp_apply, handOut]
  -- whether or not the message is for the device
  cases w.isAddressed m entry.1 with
  | true => rfl
  | false => rfl

/-- What becomes of a device when a message is handed out. -/
theorem attachment?_distribute {b : Attachment} (found : w.attachment? device = some a)
    (kept : (if w.isAddressed m device then (Attachment.offer a frame m).apply a else some a)
      = some b) :
    (w.distribute frame m).1.attachment? device = some b := by
  rw [attachment?, attached_distribute]
  exact lookup_filterMap_of_some (w.handOut frame m) found kept

end Offers

/-! ### Inboxes -/

section Inboxes

variable {other : Uuid}

/-- What one device does to its inbox. -/
theorem lookup_map_ite (f : Attachment → Attachment) (attached : List (Uuid × Attachment)) :
    List.lookup device (attached.map fun (d, b) => if d = other then (d, f b) else (d, b))
      = (List.lookup device attached).map fun b => if device = other then f b else b := by
  have split_eq : (fun (d, b) => if d = other then (d, f b) else (d, b))
      = fun entry : Uuid × Attachment =>
        (entry.1, if entry.1 = other then f entry.2 else entry.2) := by
    funext ⟨d, b⟩
    dsimp only
    split <;> rfl
  rw [split_eq]
  exact lookup_map_snd (fun d b => if d = other then f b else b) attached

/-- Whoever reads, an inbox stays as open as it was. -/
theorem attachment?_read (found : w.attachment? device = some a) (other : Uuid) :
    ∃ inbox, inbox.isOpen = a.inbox.isOpen ∧
      (w.read other).2.attachment? device = some { a with inbox } := by
  have same : ∃ inbox, inbox.isOpen = a.inbox.isOpen ∧
      w.attachment? device = some { a with inbox } := ⟨a.inbox, rfl, found⟩
  unfold read
  split
  · next b theirs =>
    cases waiting : b.inbox.items with
    | nil =>
      simp only [BoundedQueue.pop, waiting]
      exact same
    | cons first rest =>
      simp only [BoundedQueue.pop, waiting]
      let inbox : BoundedQueue Message := { b.inbox with items := rest }
      have changed : List.lookup device (w.attached.map fun (d, b) =>
            if d = other then (d, { b with inbox }) else (d, b))
          = some (if device = other then { a with inbox } else a) := by
        rw [lookup_map_ite (fun b => { b with inbox })]
        exact congrArg (Option.map _) found
      by_cases own : device = other
      · subst own
        obtain rfl : a = b := Option.some.inj (found.symm.trans theirs)
        rw [if_pos rfl] at changed
        exact ⟨inbox, rfl, changed⟩
      · rw [if_neg own] at changed
        exact ⟨a.inbox, rfl, changed⟩
  · split
    · split
      · exact same
      · exact same
    · exact same

theorem attachment?_closeInbox (w : Worker) (other : Uuid) :
    (w.closeInbox other).attachment? device = (w.attachment? device).map fun b =>
      if device = other then { b with inbox := b.inbox.close } else b :=
  lookup_map_ite (fun b => { b with inbox := b.inbox.close }) w.attached

/-- A device that closes its inbox changes what itself has asked for, and not for whom. -/
theorem exists_commands_closeInbox (w : Worker) (other : Uuid) :
    ∃ f : WorkerCommand → WorkerCommand, (w.closeInbox other).commands = w.commands.map f ∧
      (∀ c, (f c).device = c.device) ∧ ∀ c, c.device ≠ other → f c = c := by
  refine ⟨_, rfl, fun c => ?_, fun c another => ?_⟩
  · cases c with
    | attach d a =>
      dsimp only
      split <;> rfl
    | detach d => rfl
  · cases c with
    | attach d a => exact if_neg another
    | detach d => rfl

theorem others_closeInbox (others : ∀ c ∈ w.commands, c.device ≠ device) (other : Uuid) :
    ∀ c ∈ (w.closeInbox other).commands, c.device ≠ device := by
  obtain ⟨f, commands, device_eq, -⟩ := exists_commands_closeInbox w other
  intro c among
  obtain ⟨c', among', rfl⟩ := List.mem_map.1 (commands ▸ among)
  rw [device_eq]
  exact others c' among'

end Inboxes

/-! ### Devices that are hosted -/

/-- **A device is hosted** with its key: it is attached, and none of the commands that wait concerns
it. Its inbox may be closed. -/
structure Hosts (w : Worker) (device : Uuid) (key : Bytes) (isOpen : Bool) : Prop where
  attachment : ∃ inbox : BoundedQueue Message,
    inbox.isOpen = isOpen ∧ w.attachment? device = some ⟨key, inbox⟩
  commands : ∀ c ∈ w.commands, c.device ≠ device

/-- The device itself asks to be attached or detached, or closes its inbox. -/
def Happening.Concerns {τ : Type} (device : Uuid) : Happening τ → Prop
  | .attach other _ | .detach other | .closeInbox other => other = device
  | _ => False

namespace Moment

variable {τ : Type} (T : Transport τ)

/-- **A device is forgotten** when the worker polls a frame that is for it and authentic under its
key. -/
def Forgets (x : Moment τ) (device : Uuid) (key : Bytes) (e : Happening τ) : Prop :=
  (∃ now, e = .work now) ∧ x.stage = .receiving ∧ x.worker.cancelled = false ∧
    ∃ frame m verdict, (T.receive x.link).result = .ok (some frame) ∧
      Message.decode frame = .ok m ∧ Heartbeat.isAnswer m = false ∧
      x.worker.isAddressed m device = true ∧ Integrity.verify frame key = .ok verdict

end Moment

section Hosts

variable {τ : Type} {T : Transport τ} {x : Moment τ} {key : Bytes} {isOpen : Bool}
  {e : Happening τ} {now : Nanoseconds}

theorem poll_of_frame {t : τ} (received : (T.receive t).result = .ok (some frame)) :
    (Worker.poll T now w t).1 = ((w.renew (T.receive t)).route now frame).1 := by
  unfold Worker.poll
  dsimp only
  rw [received]

theorem poll_of_nothing {t : τ} (nothing : ∀ frame, (T.receive t).result ≠ .ok (some frame)) :
    (Worker.poll T now w t).1 = w.renew (T.receive t) := by
  unfold Worker.poll
  dsimp only
  split
  · rfl
  · rfl
  · next frame received => exact absurd received (nothing frame)

theorem isAddressed_renew {α : Type} (s : Served τ α) :
    (w.renew s).isAddressed m device = w.isAddressed m device := by
  rw [renew_eq]
  rfl

theorem Hosts.of_eq {v : Worker} (hosts : w.Hosts device key isOpen)
    (attached : v.attached = w.attached) (commands : v.commands = w.commands) :
    v.Hosts device key isOpen where
  attachment := by
    rw [attachment?, attached]
    exact hosts.attachment
  commands := commands ▸ hosts.commands

/-- What is hosted stays so when the commands are applied, since none concerns it. -/
theorem Hosts.applyCommands (hosts : w.Hosts device key isOpen) :
    w.applyCommands.Hosts device key isOpen where
  attachment := by
    rw [attachment?_applyCommands_of_ne hosts.commands]
    exact hosts.attachment
  commands := by
    rw [commands_applyCommands]
    exact nofun

/-- A device that closes its inbox is still there. -/
theorem Hosts.closeInbox (hosts : w.Hosts device key isOpen) :
    (w.closeInbox device).Hosts device key false where
  attachment := by
    obtain ⟨inbox, -, found⟩ := hosts.attachment
    refine ⟨inbox.close, rfl, ?_⟩
    rw [attachment?_closeInbox, found, Option.map_some, if_pos rfl]
  commands := others_closeInbox hosts.commands device

/-- A message that is handed out. -/
theorem Hosts.distribute (hosts : w.Hosts device key isOpen) (frame : Bytes) (m : Message) :
    (w.distribute frame m).1.Hosts device key isOpen ∨
      (isOpen = false ∧ w.isAddressed m device = true ∧
        ∃ verdict, Integrity.verify frame key = .ok verdict) := by
  obtain ⟨inbox, isOpen_eq, found⟩ := hosts.attachment
  have hosted {b : Attachment} (kept : (if w.isAddressed m device then
        (Attachment.offer ⟨key, inbox⟩ frame m).apply ⟨key, inbox⟩ else some ⟨key, inbox⟩) = some b)
      (same : b.key = key ∧ b.inbox.isOpen = inbox.isOpen) :
      (w.distribute frame m).1.Hosts device key isOpen := by
    refine ⟨⟨b.inbox, same.2.trans isOpen_eq, ?_⟩, hosts.commands⟩
    rw [attachment?_distribute found kept, ← same.1]
  cases addressed : w.isAddressed m device with
  | false => exact .inl (hosted (if_neg (Bool.not_eq_true _ ▸ addressed)) ⟨rfl, rfl⟩)
  | true =>
    cases outcome : (Attachment.offer ⟨key, inbox⟩ frame m).apply ⟨key, inbox⟩ with
    | some b =>
      have same := Attachment.apply_offer_eq_some outcome
      exact .inl (hosted ((if_pos addressed).trans outcome) same)
    | none =>
      obtain ⟨closed, authentic⟩ := Attachment.apply_offer_eq_none outcome
      exact .inr ⟨isOpen_eq.symm.trans closed, rfl, authentic⟩

/-- A poll changes what is hosted only by a message that is handed out. -/
theorem Hosts.poll {t : τ} (hosts : w.Hosts device key isOpen) :
    (poll T now w t).1.Hosts device key isOpen ∨
      (isOpen = false ∧ ∃ frame m verdict, (T.receive t).result = .ok (some frame) ∧
        Message.decode frame = .ok m ∧ Heartbeat.isAnswer m = false ∧
        w.isAddressed m device = true ∧ Integrity.verify frame key = .ok verdict) := by
  have renewed : (w.renew (T.receive t)).Hosts device key isOpen := by
    rw [renew_eq]
    exact hosts.of_eq rfl rfl
  by_cases heard : ∃ frame, (T.receive t).result = .ok (some frame)
  · obtain ⟨frame, received⟩ := heard
    rw [poll_of_frame received]
    obtain ⟨m, decoded, other, routed⟩ | ⟨-, heartbeat, routed⟩ :=
      route_cases (w.renew (T.receive t)) now frame
    · rw [routed]
      refine (renewed.distribute frame m).imp_right ?_
      rintro ⟨closed, addressed, verdict, authentic⟩
      rw [isAddressed_renew] at addressed
      exact ⟨closed, frame, m, verdict, received, decoded, other, addressed, authentic⟩
    · rw [routed]
      exact .inl (renewed.of_eq rfl rfl)
  · rw [poll_of_nothing fun frame received => heard ⟨frame, received⟩]
    exact .inl renewed

/-- **The step.** A device that is hosted stays so, unless it is forgotten for having closed its
inbox. -/
theorem Hosts.act (hosts : x.worker.Hosts device key isOpen) (another : ¬ e.Concerns device) :
    (x.act T e).worker.Hosts device key isOpen ∨
      isOpen = false ∧ x.Forgets T device key e := by
  -- a command for another device joins those that wait
  have waits {c : WorkerCommand} (another : c.device ≠ device) :
      ∀ c' ∈ x.worker.commands ++ [c], c'.device ≠ device := by
    intro c' among
    rcases List.mem_append.1 among with before | last
    · exact hosts.commands c' before
    · exact List.mem_singleton.1 last ▸ another
  have acts := Moment.acts_act T x e
  generalize x.act T e = y at acts
  cases acts with
  | attach _ | detach _ => exact .inl ⟨hosts.attachment, waits another⟩
  | read other =>
    obtain ⟨inbox, isOpen_eq, found⟩ := hosts.attachment
    obtain ⟨rest, same, left⟩ := attachment?_read found other
    exact .inl ⟨⟨rest, same.trans isOpen_eq, left⟩, hosts.commands⟩
  | closeInbox other =>
    obtain ⟨inbox, isOpen_eq, found⟩ := hosts.attachment
    refine .inl ⟨⟨inbox, isOpen_eq, ?_⟩, others_closeInbox hosts.commands other⟩
    rw [attachment?_closeInbox, found, Option.map_some, if_neg (Ne.symm another)]
  | late _ | gone _ | queue _ | refuse _ | shutdown | outside _ | giveUp _ | persist _ =>
    exact .inl (hosts.of_eq rfl rfl)
  | work step =>
    cases step with
    | desert _ _ _ | begin _ _ _ =>
      exact .inl (hosts.applyCommands.of_eq rfl (commands_applyCommands _).symm)
    | poll going =>
      -- the only step that may cost the device its place
      rw [← poll_eq]
      refine hosts.poll.imp_right ?_
      rintro ⟨closed, heard⟩
      exact ⟨closed, ⟨_, rfl⟩, rfl, going, heard⟩
    | rest _ | stop _ _ | send _ _ | turn _ _ | glance _ | watch _ | close _ _ | hang _ _ =>
      exact .inl (hosts.of_eq rfl rfl)

/-- **The run.** -/
theorem Hosts.run {happenings : List (Happening τ)} (hosts : x.worker.Hosts device key isOpen)
    (others : ∀ e ∈ happenings, ¬ e.Concerns device) :
    (x.run T happenings).worker.Hosts device key isOpen ∨
      isOpen = false ∧ ∃ earlier e later, happenings = earlier ++ e :: later ∧
        (x.run T earlier).Forgets T device key e := by
  induction happenings generalizing x with
  | nil => exact .inl hosts
  | cons e happenings ih =>
    rcases hosts.act (others e List.mem_cons_self) with still | ⟨closed, forgets⟩
    · rcases ih still fun e' among => others e' (List.mem_cons_of_mem e among) with
        still | ⟨closed, earlier, e', later, rfl, forgets⟩
      · exact .inl still
      · exact .inr ⟨closed, e :: earlier, e', later, rfl, forgets⟩
    · exact .inr ⟨closed, [], e, happenings, rfl, forgets⟩

end Hosts

end Worker

end RelayDevice
