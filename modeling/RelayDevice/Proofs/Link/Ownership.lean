import Mathlib.Data.List.Induction
import RelayDevice.Link.Heartbeat

/-!
# The owner of a connection

What becomes of the keepalives that devices offer while a connection lasts, whatever answers and
silences come between them. A heartbeat does not keep the calls that were made on it
(`Heartbeat.Call`), only an owner and the devices it has seen. `Heartbeat.Tracks` says what these
two record:

* the owner is the device that was the first to offer a keepalive (`Heartbeat.offered`);
* a device has been seen if it offered a keepalive or was named by an answer
  (`Heartbeat.answered`).

`Tracks.call` is the step, one case for each kind of call, and `tracks_after_reset` the run. The
verdict on a keepalive depends on nothing else (`offer_fst_iff`), so both main results are read off
the record: `one_owner_per_connection` says which keepalives are sent, and
`first_keepalive_sent_iff` when a device is heard at all. The two differ in one point. Answers put
devices among those seen that have offered nothing yet, so the first keepalive of a device other
than the owner may be held back (`first_keepalive_held_back`).
-/

namespace RelayDevice

namespace Heartbeat

/-! ### Calls -/

/-- What is asked of a heartbeat while its connection lasts. -/
inductive Call
  | offer (device : Uuid)
  | gate (frame : Bytes)
  | acknowledge (now : Nanoseconds) (m : Message)
  | checkLiveness (now : Nanoseconds)
deriving DecidableEq

namespace Call

/-- The device whose keepalive a call offers. -/
def offers? : Call → Option Uuid
  | offer device => some device
  | gate frame => keepaliveOf? frame
  | acknowledge _ _ | checkLiveness _ => none

/-- The device that a call names as answered. -/
def answers? : Call → Option Uuid
  | acknowledge _ m => if isAnswer m then m.deviceId? else none
  | offer _ | gate _ | checkLiveness _ => none

end Call

/-- The verdict on a call, and the heartbeat after it. The verdict says whether what is offered is
sent, whether a message answers a keepalive, or whether the connection counts as up. -/
def call (h : Heartbeat) : Call → Bool × Heartbeat
  | .offer device => h.offer device
  | .gate frame => h.gate frame
  | .acknowledge now m => h.acknowledge now m
  | .checkLiveness now => ((h.checkLiveness now).1.isOk, (h.checkLiveness now).2)

/-- The heartbeat after several calls. -/
def after (h : Heartbeat) (calls : List Call) : Heartbeat := calls.foldl (fun h c => (h.call c).2) h

/-- The devices that offer keepalives, in the order in which they do. -/
def offered (calls : List Call) : List Uuid := calls.filterMap Call.offers?

/-- The devices that are named as answered. -/
def answered (calls : List Call) : List Uuid := calls.filterMap Call.answers?

/-- The devices whose keepalives are sent, once for each keepalive. -/
def sent (h : Heartbeat) : List Call → List Uuid
  | [] => []
  | c :: calls => (if (h.call c).1 then c.offers?.toList else []) ++ (h.call c).2.sent calls

section Runs

variable (h : Heartbeat) (calls : List Call) (c : Call)

@[simp] theorem after_nil : h.after [] = h := rfl

@[simp] theorem after_cons : h.after (c :: calls) = (h.call c).2.after calls := rfl

theorem after_append (later : List Call) : h.after (calls ++ later) = (h.after calls).after later :=
  List.foldl_append

theorem after_append_singleton : h.after (calls ++ [c]) = ((h.after calls).call c).2 :=
  after_append h calls [c]

theorem offered_append_singleton : offered (calls ++ [c]) = offered calls ++ c.offers?.toList := by
  rw [offered, List.filterMap_append]
  cases named : c.offers? <;> simp [offered, named]

theorem answered_append_singleton :
    answered (calls ++ [c]) = answered calls ++ c.answers?.toList := by
  rw [answered, List.filterMap_append]
  cases named : c.answers? <;> simp [answered, named]

theorem sent_append_singleton :
    h.sent (calls ++ [c])
      = h.sent calls ++ if ((h.after calls).call c).1 then c.offers?.toList else [] := by
  induction calls generalizing h with
  | nil => rw [List.nil_append, sent, sent, sent, List.append_nil, List.nil_append, after_nil]
  | cons first calls ih =>
    rw [List.cons_append, sent, ih, sent, List.append_assoc, after_cons]

/-- Only what is offered is sent. -/
theorem mem_offered_of_mem_sent {device : Uuid} (passed : device ∈ h.sent calls) :
    device ∈ offered calls := by
  induction calls generalizing h with
  | nil => cases passed
  | cons c calls ih =>
    rw [sent, List.mem_append] at passed
    rw [offered, List.mem_filterMap]
    rcases passed with now | later
    · split at now
      · exact ⟨c, List.mem_cons_self, Option.mem_toList.1 now⟩
      · cases now
    · obtain ⟨c', among, offers⟩ := List.mem_filterMap.1 (ih _ later)
      exact ⟨c', List.mem_cons_of_mem c among, offers⟩

end Runs

/-! ### What a call does -/

/-- The owner, if there is one, is among the devices seen. -/
def KnowsOwner (h : Heartbeat) : Prop := ∀ owner, h.owner = some owner → h.hasSeen owner = true

section Operations

variable {h : Heartbeat} {device other : Uuid} {now : Nanoseconds} {m : Message} {c : Call}

theorem hasSeen_note {answered : Bool} :
    (h.note device answered).hasSeen other = true ↔ h.hasSeen other = true ∨ device = other := by
  simp only [hasSeen, note, List.any_cons, Bool.or_eq_true, decide_eq_true_eq, List.any_eq_true,
    List.mem_filter]
  constructor
  · rintro (same | ⟨entry, ⟨among, -⟩, same⟩)
    · exact .inr same
    · exact .inl ⟨entry, among, same⟩
  · rintro (⟨entry, among, rfl⟩ | same)
    · by_cases same : entry.1 = device
      · exact .inl same.symm
      · exact .inr ⟨entry, ⟨among, same⟩, rfl⟩
    · exact .inl same

/-- **The verdict on a keepalive.** -/
theorem offer_fst_iff :
    (h.offer device).1 = true
      ↔ h.owner = none ∨ h.owner = some device ∨ h.hasSeen device = false := by
  unfold offer
  cases owned : h.owner with
  | none => simp
  | some owner =>
    by_cases own : owner = device
    · simp [own]
    · cases seen : h.hasSeen device <;> simp [own]

/-- An offer changes who owns the heartbeat and who was seen. -/
theorem offer_eq :
    (h.offer device).2
      = { h with owner := (h.offer device).2.owner, seen := (h.offer device).2.seen } := by
  unfold offer
  split
  · rfl
  · split
    · rfl
    · split <;> rfl

/-- Whoever owns the heartbeat keeps it, and where nobody does, the device that offers a keepalive
comes to. -/
theorem owner_offer : (h.offer device).2.owner = h.owner.or (some device) := by
  unfold offer
  cases owned : h.owner with
  | none => rfl
  | some owner =>
    dsimp only
    split
    · exact owned
    · split <;> exact owned

theorem hasSeen_offer (known : h.KnowsOwner) :
    (h.offer device).2.hasSeen other = true ↔ h.hasSeen other = true ∨ device = other := by
  -- where nothing is taken down, the device has been seen before
  have before (seen : h.hasSeen device = true) :
      h.hasSeen other = true ↔ h.hasSeen other = true ∨ device = other :=
    ⟨.inl, fun either => either.elim id fun same => same ▸ seen⟩
  unfold offer
  cases owned : h.owner with
  | none => exact hasSeen_note
  | some owner =>
    dsimp only
    split
    · next own => exact before (known device (own ▸ owned))
    · split
      · next seen => exact before seen
      · exact hasSeen_note

/-- Responses to keepalives are answers, and nothing else is. -/
theorem isAnswer_eq_true_iff :
    isAnswer m = true
      ↔ m.method = .keepalive ∧ (m.messageClass = .success ∨ m.messageClass = .error) := by
  rw [isAnswer, Bool.and_eq_true, decide_eq_true_eq]
  refine and_congr_right fun _ => ?_
  cases m.messageClass <;> decide

theorem acknowledge_of_not_answer (other : isAnswer m = false) :
    h.acknowledge now m = (false, h) := by
  rw [acknowledge, if_neg (Bool.not_eq_true _ ▸ other)]

theorem acknowledge_of_credited_none (answer : isAnswer m = true)
    (credited : (m.deviceId? <|> h.owner) = none) : h.acknowledge now m = (true, h) := by
  rw [acknowledge, if_pos answer, credited]

/-- **An answer** is taken down for the device that it is credited to, with its time if that device
owns the heartbeat. -/
theorem acknowledge_of_credited (answer : isAnswer m = true)
    (credited : (m.deviceId? <|> h.owner) = some device) :
    h.acknowledge now m
      = (true, { h.note device true with
          lastOwnerAnswer := if h.owner = some device then some now else h.lastOwnerAnswer }) := by
  rw [acknowledge, if_pos answer, credited]
  dsimp only
  split
  · rfl
  · rfl

theorem acknowledge_fst : (h.acknowledge now m).1 = isAnswer m := by
  cases answer : isAnswer m with
  | false => rw [acknowledge_of_not_answer answer]
  | true =>
    cases credited : (m.deviceId? <|> h.owner) with
    | none => rw [acknowledge_of_credited_none answer credited]
    | some device => rw [acknowledge_of_credited answer credited]

theorem owner_acknowledge : (h.acknowledge now m).2.owner = h.owner := by
  cases answer : isAnswer m with
  | false => rw [acknowledge_of_not_answer answer]
  | true =>
    cases credited : (m.deviceId? <|> h.owner) with
    | none => rw [acknowledge_of_credited_none answer credited]
    | some device =>
      rw [acknowledge_of_credited answer credited]
      rfl

/-- An answer puts the device that it names among those seen, whether or not that device has offered
a keepalive. -/
theorem hasSeen_acknowledge (known : h.KnowsOwner) :
    (h.acknowledge now m).2.hasSeen other = true
      ↔ h.hasSeen other = true ∨ isAnswer m = true ∧ m.deviceId? = some other := by
  cases answer : isAnswer m with
  | false => simp [acknowledge_of_not_answer answer]
  | true =>
    simp only [true_and]
    cases named : m.deviceId? with
    | some device =>
      have credited : (m.deviceId? <|> h.owner) = some device := by rw [named]; rfl
      rw [acknowledge_of_credited answer credited, Option.some.injEq]
      exact hasSeen_note
    | none =>
      have credited : (m.deviceId? <|> h.owner) = h.owner := by rw [named]; rfl
      cases owned : h.owner with
      | none => simp [acknowledge_of_credited_none answer (credited.trans owned)]
      | some owner =>
        rw [acknowledge_of_credited answer (credited.trans owned)]
        refine hasSeen_note.trans (or_congr_right' fun unseen => ?_)
        -- an answer without a name is for the owner, who has been seen
        exact iff_of_false (fun own => unseen (own ▸ known owner owned)) nofun

/-- A check changes nothing but the time of the last answer. -/
theorem checkLiveness_eq :
    (h.checkLiveness now).2
      = { h with lastOwnerAnswer := (h.checkLiveness now).2.lastOwnerAnswer } := by
  unfold checkLiveness
  split
  · rfl
  · dsimp only
    split <;> rfl

theorem owner_checkLiveness : (h.checkLiveness now).2.owner = h.owner := by
  rw [checkLiveness_eq]

theorem hasSeen_checkLiveness : (h.checkLiveness now).2.hasSeen other = h.hasSeen other := by
  rw [checkLiveness_eq]
  rfl

/-- Nothing but a keepalive makes an owner. -/
theorem owner_call : (h.call c).2.owner = h.owner.or c.offers? := by
  cases c with
  | offer device => exact owner_offer
  | gate frame =>
    change (h.gate frame).2.owner = h.owner.or (keepaliveOf? frame)
    unfold gate
    cases keepaliveOf? frame with
    | none => exact Option.or_none.symm
    | some device => exact owner_offer
  | acknowledge now m => exact owner_acknowledge.trans Option.or_none.symm
  | checkLiveness now => exact owner_checkLiveness.trans Option.or_none.symm

/-- **The devices seen.** A call adds the device whose keepalive it offers and the device that it
names as answered. -/
theorem hasSeen_call (known : h.KnowsOwner) :
    (h.call c).2.hasSeen device = true
      ↔ h.hasSeen device = true ∨ c.offers? = some device ∨ c.answers? = some device := by
  cases c with
  | offer other =>
    refine (hasSeen_offer known).trans (or_congr_right ?_)
    simp [Call.offers?, Call.answers?]
  | gate frame =>
    change (h.gate frame).2.hasSeen device = true
      ↔ _ ∨ keepaliveOf? frame = some device ∨ none = some device
    unfold gate
    cases keepaliveOf? frame with
    | none => simp
    | some other =>
      refine (hasSeen_offer known).trans (or_congr_right ?_)
      simp
  | acknowledge now m =>
    refine (hasSeen_acknowledge known).trans (or_congr_right ?_)
    simp [Call.offers?, Call.answers?]
  | checkLiveness now =>
    refine (Bool.eq_iff_iff.1 hasSeen_checkLiveness).trans ?_
    simp [Call.offers?, Call.answers?]

/-- A keepalive is offered by its frame as it is by name. -/
theorem call_eq_offer (offers : c.offers? = some device) : h.call c = h.offer device := by
  cases c with
  | offer d =>
    cases offers
    rfl
  | gate frame =>
    have named : keepaliveOf? frame = some device := offers
    simp only [call, gate, named]
  | acknowledge now m => cases offers
  | checkLiveness now => cases offers

end Operations

/-! ### What a heartbeat records -/

/-- **The record of a connection.** What a heartbeat tells of the calls since it was reset. -/
structure Tracks (h : Heartbeat) (calls : List Call) : Prop where
  /-- The owner is the first device that offered a keepalive. -/
  owner_eq : h.owner = (offered calls).head?
  /-- The devices seen are those that offered one or were answered by name. -/
  hasSeen_iff : ∀ device,
    h.hasSeen device = true ↔ device ∈ offered calls ∨ device ∈ answered calls

namespace Tracks

variable {h : Heartbeat} {calls : List Call}

theorem knowsOwner (t : h.Tracks calls) : h.KnowsOwner := fun owner owned =>
  (t.hasSeen_iff owner).2 (.inl (List.mem_of_mem_head? (t.owner_eq ▸ owned)))

/-- **The step.** -/
theorem call (t : h.Tracks calls) (c : Call) : (h.call c).2.Tracks (calls ++ [c]) where
  owner_eq := by
    rw [owner_call, t.owner_eq, offered_append_singleton, List.head?_append]
    cases c.offers? <;> rfl
  hasSeen_iff device := by
    rw [hasSeen_call t.knowsOwner, t.hasSeen_iff, offered_append_singleton,
      answered_append_singleton, List.mem_append, List.mem_append]
    simp only [Option.mem_toList]
    exact or_or_or_comm

end Tracks

/-- **The run.** Whatever was called before the reset is forgotten. A fresh heartbeat is its own
reset (`reset_start`). -/
theorem tracks_after_reset (h : Heartbeat) (calls : List Call) :
    (h.reset.after calls).Tracks calls := by
  induction calls using List.reverseRecOn with
  | nil => exact ⟨rfl, fun device => by simp [reset, start, hasSeen, offered, answered]⟩
  | append_singleton calls c ih =>
    rw [after_append_singleton]
    exact ih.call c

/-! ### Which keepalives are sent -/

/-- The owner stays. -/
theorem owner_after {h : Heartbeat} {owner : Uuid} (owned : h.owner = some owner)
    (later : List Call) : (h.after later).owner = some owner := by
  induction later generalizing h with
  | nil => exact owned
  | cons c later ih =>
    refine ih ?_
    rw [owner_call, owned]
    rfl

/-- The owner is sent whatever it offers. When it was first heard, nobody owned the heartbeat, and
ever since it has been its own. -/
theorem sent_of_owner {h : Heartbeat} {before later : List Call} {c : Call} {owner : Uuid}
    (owned : (h.after (before ++ c :: later)).owner = some owner)
    (offers : c.offers? = some owner) : ((h.after before).call c).1 = true := by
  rw [call_eq_offer offers, offer_fst_iff]
  cases first : (h.after before).owner with
  | none => exact .inl rfl
  | some device =>
    have stays := owner_after first (c :: later)
    rw [← after_append, owned] at stays
    exact .inr (.inl stays.symm)

/-- **Once is enough.** A device that does not come to own the heartbeat is seen when it is sent for
the first time, and nothing of it is sent from then on. -/
theorem count_sent_le_one (h : Heartbeat) {calls : List Call} {device : Uuid}
    (another : (h.reset.after calls).owner ≠ some device) :
    (h.reset.sent calls).count device ≤ 1 := by
  induction calls using List.reverseRecOn with
  | nil => exact Nat.zero_le 1
  | append_singleton calls c ih =>
    have before : (h.reset.after calls).owner ≠ some device := fun own =>
      another (by rw [after_append]; exact owner_after own [c])
    rw [sent_append_singleton, List.count_append]
    split
    · next passed =>
      by_cases offers : c.offers? = some device
      · rw [call_eq_offer offers, offer_fst_iff] at passed
        rcases passed with nobody | own | unseen
        · -- the keepalive would make the device the owner
          rw [after_append_singleton, owner_call, nobody, offers] at another
          exact absurd rfl another
        · exact absurd own before
        · have never : device ∉ h.reset.sent calls := fun passed => by
            have seen := ((tracks_after_reset h calls).hasSeen_iff device).2
              (.inl (mem_offered_of_mem_sent _ _ passed))
            rw [unseen] at seen
            cases seen
          have once : (h.reset.sent calls).count device + c.offers?.toList.count device = 1 := by
            rw [List.count_eq_zero_of_not_mem never, offers, Option.toList_some,
              List.count_singleton_self]
          exact Nat.le_of_eq once
      · have none : c.offers?.toList.count device = 0 :=
          List.count_eq_zero_of_not_mem fun own => offers (Option.mem_toList.1 own)
        rw [none]
        exact ih before
    · exact ih before

/-- **One steady heartbeat.** From a reset on, whatever is called, the first device that offers a
keepalive owns the heartbeat and keeps it. All that the owner offers is sent, and of any other
device one keepalive at most. -/
theorem one_owner_per_connection (h : Heartbeat) (calls : List Call) :
    (h.reset.after calls).owner = (offered calls).head? ∧
      (∀ owner later, (h.reset.after calls).owner = some owner →
        (h.reset.after (calls ++ later)).owner = some owner) ∧
      (∀ owner before c later, (h.reset.after calls).owner = some owner →
        calls = before ++ c :: later → c.offers? = some owner →
        ((h.reset.after before).call c).1 = true) ∧
      ∀ device, (h.reset.after calls).owner ≠ some device →
        (h.reset.sent calls).count device ≤ 1 := by
  refine ⟨(tracks_after_reset h calls).owner_eq, ?_, ?_, fun device => count_sent_le_one h⟩
  · intro owner later owned
    rw [after_append]
    exact owner_after owned later
  · rintro owner before c later owned rfl offers
    exact sent_of_owner owned offers

/-- Two devices behind one connection. -/
def oven : Uuid := ⟨List.replicate 16 0x11, rfl⟩

@[inherit_doc oven]
def kettle : Uuid := ⟨List.replicate 16 0x22, rfl⟩

/-- What ties their messages together. -/
def keepaliveTransaction : TransactionId := ⟨List.replicate 12 0x33, rfl⟩

/-- A keepalive request without a signature. -/
def keepaliveFrame (device : Uuid) : Bytes :=
  [0x3A, 0xCA, 0x00, 0x14, 0x21, 0x12, 0xA4, 0x42] ++ keepaliveTransaction.octets
    ++ [0x0C, 0x03, 0x00, 0x10] ++ device.octets

/-- An answer to a keepalive of a device. -/
def keepaliveAnswer (device : Uuid) : Message :=
  ⟨.success, .keepalive, keepaliveTransaction, [⟨.deviceId, device.octets⟩]⟩

/-- Both devices are heard and answered, and the owner is found silent. -/
def sharedConnection : List Call :=
  [.offer oven, .gate (keepaliveFrame kettle), .acknowledge 1 (keepaliveAnswer kettle),
    .acknowledge 1 (keepaliveAnswer oven), .offer kettle,
    .checkLiveness (Nanoseconds.ofSeconds 181), .gate (keepaliveFrame kettle),
    .gate (keepaliveFrame oven)]

theorem one_owner_sharedConnection :
    let h := start (Nanoseconds.ofSeconds 180)
    (h.reset.after sharedConnection).owner = some oven ∧
      ((h.reset.after (sharedConnection.take 7)).call (.gate (keepaliveFrame oven))).1 = true ∧
      (h.reset.sent sharedConnection).count kettle ≤ 1 := by
  obtain ⟨first, -, every, once⟩ :=
    one_owner_per_connection (start (Nanoseconds.ofSeconds 180)) sharedConnection
  have owned : ((start (Nanoseconds.ofSeconds 180)).reset.after sharedConnection).owner
      = some oven := first.trans (by decide +kernel)
  refine ⟨owned, every oven _ _ [] owned rfl (by decide +kernel), once kettle ?_⟩
  rw [owned]
  decide

/-- **The first keepalive of a device.** It is sent where no keepalive was offered before on the
connection, by any device, or where no answer has named the device. -/
theorem first_keepalive_sent_iff {h : Heartbeat} {calls : List Call} {c : Call} {device : Uuid}
    (offers : c.offers? = some device) (first : device ∉ offered calls) :
    ((h.reset.after calls).call c).1 = true ↔ offered calls = [] ∨ device ∉ answered calls := by
  have t := tracks_after_reset h calls
  have another : (offered calls).head? ≠ some device := fun own =>
    first (List.mem_of_mem_head? own)
  have unseen : (h.reset.after calls).hasSeen device = false ↔ device ∉ answered calls := by
    rw [← Bool.not_eq_true, t.hasSeen_iff]
    simp only [first, false_or]
  rw [call_eq_offer offers, offer_fst_iff, t.owner_eq, unseen, List.head?_eq_none_iff]
  simp only [another, false_or]

/-- The oven owns the heartbeat when a device is answered. -/
def answeredBehindOven (device : Uuid) : List Call :=
  [.offer oven, .acknowledge 1 (keepaliveAnswer device)]

theorem first_keepalive_sent_kettle :
    (Call.gate (keepaliveFrame kettle)).offers? = some kettle ∧
      kettle ∉ offered (answeredBehindOven oven) ∧
      (((start defaultTimeout).reset.after (answeredBehindOven oven)).call
        (.gate (keepaliveFrame kettle))).1 = true := by
  have offers : (Call.gate (keepaliveFrame kettle)).offers? = some kettle := by decide +kernel
  have first : kettle ∉ offered (answeredBehindOven oven) := by decide
  exact ⟨offers, first, (first_keepalive_sent_iff offers first).2 (.inr (by decide))⟩

/-- **A device may never be heard.** An answer that names it is enough for its first keepalive to be
held back. -/
theorem first_keepalive_held_back :
    (Call.offer kettle).offers? = some kettle ∧ kettle ∉ offered (answeredBehindOven kettle) ∧
      (((start defaultTimeout).reset.after (answeredBehindOven kettle)).call
        (.offer kettle)).1 = false := by
  decide

end Heartbeat

end RelayDevice
