import RelayDevice.Proofs.Session.Dispatching
import RelayDevice.Proofs.Session.Readings
import RelayDevice.Proofs.Wire.ErrorCodes

/-!
# Components that cannot be read

A device is asked for its status and one of its accessors fails, or gives a value of another type than
was declared. Nothing is told then but the name of that component, and if there are several, the name
of the first.

Which one is first is decided in two loops, over the parts and over the components of each part, and
both break off at a failure. `Dispatcher.named?_snapshot` brings the two into one search through
`Dispatcher.readings`, which lists all components as the descriptor does. It rests on what the loops
have in common: where two lists are read one after the other, the second counts only if everything in
the first could be read (`named?_join`, `firstUnreadable?_append`).

Values that were read but cannot be laid out play no part in this, since laying out comes after
reading. `Dispatcher.refused_iff_unreadable` follows from what is known of the answer to a status
request once there is room for it (`Account.bodyLength_refusal`).
-/

namespace RelayDevice

variable {σ φ : Type}

/-! ### Readings -/

/-- **A component that cannot be read**: its accessor fails, or gives a value of another type than is
declared beside it. -/
def Unreadable (reading : ArgumentDef × Except Failure ArgumentValue) : Prop :=
  match reading.2 with
  | .error _ => True
  | .ok value => value.kind ≠ reading.1.kind

instance : DecidablePred Unreadable
  | (_, .error _) => isTrue trivial
  | (declared, .ok value) => inferInstanceAs (Decidable (value.kind ≠ declared.kind))

/-- The name of the first component that cannot be read. -/
def firstUnreadable? (readings : List (ArgumentDef × Except Failure ArgumentValue)) :
    Option String :=
  (readings.find? (Unreadable ·)).map (·.1.name)

theorem firstUnreadable?_append
    (before after : List (ArgumentDef × Except Failure ArgumentValue)) :
    firstUnreadable? (before ++ after)
      = (firstUnreadable? before).or (firstUnreadable? after) := by
  rw [firstUnreadable?, List.find?_append, Option.map_or]
  rfl

theorem firstUnreadable?_eq_some_iff
    {readings : List (ArgumentDef × Except Failure ArgumentValue)} {name : String} :
    firstUnreadable? readings = some name ↔
      ∃ before first after, readings = before ++ first :: after ∧
        (∀ reading ∈ before, ¬ Unreadable reading) ∧ Unreadable first ∧ first.1.name = name := by
  rw [firstUnreadable?, Option.map_eq_some_iff]
  constructor
  · rintro ⟨first, found, named⟩
    obtain ⟨unreadable, before, after, split, read⟩ := List.find?_eq_some_iff_append.1 found
    refine ⟨before, first, after, split, fun reading among => ?_, of_decide_eq_true unreadable, named⟩
    simpa using read reading among
  · rintro ⟨before, first, after, split, read, unreadable, named⟩
    refine ⟨first, ?_, named⟩
    rw [List.find?_eq_some_iff_append]
    refine ⟨decide_eq_true unreadable, before, after, split, fun reading among => ?_⟩
    simpa using read reading among

theorem firstUnreadable?_eq_none_iff
    {readings : List (ArgumentDef × Except Failure ArgumentValue)} :
    firstUnreadable? readings = none ↔ ¬ ∃ reading ∈ readings, Unreadable reading := by
  rw [firstUnreadable?, Option.map_eq_none_iff, List.find?_eq_none]
  simp only [decide_eq_true_eq, not_exists, not_and]

/-- Reading a component fails exactly if it cannot be read. -/
theorem StatusComponent.unreadable_iff {c : StatusComponent σ} {state : σ} :
    Unreadable (c.toDef, c.accessor state) ↔ ∃ cause, c.read state = .error cause := by
  rw [read]
  cases c.accessor state with
  | error cause => exact iff_of_true trivial ⟨cause, rfl⟩
  | ok value =>
    change value.kind ≠ c.kind ↔ _
    dsimp only
    split
    · next other => exact iff_of_true other ⟨_, rfl⟩
    · next same =>
      refine iff_of_false same ?_
      rintro ⟨cause, failed⟩
      cases failed

/-! ### Snapshots -/

/-- The component that a failed snapshot names. -/
def named? {α : Type} : Except StatusFailure α → Option String
  | .ok _ => none
  | .error failure => some failure.component

theorem named?_map {α β : Type} (x : Except StatusFailure α) (f : α → β) :
    named? (x.map f) = named? x := by
  cases x <;> rfl

/-- **One list after the other**: the first failure counts. -/
theorem named?_join (x y : Except StatusFailure Assignment) :
    named? (do let values ← x; let more ← y; return values ++ more)
      = (named? x).or (named? y) := by
  cases x with
  | error failure => rfl
  | ok values =>
    cases y with
    | error failure => rfl
    | ok more => rfl

theorem Registry.named?_readAll (state : σ) (status : List (StatusComponent σ)) :
    named? (readAll state status)
      = firstUnreadable? (status.map fun c => (c.toDef, c.accessor state)) := by
  induction status with
  | nil => rfl
  | cons c rest ih =>
    rw [readAll, List.map_cons, firstUnreadable?, List.find?_cons]
    cases read : c.read state with
    | error cause =>
      -- the loop ends here, and so does the search
      have unreadable : Unreadable (c.toDef, c.accessor state) :=
        StatusComponent.unreadable_iff.2 ⟨cause, read⟩
      rw [decide_eq_true unreadable]
      rfl
    | ok value =>
      have readable : ¬ Unreadable (c.toDef, c.accessor state) := by
        rw [StatusComponent.unreadable_iff]
        rintro ⟨cause, failed⟩
        cases read.symm.trans failed
      rw [decide_eq_false readable]
      exact (named?_map _ _).trans ih

namespace Dispatcher

theorem named?_snapshotAll (features : List (Installed φ)) :
    named? (snapshotAll features)
      = firstUnreadable? (features.flatMap fun f => f.registry.readings f.state) := by
  induction features with
  | nil => rfl
  | cons f rest ih =>
    have own := Registry.named?_readAll f.state f.registry.declared.status
    rw [snapshotAll, named?_join, ih, List.flatMap_cons, firstUnreadable?_append]
    exact congrArg (Option.or · _) own

/-- **A snapshot names the first component that cannot be read**, in the order of the descriptor. -/
theorem named?_snapshot (d : Dispatcher σ φ) : named? d.snapshot = firstUnreadable? d.readings := by
  have own := Registry.named?_readAll d.state d.registry.declared.status
  rw [snapshot, named?_join, named?_snapshotAll, readings, firstUnreadable?_append]
  exact congrArg (Option.or · _) own

end Dispatcher

/-! ### Room for a refusal -/

theorem StatusFailure.length_reason (failure : StatusFailure) :
    (Utf8.encode failure.reason).length = 33 + (Utf8.encode failure.component).length := by
  have spelled : failure.reason = "Value for " ++ failure.component ++ " could not be retrieved" := rfl
  have opening : (Utf8.encode "Value for ").length = 10 := by decide +kernel
  have closing : (Utf8.encode " could not be retrieved").length = 23 := by decide +kernel
  rw [spelled, Utf8.encode_append, Utf8.encode_append, List.length_append, List.length_append,
    opening, closing]
  omega

/-- **The size of a refusal**: what its reason and the name of its sender take, and fifty-two octets for
everything else. -/
theorem Account.bodyLength_refusal (a : Account) (time : UInt32) (m : Message) (code : UInt16)
    (reason : String) (key : Bytes) :
    (a.refusal time m code reason).bodyLength (some key)
      = 52 + Bytes.padded (Utf8.encode reason).length
        + Bytes.padded (a.answeredUsername m).length := by
  have written : (a.refusal time m code reason).writtenAttributes (some key)
      = (a.refusal time m code reason).attributes := rfl
  have tag : (if (some key).isSome then Integrity.attributeSize else 0) = 24 := rfl
  have value : (errorCodeValue code reason).length
      = 4 + Bytes.padded (Utf8.encode reason).length := by
    rw [errorCodeValue, List.length_cons, List.length_cons, List.length_cons, List.length_cons,
      Bytes.length_zeroPad]
    omega
  have expiry : expiryValue.length = 4 := rfl
  rw [Message.bodyLength, written, tag, refusal]
  simp only [Attribute.wireLengthAll, Attribute.wireLength, value, expiry, Bytes.length_ofUInt32,
    Bytes.padded]
  omega

namespace Dispatcher

/-- Whoever is named in the descriptor can be named in a refusal. -/
def HasRoomForRefusal (d : Dispatcher σ φ) (m : Message) : Prop :=
  ∀ component ∈ d.descriptor.status,
    52 + Bytes.padded (33 + (Utf8.encode component.name).length)
      + Bytes.padded (d.account.answeredUsername m).length ≤ 65535

/-! ### The answer -/

variable {d : Dispatcher σ φ} {time : UInt32} {m : Message}

theorem statusAnswer_of_error {failure : StatusFailure} (failed : d.snapshot = .error failure)
    (time : UInt32) (m : Message) :
    d.statusAnswer time m
      = .ok (d.account.refusal time m Refusal.notAvailable failure.reason) := by
  rw [statusAnswer, failed]

/-- Only a snapshot that failed is refused. -/
theorem error_of_statusAnswer {answer : Message} (decided : d.statusAnswer time m = .ok answer)
    (refused : answer.messageClass = .error) : ∃ failure, d.snapshot = .error failure := by
  cases read : d.snapshot with
  | error failure => exact ⟨failure, rfl⟩
  | ok values =>
    rw [statusAnswer, read] at decided
    obtain ⟨payload, -, rfl⟩ := Outcome.map_eq_ok_iff.1 decided
    cases refused

/-- The component that a snapshot names is one of the descriptor. -/
theorem exists_first_of_error {failure : StatusFailure} (failed : d.snapshot = .error failure) :
    ∃ before first after, d.readings = before ++ first :: after ∧
      (∀ reading ∈ before, ¬ Unreadable reading) ∧ Unreadable first ∧
      first.1.name = failure.component := by
  have named := d.named?_snapshot
  rw [failed] at named
  exact firstUnreadable?_eq_some_iff.1 named.symm

theorem exists_frame_of_error (room : d.HasRoomForRefusal m) {failure : StatusFailure}
    (failed : d.snapshot = .error failure) (time : UInt32) :
    ∃ frame, (d.answerStatus time m).reply = .ok (some frame) ∧
      Message.decode frame = .ok
        ((d.account.refusal time m Refusal.notAvailable failure.reason).delivered
          (some d.account.key) frame) := by
  obtain ⟨before, first, after, split, -, -, named⟩ := exists_first_of_error failed
  have among : first ∈ d.readings := by
    rw [split]
    exact List.mem_append_right before List.mem_cons_self
  have listed : first.1 ∈ d.descriptor.status := by
    rw [← d.map_fst_readings]
    exact List.mem_map_of_mem among
  refine reply_of_statusAnswer_eq_ok (statusAnswer_of_error failed time m) ?_
  rw [Account.bodyLength_refusal, failure.length_reason, ← named]
  exact room first.1 listed

/-- **Number and reason are read** as they were written. -/
theorem errorCode?_delivered_refusal (a : Account) (time : UInt32) (m : Message)
    (failure : StatusFailure) (frame : Bytes) :
    ((a.refusal time m Refusal.notAvailable failure.reason).delivered (some a.key) frame).errorCode?
      = some (604, failure.reason) := by
  have carried : (a.refusal time m Refusal.notAvailable failure.reason).attribute? .errorCode
      = some (errorCodeValue Refusal.notAvailable failure.reason) := rfl
  have number : errorNumber Refusal.notAvailable = 604 := rfl
  rw [Message.errorCode?_delivered carried, number, failure.trimZeros_reason]

/-- **Refused exactly if something cannot be read.** Take any device with any features, in any state,
and a request or indication that asks for its status, with room for a refusal whichever component it
names. An error is answered exactly if the accessor of some component fails or gives a value of
another type than declared, whatever the values of the others are. The error has the number 604 and
names the first such component, in the order of the descriptor's list. The device and its features are
as they were before. -/
theorem refused_iff_unreadable (d : Dispatcher σ φ) (time : UInt32) {m : Message}
    (request : m.messageClass = .request ∨ m.messageClass = .indication)
    (status : m.method = Method.statusRequest) (room : d.HasRoomForRefusal m) :
    d.readings.map Prod.fst = d.descriptor.status ∧
    ((∃ frame answer, (d.dispatch time m).reply = .ok (some frame) ∧
        Message.decode frame = .ok answer ∧ answer.messageClass = .error) ↔
      ∃ reading ∈ d.readings, Unreadable reading) ∧
    (∀ frame answer, (d.dispatch time m).reply = .ok (some frame) →
      Message.decode frame = .ok answer → answer.messageClass = .error →
      ∃ before first after, d.readings = before ++ first :: after ∧
        (∀ reading ∈ before, ¬ Unreadable reading) ∧ Unreadable first ∧
        answer.errorCode?
          = some (604, "Value for " ++ first.1.name ++ " could not be retrieved")) ∧
    (d.dispatch time m).dispatcher = d := by
  have asked := dispatch_of_status (MessageClass.isResponse_eq_false_iff.2 request) status d time
  have failed_iff : (∃ failure, d.snapshot = .error failure) ↔
      ∃ reading ∈ d.readings, Unreadable reading := by
    rw [← not_iff_not, ← firstUnreadable?_eq_none_iff, ← d.named?_snapshot]
    cases d.snapshot with
    | error failure => exact iff_of_false (fun h => h ⟨failure, rfl⟩) nofun
    | ok values => exact iff_of_true nofun rfl
  -- an error that is read is the refusal of a failed snapshot, since that is all that is sent
  have refused {frame : Bytes} {answer : Message}
      (sent : (d.dispatch time m).reply = .ok (some frame))
      (read : Message.decode frame = .ok answer) (error : answer.messageClass = .error) :
      ∃ failure, d.snapshot = .error failure ∧ answer.errorCode? = some (604, failure.reason) := by
    obtain ⟨message, decided, signed⟩ := statusAnswer_of_reply status sent
    obtain rfl : message.delivered (some d.account.key) frame = answer :=
      Except.ok.inj ((Message.decode_encoded signed).symm.trans read)
    rw [Message.messageClass_delivered] at error
    obtain ⟨failure, failed⟩ := error_of_statusAnswer decided error
    obtain rfl := Except.ok.inj ((statusAnswer_of_error failed time m).symm.trans decided)
    exact ⟨failure, failed, errorCode?_delivered_refusal ..⟩
  refine ⟨d.map_fst_readings, ?_, ?_, ?_⟩
  · rw [← failed_iff]
    constructor
    · rintro ⟨frame, answer, sent, read, error⟩
      obtain ⟨failure, failed, -⟩ := refused sent read error
      exact ⟨failure, failed⟩
    · rintro ⟨failure, failed⟩
      obtain ⟨frame, sent, read⟩ := exists_frame_of_error room failed time
      exact ⟨frame, _, asked ▸ sent, read, Message.messageClass_delivered ..⟩
  · intro frame answer sent read error
    obtain ⟨failure, failed, code⟩ := refused sent read error
    obtain ⟨before, first, after, split, readable, unreadable, named⟩ :=
      exists_first_of_error failed
    refine ⟨before, first, after, split, readable, unreadable, ?_⟩
    rw [code, named]
    rfl
  · rw [asked]
    exact d.dispatcher_answerStatus time m

/-! ### A house in the year 2038 -/

/-- A probe that is asked for a whole number and gives what it is told to. -/
def probe (room : String) (gives : Except Failure ArgumentValue) :
    Feature (Except Failure ArgumentValue) where
  name := "probe"
  declared := ⟨[], [], [⟨room, .integer, id⟩], .unknown⟩
  initial := gives
  setup := fun gives => (gives, none)
  tick := fun gives => .done (gives, none)
  tickEvery := 1

theorem check_loft : (probe "loft" (.ok (.string "hot"))).declared.check = .ok () := by
  decide +kernel

theorem check_well : (probe "well" (.error (.ofText "dry"))).declared.check = .ok () := by
  decide +kernel

/-- A clock at a second that cannot be told, with a probe that gives a text and one that fails. -/
def lateHouse : Dispatcher Instant (Except Failure ArgumentValue) :=
  ⟨⟨2147483648, 0⟩, clockRegistry,
    [⟨probe "loft" (.ok (.string "hot")), ⟨_, check_loft⟩, [], .ok (.string "hot"), 0⟩,
      ⟨probe "well" (.error (.ofText "dry")), ⟨_, check_well⟩, [], .error (.ofText "dry"), 0⟩],
    ⟨"u", "k"⟩⟩

theorem composed_lateHouse : lateHouse.Composed := by
  have unnamed : ∀ entry ∈ ([] : List (String × String)),
      (⟨_, check_loft⟩ : Registry (Except Failure ArgumentValue)).hasEvent entry.1 := nofun
  have upstairs := (Composed.alone ⟨2147483648, 0⟩ clockRegistry ⟨"u", "k"⟩).add check_loft unnamed
    (by decide +kernel)
  exact upstairs.add check_well nofun (by decide +kernel)

/-- The value of the wrong type comes first, and neither the second that cannot be told nor the probe
that fails is heard of. -/
theorem refused_lateHouse :
    lateHouse.Composed ∧
    ∃ frame answer, (lateHouse.dispatch 5 statusRequest).reply = .ok (some frame) ∧
      Message.decode frame = .ok answer ∧ answer.messageClass = .error ∧
      answer.errorCode? = some (604, "Value for loft could not be retrieved") ∧
      (lateHouse.dispatch 5 statusRequest).dispatcher = lateHouse := by
  have room : lateHouse.HasRoomForRefusal statusRequest := by
    unfold HasRoomForRefusal
    decide +kernel
  have found : firstUnreadable? lateHouse.readings = some "loft" := by decide +kernel
  have broken : ∃ reading ∈ lateHouse.readings, Unreadable reading := by
    by_contra intact
    rw [← firstUnreadable?_eq_none_iff, found] at intact
    cases intact
  obtain ⟨-, refused, named, same⟩ := lateHouse.refused_iff_unreadable 5 (.inl rfl) rfl room
  obtain ⟨frame, answer, sent, read, error⟩ := refused.2 broken
  obtain ⟨before, first, after, split, readable, unreadable, code⟩ :=
    named frame answer sent read error
  -- there is only one first component
  have loft : firstUnreadable? lateHouse.readings = some first.1.name :=
    firstUnreadable?_eq_some_iff.2 ⟨before, first, after, split, readable, unreadable, rfl⟩
  have name : first.1.name = "loft" := Option.some.inj (loft.symm.trans found)
  rw [name] at code
  exact ⟨composed_lateHouse, frame, answer, sent, read, error, code, same⟩

end Dispatcher

end RelayDevice
