import RelayDevice.Proofs.Argument.Assignments
import RelayDevice.Proofs.Session.Performing
import RelayDevice.Proofs.Wire.Answers

/-!
# Answering status requests

A status request is answered with the values of all status components, or with a refusal that names
the first that could not be read. Which of the two is decided by the snapshot, before the values are
laid out, and laying them out can fail as well: the values are then neither sent nor refused.

`Dispatcher.statusAnswer` is the answer before it is signed. Reading a component checks its type and
the composition of the device sees to names and numbers (`Dispatcher.ownDefs_of_snapshot`,
`Dispatcher.Composed.nodup_status`), so that only the sizes of the values are left to go wrong:
`Dispatcher.status_answered_iff` says that a status request is answered exactly if every value of
the snapshot fits its record. `Dispatcher.status_dropped_clock` is about one that does not.
-/

namespace RelayDevice

variable {σ φ : Type}

/-! ### Snapshots -/

/-- What is said of a status component that could not be read. -/
def StatusFailure.reason (failure : StatusFailure) : String :=
  s!"Value for {failure.component} could not be retrieved"

theorem StatusFailure.trimZeros_reason (failure : StatusFailure) :
    trimZeros failure.reason = failure.reason :=
  trimZeros_append (by decide) (by decide)

/-- Every value that is read is one of the declared type. -/
theorem Registry.ownDefs_of_readAll {state : σ} {status : List (StatusComponent σ)}
    {values : Assignment} (read : readAll state status = .ok values) :
    ArgumentList.ownDefs values = status.map StatusComponent.toDef := by
  induction status generalizing values with
  | nil => cases read; rfl
  | cons c rest ih =>
    rw [readAll] at read
    split at read
    · cases read
    · next value first =>
      -- a value of another type would have been a failure
      obtain ⟨more, later, rfl⟩ := Outcome.map_eq_ok_iff.1 read
      have own := ih later
      rw [ArgumentList.ownDefs] at own ⊢
      rw [List.map_cons, List.map_cons, own, StatusComponent.kind_of_read first]
      rfl

namespace Dispatcher

theorem ownDefs_of_snapshotAll {features : List (Installed φ)} {values : Assignment}
    (read : snapshotAll features = .ok values) :
    ArgumentList.ownDefs values = features.flatMap (·.registry.statusDefs) := by
  induction features generalizing values with
  | nil => cases read; rfl
  | cons f rest ih =>
    obtain ⟨first, own, read⟩ := Outcome.bind_eq_ok_iff.1 read
    obtain ⟨more, later, read⟩ := Outcome.bind_eq_ok_iff.1 read
    cases read
    rw [ArgumentList.ownDefs, List.map_append, List.flatMap_cons, ← ih later]
    exact congrArg (· ++ _) (Registry.ownDefs_of_readAll own)

/-- **A snapshot is made for the declarations** of all parts, and in their order. -/
theorem ownDefs_of_snapshot {d : Dispatcher σ φ} {values : Assignment}
    (read : d.snapshot = .ok values) : ArgumentList.ownDefs values = d.statusDefs := by
  obtain ⟨first, own, read⟩ := Outcome.bind_eq_ok_iff.1 read
  obtain ⟨more, later, read⟩ := Outcome.bind_eq_ok_iff.1 read
  cases read
  rw [ArgumentList.ownDefs, List.map_append, statusDefs, ← ownDefs_of_snapshotAll later]
  exact congrArg (· ++ _) (Registry.ownDefs_of_readAll own)

theorem map_fst_of_snapshot {d : Dispatcher σ φ} {values : Assignment}
    (read : d.snapshot = .ok values) :
    values.map Prod.fst = d.descriptor.status.map (·.name) := by
  rw [← statusDefs_eq, ← ownDefs_of_snapshot read, ArgumentList.ownDefs, List.map_map]
  rfl

/-- **Whether a snapshot can be laid out** is a matter of sizes. -/
theorem encode_snapshot_isOk_iff {d : Dispatcher σ φ} (composed : d.Composed) {values : Assignment}
    (read : d.snapshot = .ok values) :
    (∃ payload, ArgumentList.encode d.statusDefs values = .ok payload) ↔
      ∀ entry ∈ values, ArgumentList.Fits entry.1 entry.2 := by
  have names := map_fst_of_snapshot read
  -- as many values as there are status components in all parts
  have few : values.length ≤ 8 := by
    have := composed.length_status_le
    rwa [← List.length_map Prod.fst, names, List.length_map]
  rw [← ownDefs_of_snapshot read]
  exact ArgumentList.encode_own_isOk_iff (names ▸ composed.nodup_status) few

/-! ### Answers -/

/-- The answer to a status request before it is signed, or why there is none. -/
def statusAnswer (d : Dispatcher σ φ) (time : UInt32) (m : Message) :
    Except ArgumentError Message :=
  match d.snapshot with
  | .ok values =>
    (ArgumentList.encode d.statusDefs values).map fun payload =>
      d.account.success time m [⟨.arguments, payload⟩] (some d.account.username)
  | .error failure => .ok (d.account.refusal time m Refusal.notAvailable failure.reason)

/-- **What a status request must be answered with**: with the values of all components, for anyone
who knows the descriptor, or with a refusal that names the component that could not be read. -/
structure IsStatusAnswer (d : Dispatcher σ φ) (m answer : Message) : Prop where
  /-- The answer belongs to the request. -/
  transactionId : answer.transactionId = m.transactionId
  method : answer.method = m.method
  content :
    (∃ values payload, d.snapshot = .ok values ∧ answer.messageClass = .success ∧
      answer.attribute? .arguments = some payload ∧
      ArgumentList.decodeOrdered payload d.descriptor.status
        = .ok (values.map (·.2.received))) ∨
    ∃ failure, d.snapshot = .error failure ∧ answer.messageClass = .error ∧
      answer.errorCode? = some (604, failure.reason)

theorem decodeOrdered_snapshot {d : Dispatcher σ φ} (composed : d.Composed) {values : Assignment}
    (read : d.snapshot = .ok values) {payload : Bytes}
    (laid : ArgumentList.encode d.statusDefs values = .ok payload) :
    ArgumentList.decodeOrdered payload d.descriptor.status
      = .ok (values.map (·.2.received)) := by
  have distinct : (values.map Prod.fst).Nodup :=
    map_fst_of_snapshot read ▸ composed.nodup_status
  have own := ownDefs_of_snapshot read
  rw [← statusDefs_eq, ← own]
  exact ArgumentList.decodeOrdered_own distinct (own ▸ laid)

/-- **The answer says what it must**, also when it was signed. -/
theorem isStatusAnswer_of_statusAnswer {d : Dispatcher σ φ} (composed : d.Composed) {time : UInt32}
    {m answer : Message} (decided : d.statusAnswer time m = .ok answer) (frame : Bytes) :
    d.IsStatusAnswer m (answer.delivered (some d.account.key) frame) := by
  cases read : d.snapshot with
  | ok values =>
    rw [statusAnswer, read] at decided
    obtain ⟨payload, laid, rfl⟩ := Outcome.map_eq_ok_iff.1 decided
    refine ⟨Message.transactionId_delivered .., Message.method_delivered ..,
      .inl ⟨values, payload, read, Message.messageClass_delivered .., ?_,
        decodeOrdered_snapshot composed read laid⟩⟩
    rw [Message.attribute?_delivered (by decide)]
    rfl
  | error failure =>
    rw [statusAnswer, read] at decided
    cases decided
    refine ⟨Message.transactionId_delivered .., Message.method_delivered ..,
      .inr ⟨failure, read, Message.messageClass_delivered .., ?_⟩⟩
    -- number and reason survive their way through the frame
    have carried : (Message.delivered
        (d.account.refusal time m Refusal.notAvailable failure.reason) (some d.account.key) frame).attribute?
          .errorCode = some (errorCodeValue Refusal.notAvailable failure.reason) := by
      rw [Message.attribute?_delivered (by decide)]
      rfl
    rw [Message.errorCode?_of_attribute carried, failure.trimZeros_reason]
    rfl

/-- **The reply to a status request** is the answer, signed; without one the request is dropped, since
the values could not be laid out. -/
theorem reply_answerStatus (d : Dispatcher σ φ) (time : UInt32) (m : Message) :
    (d.answerStatus time m).reply = match d.statusAnswer time m with
      | .ok answer => d.account.reply answer
      | .error e => .error (.argument e) := by
  rw [answerStatus, statusAnswer]
  cases d.snapshot with
  | ok values =>
    dsimp only
    cases ArgumentList.encode d.statusDefs values <;> rfl
  | error failure =>
    dsimp only
    rw [Account.errorResponse_eq (by decide)]
    rfl

/-- Where there is an answer, and room for it in a frame, it is sent. -/
theorem reply_of_statusAnswer_eq_ok {d : Dispatcher σ φ} {time : UInt32} {m answer : Message}
    (decided : d.statusAnswer time m = .ok answer)
    (room : answer.bodyLength (some d.account.key) ≤ 65535) :
    ∃ frame, (d.answerStatus time m).reply = .ok (some frame) ∧
      Message.decode frame = .ok (answer.delivered (some d.account.key) frame) := by
  obtain ⟨frame, signed, decoded⟩ := Account.sign_eq_ok room
  refine ⟨frame, ?_, decoded⟩
  rw [reply_answerStatus, decided]
  exact Account.reply_eq_ok_iff.2 signed

/-- Where there is none the request is dropped. -/
theorem reply_of_statusAnswer_eq_error {d : Dispatcher σ φ} {time : UInt32} {m : Message}
    {e : ArgumentError} (decided : d.statusAnswer time m = .error e) :
    (d.answerStatus time m).reply = .error (.argument e) := by
  rw [reply_answerStatus, decided]

/-- There is an answer unless a value that was read is too large for its record. -/
theorem statusAnswer_isOk_iff {d : Dispatcher σ φ} (composed : d.Composed) (time : UInt32)
    (m : Message) :
    (∃ answer, d.statusAnswer time m = .ok answer) ↔
      ∀ values, d.snapshot = .ok values → ∀ entry ∈ values, ArgumentList.Fits entry.1 entry.2 := by
  cases read : d.snapshot with
  | ok values =>
    rw [statusAnswer, read]
    simp only [Outcome.map_eq_ok_iff, Except.ok.injEq, forall_eq']
    rw [← encode_snapshot_isOk_iff composed read]
    exact ⟨fun ⟨_, payload, laid, _⟩ => ⟨payload, laid⟩,
      fun ⟨payload, laid⟩ => ⟨_, payload, laid, rfl⟩⟩
  | error failure =>
    rw [statusAnswer, read]
    exact iff_of_true ⟨_, rfl⟩ nofun

/-- **When status requests are answered.** On a device put together from any parts, in any state, a
status request is answered, with the values of all components or with a refusal, exactly if no value
that was read is too large for its record. If one is, the request is dropped with an error. There
has to be room in a frame for what is to be answered. -/
theorem status_answered_iff {d : Dispatcher σ φ} (composed : d.Composed) {time : UInt32}
    {m : Message} (request : m.messageClass.isResponse = false)
    (method : m.method = Method.statusRequest)
    (room : ∀ answer, d.statusAnswer time m = .ok answer →
      answer.bodyLength (some d.account.key) ≤ 65535) :
    ((∃ frame answer, (d.dispatch time m).reply = .ok (some frame) ∧
        Message.decode frame = .ok answer ∧ d.IsStatusAnswer m answer) ↔
      ∀ values, d.snapshot = .ok values → ∀ entry ∈ values, ArgumentList.Fits entry.1 entry.2) ∧
    ((∃ e, (d.dispatch time m).reply = .error e) ↔
      ∃ values, d.snapshot = .ok values ∧ ∃ entry ∈ values, ¬ ArgumentList.Fits entry.1 entry.2) := by
  -- both parts of the statement are about whether there is an answer to be sent
  have misfit : (∃ values, d.snapshot = .ok values ∧ ∃ entry ∈ values,
        ¬ ArgumentList.Fits entry.1 entry.2) ↔
      ¬ ∃ answer, d.statusAnswer time m = .ok answer := by
    rw [statusAnswer_isOk_iff composed]
    simp only [not_forall, exists_prop]
  rw [misfit, ← statusAnswer_isOk_iff composed time m,
    dispatch_of_status request method]
  cases decided : d.statusAnswer time m with
  | ok answer =>
    obtain ⟨frame, sent, decoded⟩ := reply_of_statusAnswer_eq_ok decided (room answer decided)
    refine ⟨iff_of_true ⟨frame, _, sent, decoded, ?_⟩ ⟨answer, rfl⟩, ?_⟩
    · exact isStatusAnswer_of_statusAnswer composed decided frame
    · rw [sent]
      exact iff_of_false nofun fun h => h ⟨answer, rfl⟩
  | error e =>
    rw [reply_of_statusAnswer_eq_error decided]
    exact ⟨iff_of_false nofun nofun, iff_of_true ⟨_, rfl⟩ nofun⟩

/-! ### A clock with a dial -/

/-- A device that can be asked for the time. -/
def clockRegistry : Registry Instant :=
  ⟨⟨[], [], [⟨"now", .timestamp, fun now => .ok (.timestamp now)⟩], .unknown⟩, by decide +kernel⟩

/-- A feature that can be asked for what it shows. -/
def dial (face : String) : Feature String where
  name := "dial"
  declared := ⟨[], [], [⟨"face", .string, fun shown => .ok (.string shown)⟩], .unknown⟩
  initial := face
  setup := fun shown => (shown, none)
  tick := fun shown => .done (shown, none)
  tickEvery := 1

theorem check_dial (face : String) : (dial face).declared.check = .ok () := by
  change (dial "").declared.check = .ok ()
  decide +kernel

/-- A clock at some time, whose dial shows some text. -/
def clock (now : Instant) (face : String) : Dispatcher Instant String :=
  ⟨now, clockRegistry, [⟨dial face, ⟨_, check_dial face⟩, [], face, 0⟩], ⟨"u", "k"⟩⟩

theorem composed_clock (now : Instant) (face : String) : (clock now face).Composed := by
  refine (Composed.alone now clockRegistry ⟨"u", "k"⟩).add (check_dial face) nofun ?_
  change checkFit "dial" clockRegistry.descriptor ⟨[], [⟨"face", .string⟩], [], .unknown⟩ = .ok ()
  decide +kernel

/-- A request for the status of a device. -/
def statusRequest : Message := .empty .request Method.statusRequest ⟨List.replicate 12 7, rfl⟩

/-- The last second that fits 32 bits is still told. -/
theorem status_answered_clock :
    ∃ frame answer, ((clock ⟨2147483647, 999⟩ "XII").dispatch 5 statusRequest).reply
        = .ok (some frame) ∧
      Message.decode frame = .ok answer ∧
      (clock ⟨2147483647, 999⟩ "XII").IsStatusAnswer statusRequest answer := by
  have told : (clock ⟨2147483647, 999⟩ "XII").snapshot
      = .ok [("now", .timestamp ⟨2147483647, 999⟩), ("face", .string "XII")] := rfl
  have decided : (clock ⟨2147483647, 999⟩ "XII").statusAnswer 5 statusRequest
      = .ok ((clock ⟨0, 0⟩ "").account.success 5 statusRequest [⟨.arguments,
        [2, 3, 7, 2, 127, 255, 255, 255, 110, 111, 119, 0, 3, 0, 4, 88, 73, 73, 102, 97, 99, 101]⟩]
        (some "u")) := by decide +kernel
  refine (status_answered_iff (composed_clock _ _) (by decide) (by decide) ?_).1.2 ?_
  · intro answer other
    cases decided.symm.trans other
    decide +kernel
  · intro values read
    cases told.symm.trans read
    decide +kernel

/-- **Nothing is said of the second after it**, although the request is in order and there is room
for a refusal. -/
theorem status_dropped_clock :
    (clock ⟨2147483648, 0⟩ "XII").Composed ∧
      statusRequest.messageClass = .request ∧ statusRequest.method = Method.statusRequest ∧
      ((clock ⟨2147483648, 0⟩ "XII").account.refusal 5 statusRequest Refusal.notAvailable
        (StatusFailure.reason ⟨"now", .ofText ""⟩)).bodyLength (some (Utf8.encode "k")) ≤ 65535 ∧
      ((clock ⟨2147483648, 0⟩ "XII").dispatch 5 statusRequest).reply
        = .error (.argument (.instantOutOfRange ⟨2147483648, 0⟩)) :=
  ⟨composed_clock _ _, rfl, rfl, by decide +kernel, by decide +kernel⟩

end Dispatcher

end RelayDevice
