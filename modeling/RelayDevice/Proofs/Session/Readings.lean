import RelayDevice.Proofs.Session.Status

/-!
# Status as it is read

Who asks for the status of a device knows its descriptor, and nothing else of its parts. What comes
back is a frame, in it an argument list, and in that the values of all components. Descriptor,
declarations and values are put together from the parts in three different ways, and the values go
by their names until they are laid out.

`Dispatcher.readings` is what all accessors give, part by part, beside what is declared for them.
The crux is `Dispatcher.readings_of_snapshot`: a snapshot is these readings and nothing else, in the
same order. So the list in the descriptor reads the payload position by position
(`Dispatcher.payload_read_by_descriptor`).
-/

namespace RelayDevice

variable {σ φ : Type}

/-! ### Readings -/

/-- What the accessors of a part give in a state, each beside its declaration. -/
def Registry.readings (r : Registry σ) (state : σ) :
    List (ArgumentDef × Except Failure ArgumentValue) :=
  r.declared.status.map fun c => (c.toDef, c.accessor state)

/-- What is read of a component is what its accessor gave. -/
theorem StatusComponent.accessor_of_read {c : StatusComponent σ} {state : σ} {value : ArgumentValue}
    (given : c.read state = .ok value) : c.accessor state = .ok value := by
  rw [read] at given
  split at given
  · cases given
  · next found =>
    split at given
    · cases given
    · cases given
      exact found

/-- A value as the reading of a component. -/
def readingOf (entry : String × ArgumentValue) : ArgumentDef × Except Failure ArgumentValue :=
  (⟨entry.1, entry.2.kind⟩, .ok entry.2)

theorem Registry.readings_of_readAll {state : σ} {status : List (StatusComponent σ)}
    {values : Assignment} (read : readAll state status = .ok values) :
    status.map (fun c => (c.toDef, c.accessor state)) = values.map readingOf := by
  induction status generalizing values with
  | nil => cases read; rfl
  | cons c rest ih =>
    rw [readAll] at read
    split at read
    · cases read
    · next value first =>
      obtain ⟨more, later, rfl⟩ := Outcome.map_eq_ok_iff.1 read
      -- the value is of the declared type, so its declaration can be told from it
      have declared : c.toDef = ⟨c.name, value.kind⟩ := by
        rw [StatusComponent.toDef, StatusComponent.kind_of_read first]
      rw [List.map_cons, List.map_cons, ih later, declared, StatusComponent.accessor_of_read first]
      rfl

namespace Dispatcher

/-- **What all accessors give**, each beside its declaration: those of the device first, and then
those of each feature in the order of installation. -/
def readings (d : Dispatcher σ φ) : List (ArgumentDef × Except Failure ArgumentValue) :=
  d.registry.readings d.state ++ d.features.flatMap fun f => f.registry.readings f.state

/-- Readings are listed as the descriptor lists the components. -/
theorem map_fst_readings (d : Dispatcher σ φ) : d.readings.map Prod.fst = d.descriptor.status := by
  have own {ω : Type} (r : Registry ω) (state : ω) :
      (r.readings state).map Prod.fst = r.statusDefs := by
    rw [Registry.readings, List.map_map]
    rfl
  rw [← statusDefs_eq, readings, statusDefs, List.map_append, List.map_flatMap, own]
  exact congrArg _ (List.flatMap_congr fun f _ => own f.registry f.state)

theorem readings_of_snapshotAll {features : List (Installed φ)} {values : Assignment}
    (read : snapshotAll features = .ok values) :
    features.flatMap (fun f => f.registry.readings f.state) = values.map readingOf := by
  induction features generalizing values with
  | nil => cases read; rfl
  | cons f rest ih =>
    obtain ⟨first, own, read⟩ := Outcome.bind_eq_ok_iff.1 read
    obtain ⟨more, later, read⟩ := Outcome.bind_eq_ok_iff.1 read
    cases read
    rw [List.flatMap_cons, ih later, List.map_append]
    exact congrArg (· ++ _) (Registry.readings_of_readAll own)

/-- **A snapshot is made of the readings** of all parts, in their order. -/
theorem readings_of_snapshot {d : Dispatcher σ φ} {values : Assignment}
    (read : d.snapshot = .ok values) : d.readings = values.map readingOf := by
  obtain ⟨first, own, read⟩ := Outcome.bind_eq_ok_iff.1 read
  obtain ⟨more, later, read⟩ := Outcome.bind_eq_ok_iff.1 read
  cases read
  rw [readings, readings_of_snapshotAll later, List.map_append]
  exact congrArg (· ++ _) (Registry.readings_of_readAll own)

/-! ### The payload -/

/-- What is returned for a status request is an answer, signed. -/
theorem statusAnswer_of_reply {d : Dispatcher σ φ} {time : UInt32} {m : Message} {frame : Bytes}
    (status : m.method = Method.statusRequest)
    (sent : (d.dispatch time m).reply = .ok (some frame)) :
    ∃ answer, d.statusAnswer time m = .ok answer ∧ d.account.sign answer = .ok frame := by
  cases response : m.messageClass.isResponse with
  | true =>
    -- responses are not answered
    rw [dispatch, if_pos response] at sent
    cases sent
  | false =>
    rw [dispatch_of_status response status, reply_answerStatus] at sent
    cases decided : d.statusAnswer time m with
    | error e =>
      rw [decided] at sent
      cases sent
    | ok answer =>
      rw [decided] at sent
      exact ⟨answer, rfl, Account.reply_eq_ok_iff.1 sent⟩

/-- **The descriptor reads the payload.** Take any device that was put together from any parts, in
any state, and a frame that it returns for a status request. The frame can be read. If it says that
the request succeeded, then it carries an argument list, and read in the order of the descriptor's
status components this gives, position by position, the values that the accessors of these
components gave, those of the device first and then those of each feature; instants have lost their
fractions of a second. -/
theorem payload_read_by_descriptor {d : Dispatcher σ φ} (composed : d.Composed) {time : UInt32}
    {m : Message} (status : m.method = Method.statusRequest) {frame : Bytes}
    (sent : (d.dispatch time m).reply = .ok (some frame)) :
    ∃ answer, Message.decode frame = .ok answer ∧
      (answer.messageClass = .success →
        ∃ (payload : Bytes) (values : List ArgumentValue),
          answer.attribute? .arguments = some payload ∧
          d.readings.map Prod.fst = d.descriptor.status ∧
          d.readings.map Prod.snd = values.map Except.ok ∧
          ArgumentList.decodeOrdered payload d.descriptor.status
            = .ok (values.map ArgumentValue.received)) := by
  obtain ⟨answer, decided, signed⟩ := statusAnswer_of_reply status sent
  refine ⟨_, Message.decode_encoded signed, fun success => ?_⟩
  rcases (isStatusAnswer_of_statusAnswer composed decided frame).content with
    ⟨values, payload, read, -, carried, ordered⟩ | ⟨_, -, refused, -⟩
  · have given : d.readings.map Prod.snd = (values.map Prod.snd).map Except.ok := by
      rw [readings_of_snapshot read, List.map_map, List.map_map]
      rfl
    refine ⟨payload, values.map Prod.snd, carried, d.map_fst_readings, given, ?_⟩
    rw [ordered, List.map_map]
    rfl
  · -- a refusal is no success
    rw [success] at refused
    cases refused

/-! ### A house with two sensors -/

/-- A feature that can be asked for the temperature of a room. -/
def sensor (room : String) (degrees : Int32) : Feature Int32 where
  name := "sensor"
  declared := ⟨[], [], [⟨room, .integer, fun degrees => .ok (.integer degrees)⟩], .unknown⟩
  initial := degrees
  setup := fun degrees => (degrees, none)
  tick := fun degrees => .done (degrees, none)
  tickEvery := 1

theorem check_attic : (sensor "attic" 31).declared.check = .ok () := by decide +kernel

theorem check_cellar : (sensor "cellar" 12).declared.check = .ok () := by decide +kernel

/-- The installed sensor of the attic. -/
def attic : Installed Int32 := ⟨sensor "attic" 31, ⟨_, check_attic⟩, [], 31, 0⟩

/-- The installed sensor of the cellar. -/
def cellar : Installed Int32 := ⟨sensor "cellar" 12, ⟨_, check_cellar⟩, [], 12, 0⟩

/-- A clock a moment before 1970, in a house with a warm attic and a cold cellar. -/
def house : Dispatcher Instant Int32 := ⟨⟨-1, 500⟩, clockRegistry, [attic, cellar], ⟨"u", "k"⟩⟩

theorem composed_house : house.Composed := by
  have unnamed : ∀ entry ∈ ([] : List (String × String)), attic.registry.hasEvent entry.1 := nofun
  have upstairs := (Composed.alone ⟨-1, 500⟩ clockRegistry ⟨"u", "k"⟩).add check_attic unnamed
    (by decide +kernel)
  exact upstairs.add check_cellar nofun (by decide +kernel)

/-- The time comes first, then attic and cellar as they were installed. -/
theorem payload_read_house :
    ∃ frame answer payload, (house.dispatch 5 statusRequest).reply = .ok (some frame) ∧
      Message.decode frame = .ok answer ∧ answer.messageClass = .success ∧
      answer.attribute? .arguments = some payload ∧
      ArgumentList.decodeOrdered payload house.descriptor.status
        = .ok [.timestamp ⟨-1, 0⟩, .integer 31, .integer 12] := by
  have told : house.readings.map Prod.snd
      = [ArgumentValue.timestamp ⟨-1, 500⟩, .integer 31, .integer 12].map Except.ok := rfl
  have decided : house.statusAnswer 5 statusRequest = .ok (house.account.success 5 statusRequest
      [⟨.arguments, [3, 3, 5, 6, 0, 255, 255, 255, 255, 110, 111, 119, 0, 0, 0, 31, 97, 116, 116,
        105, 99, 0, 0, 0, 12, 99, 101, 108, 108, 97, 114]⟩] (some "u")) := by decide +kernel
  obtain ⟨frame, sent, decoded⟩ := reply_of_statusAnswer_eq_ok decided (by decide +kernel)
  have replied : (house.dispatch 5 statusRequest).reply = .ok (some frame) := sent
  obtain ⟨answer, read, content⟩ := payload_read_by_descriptor composed_house rfl replied
  have success : answer.messageClass = .success := by
    cases decoded.symm.trans read
    exact Message.messageClass_delivered ..
  obtain ⟨payload, values, carried, -, given, ordered⟩ := content success
  have same : values = [.timestamp ⟨-1, 500⟩, .integer 31, .integer 12] :=
    (List.map_inj_right fun _ _ => Except.ok.inj).1 (given.symm.trans told)
  rw [same] at ordered
  exact ⟨frame, answer, payload, replied, read, success, carried, ordered⟩

end Dispatcher

end RelayDevice
