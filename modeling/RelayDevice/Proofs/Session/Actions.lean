import RelayDevice.Demo.Oven
import RelayDevice.Proofs.Argument.Assignments
import RelayDevice.Proofs.Session.Recording
import RelayDevice.Proofs.Wire.Answers

/-!
# Actions and their handlers

A request names an action and carries its arguments, in whatever order the sender has laid them out.
Between the sender and the handler lie the frame, the look-up of the name among all parts, and the
reading of the arguments. `Dispatcher.action_reaches_handler` says that nothing gets lost or mixed up
on the way: the handler of the action is run, once and alone, on the state of its part and on the
values that were sent, in the order in which it declares them.

`Dispatcher.Offers` is what there is to be reached: an action with arguments, the part that declares
it, and what running its handler makes of the whole device. The crux is `Dispatcher.perform_call`,
which is about any device whose action names are unique. It is used twice, on the device itself and
on the device with records of its runs.
-/

namespace RelayDevice

variable {σ φ : Type}

/-! ### Requests -/

/-- **A request for an action**, by its name and with its arguments. It may carry anything else. -/
structure Message.IsCall (m : Message) (name : String) (raw : Bytes) : Prop where
  request : m.messageClass = .request
  action : m.method = Method.action
  name : m.attribute? .name = some (Utf8.encode name)
  arguments : m.attribute? .arguments = some raw

/-- A request stays what it is when it is sent, with or without a key. -/
theorem Message.IsCall.delivered {m : Message} {name : String} {raw : Bytes} (call : m.IsCall name raw)
    (key : Option Bytes) (frame : Bytes) : (m.delivered key frame).IsCall name raw where
  request := (messageClass_delivered m key frame).trans call.request
  action := (method_delivered m key frame).trans call.action
  name := (attribute?_delivered (by decide) m key frame).trans call.name
  arguments := (attribute?_delivered (by decide) m key frame).trans call.arguments

namespace Action

theorem invoke_call {a : Action σ} {defs : List ArgumentDef}
    {run : σ → List ArgumentValue → Outcome σ} (handler : a.handler = .arguments defs run)
    {m : Message} {raw : Bytes} (carried : m.attribute? .arguments = some raw)
    {list : List ArgumentValue} (read : ArgumentList.decodeOrdered raw defs = .ok list) (state : σ) :
    a.invoke m state = conclude a.name (run state list) := by
  have taken : input a.name defs m = .ok list := by
    rw [input, carried]
    exact Outcome.mapError_eq_ok_iff.2 read
  rw [invoke, handler]
  dsimp only
  rw [taken]

/-- What a handler leads to can be told for its part or for something larger. -/
theorem conclude_map {τ : Type} (name : String) (f : σ → τ) (outcome : Outcome σ) :
    conclude name (f outcome.1, outcome.2)
      = ((conclude name outcome).1, f (conclude name outcome).2) := by
  obtain ⟨state, _ | failure⟩ := outcome <;> rfl

end Action

namespace Dispatcher

/-! ### Actions on offer -/

/-- **The actions with arguments of all parts**, and what running their handlers makes of the device:
only the state of the part that declares the action changes. -/
inductive Offers (d : Dispatcher σ φ) (defs : List ArgumentDef) :
    String → DevicePart → (List ArgumentValue → Outcome (Dispatcher σ φ)) → Prop
  | device {a : Action σ} {run : σ → List ArgumentValue → Outcome σ} :
    a ∈ d.registry.declared.actions → a.handler = .arguments defs run →
    d.Offers defs a.name .device fun values =>
      ({ d with state := (run d.state values).1 }, (run d.state values).2)
  | feature {before after : List (Installed φ)} {f : Installed φ} {a : Action φ}
      {run : φ → List ArgumentValue → Outcome φ} : d.features = before ++ f :: after →
    a ∈ f.registry.declared.actions → a.handler = .arguments defs run →
    d.Offers defs a.name (.feature before.length) fun values =>
      ({ d with features := before ++ { f with state := (run f.state values).1 } :: after },
        (run f.state values).2)

variable {d : Dispatcher σ φ} {defs : List ArgumentDef} {name : String} {part : DevicePart}
  {act : List ArgumentValue → Outcome (Dispatcher σ φ)}

theorem Offers.account_eq (offered : d.Offers defs name part act) (values : List ArgumentValue) :
    (act values).1.account = d.account := by
  cases offered <;> rfl

theorem Offers.nodup (offered : d.Offers defs name part act) : (defs.map (·.name)).Nodup := by
  cases offered with
  | @device a _ declared handler =>
    have proper := (d.registry.wellFormed.inputs a declared).2.nodup
    rwa [Action.arguments, handler] at proper
  | @feature _ _ f a _ _ declared handler =>
    have proper := (f.registry.wellFormed.inputs a declared).2.nodup
    rwa [Action.arguments, handler] at proper

/-- **A request reaches the handler of its action.** -/
theorem perform_call (distinct : (d.descriptor.actions.map (·.name)).Nodup)
    (offered : d.Offers defs name part act) {m : Message} {raw : Bytes}
    (carried : m.attribute? .arguments = some raw) {list : List ArgumentValue}
    (read : ArgumentList.decodeOrdered raw defs = .ok list) :
    d.perform name m = Action.conclude name (act list) := by
  cases offered with
  | @device a run declared handler =>
    rw [perform_of_device (Registry.action?_of_mem declared),
      Action.invoke_call handler carried read]
    exact (Action.conclude_map a.name (fun state => { d with state }) (run d.state list)).symm
  | @feature before after f a run split declared handler =>
    have member : f ∈ d.features := by
      rw [split]
      exact List.mem_append_right before List.mem_cons_self
    -- no other part answers to the name
    rw [perform_of_feature (action?_device_eq_none distinct member declared) split
        (action?_before_eq_none distinct split declared) (Registry.action?_of_mem declared),
      Action.invoke_call handler carried read]
    exact (Action.conclude_map a.name
      (fun state => { d with features := before ++ { f with state } :: after })
      (run f.state list)).symm

/-- **What becomes of a request for an action** whose arguments can be read. -/
theorem dispatch_call (distinct : (d.descriptor.actions.map (·.name)).Nodup)
    (offered : d.Offers defs name part act) {m : Message} {raw : Bytes} (call : m.IsCall name raw)
    {list : List ArgumentValue} (read : ArgumentList.decodeOrdered raw defs = .ok list)
    (time : UInt32) :
    (d.dispatch time m).dispatcher = (act list).1 ∧
      (d.dispatch time m).reply = match (act list).2 with
        | none => d.succeed time m []
        | some failure => .error (.action name failure) := by
  have named : m.text? .name = some name := by
    rw [Message.text?, call.name]
    exact Utf8.decode?_encode name
  have request : m.messageClass.isResponse = false := by
    rw [call.request]
    rfl
  have account := offered.account_eq list
  have performed := perform_call distinct offered call.arguments read
  rw [dispatch_of_action request call.action, performAction, named]
  dsimp only
  rw [performed]
  generalize act list = outcome at account
  obtain ⟨after, _ | failure⟩ := outcome
  · refine ⟨rfl, ?_⟩
    rw [Action.conclude]
    dsimp only
    rw [succeed, succeed, account]
  · exact ⟨rfl, rfl⟩

/-! ### Runs of handlers -/

/-- With records the same actions are on offer, and a run is what they add to the records. -/
theorem Offers.recorded (offered : d.Offers defs name part act) :
    ∃ act', d.recorded.Offers defs name part act' ∧
      ∀ values, (act' values).1.records = [(part, ⟨name, .arguments values⟩)] := by
  cases offered with
  | device declared handler =>
    refine ⟨_, .device (List.mem_map_of_mem declared) (Action.handler_recorded handler),
      fun values => ?_⟩
    have others : recordsFrom 0 d.recorded.features = [] := recordsFrom_recorded 0 d.features
    rw [records, others, List.append_nil]
    rfl
  | feature split declared handler =>
    have offered' := Offers.feature (features_recorded split) (List.mem_map_of_mem declared)
      (Action.handler_recorded handler)
    rw [List.length_map] at offered'
    refine ⟨_, offered', fun values => ?_⟩
    -- the records of the features around it are empty
    rw [records]
    dsimp only
    rw [recordsFrom_append, recordsFrom_recorded, recordsFrom, recordsFrom_recorded,
      List.append_nil, List.length_map, Nat.zero_add]
    rfl

/-- **One handler is run**, once, on the arguments that were read. -/
theorem runs_call (distinct : (d.descriptor.actions.map (·.name)).Nodup)
    (offered : d.Offers defs name part act) {m : Message} {raw : Bytes} (call : m.IsCall name raw)
    {list : List ArgumentValue} (read : ArgumentList.decodeOrdered raw defs = .ok list)
    (time : UInt32) : d.runs time m = [(part, ⟨name, .arguments list⟩)] := by
  obtain ⟨act', offered', added⟩ := offered.recorded
  have distinct' : (d.recorded.descriptor.actions.map (·.name)).Nodup := by
    rwa [descriptor_recorded]
  rw [runs, (dispatch_call distinct' offered' call read time).1, added]

/-! ### From the sender to the handler -/

/-- **Actions reach their handler with the sender's values.** Take any device that was put together
from any parts, in any state, an action with arguments that one of its parts declares, and values
that can be laid out for these arguments in any order. A request for the action with these values,
written with or without a key, is read and leads to a single run of a handler: that of the action, on
the state of the part that declares it, and on the values as they arrive, in the order of the
declarations. All other parts stay as they are. If the handler succeeds, and there is room for the
answer in a frame, the answer is that the request succeeded. -/
theorem action_reaches_handler (composed : d.Composed) (offered : d.Offers defs name part act)
    {sent : List ArgumentDef} (same : sent.Perm defs) {values : Assignment} {raw : Bytes}
    (encoded : ArgumentList.encode sent values = .ok raw) {m : Message} (call : m.IsCall name raw)
    {key : Option Bytes} {frame : Bytes} (written : m.encode key = .ok frame) (time : UInt32) :
    ∃ received list, Message.decode frame = .ok received ∧
      list.map some = defs.map (fun x => (values.get? x.name).map ArgumentValue.received) ∧
      d.runs time received = [(part, ⟨name, .arguments list⟩)] ∧
      (d.dispatch time received).dispatcher = (act list).1 ∧
      ((act list).2 = none →
        (d.account.success time m [] (some d.account.username)).bodyLength (some d.account.key)
          ≤ 65535 →
        ∃ reply answer, (d.dispatch time received).reply = .ok (some reply) ∧
          Message.decode reply = .ok answer ∧ answer.messageClass = .success ∧
          answer.transactionId = m.transactionId ∧ answer.method = m.method) := by
  have distinct := composed.nodup_actions
  -- the names of the arguments are different, so the order of the sender is of no account
  obtain ⟨list, read, values⟩ := ArgumentList.decodeOrdered_encoded same offered.nodup encoded
  have arrived := call.delivered key frame
  obtain ⟨after, reply⟩ := dispatch_call distinct offered arrived read time
  refine ⟨_, list, Message.decode_encoded written, values,
    runs_call distinct offered arrived read time, after, fun succeeded room => ?_⟩
  -- the answer takes nothing from the request but what survives in its frame
  have answers : d.account.success time (m.delivered key frame) [] (some d.account.username)
      = d.account.success time m [] (some d.account.username) := by
    rw [Account.success, Account.success, Message.method_delivered,
      Message.transactionId_delivered]
    rfl
  obtain ⟨answer, signed, decoded⟩ := Account.sign_eq_ok room
  refine ⟨answer, _, ?_, decoded, Message.messageClass_delivered ..,
    Message.transactionId_delivered .., Message.method_delivered ..⟩
  rw [reply, succeeded]
  dsimp only
  rw [succeed, Account.successResponse_eq, answers, signed]

/-! ### An oven with a notebook -/

/-- What a note says, and when it was taken. -/
def noteArguments : List ArgumentDef := [⟨"text", .string⟩, ⟨"at", .timestamp⟩]

/-- A feature that keeps the last note. -/
def notebook : Feature (List ArgumentValue) where
  name := "notebook"
  declared := ⟨[⟨"note", "Keep a note", .arguments noteArguments fun _ note => (note, none)⟩], [], [],
    .unknown⟩
  initial := []
  setup := fun note => (note, none)
  tick := fun note => .done (note, none)
  tickEvery := 1

theorem check_notebook : notebook.declared.check = .ok () := by decide +kernel

/-- An oven with a notebook. -/
def kitchen : Dispatcher Oven (List ArgumentValue) :=
  ⟨.start, ⟨Oven.declarations, by decide +kernel⟩, [⟨notebook, ⟨_, check_notebook⟩, [], [], 0⟩],
    ⟨"u", "k"⟩⟩

theorem composed_kitchen : kitchen.Composed :=
  (Composed.alone Oven.start _ _).add check_notebook nofun (by decide +kernel)

/-- A note that was taken a moment before 1970. -/
def noteValues : Assignment := [("at", .timestamp ⟨-1, 500⟩), ("text", .string "rôti")]

/-- The note with the time in front of the text. -/
def noteBytes : Bytes :=
  [2, 2, 9, 2, 255, 255, 255, 255, 97, 116, 0, 5, 0, 4, 114, 195, 180, 116, 105, 116, 101, 120, 116]

/-- A request to keep the note. -/
def noteRequest : Message :=
  ⟨.request, Method.action, ⟨List.replicate 12 9, rfl⟩, [⟨.name, Utf8.encode "note"⟩,
    ⟨.arguments, noteBytes⟩]⟩

/-- The note is kept with its text in front, and nothing else happens. -/
theorem action_reaches_notebook :
    ∃ frame received, noteRequest.encode (some [107]) = .ok frame ∧
      Message.decode frame = .ok received ∧
      kitchen.runs 5 received
        = [(.feature 0, ⟨"note", .arguments [.string "rôti", .timestamp ⟨-1, 0⟩]⟩)] ∧
      (kitchen.dispatch 5 received).dispatcher.state = .start ∧
      (kitchen.dispatch 5 received).dispatcher.features.map (·.state)
        = [[.string "rôti", .timestamp ⟨-1, 0⟩]] ∧
      ∃ reply answer, (kitchen.dispatch 5 received).reply = .ok (some reply) ∧
        Message.decode reply = .ok answer ∧ answer.messageClass = .success := by
  have encoded : ArgumentList.encode noteArguments.reverse noteValues = .ok noteBytes := by
    decide +kernel
  have fits : noteRequest.bodyLength (some [107]) ≤ 65535 := by decide +kernel
  have written := Message.encode_eq_ok fits
  have alone : kitchen.features = [] ++ _ :: [] := rfl
  obtain ⟨received, list, decoded, values, runs, after, answered⟩ :=
    action_reaches_handler composed_kitchen (.feature alone List.mem_cons_self rfl)
      (List.reverse_perm noteArguments) encoded ⟨rfl, rfl, rfl, rfl⟩ written 5
  have told : list = [.string "rôti", .timestamp ⟨-1, 0⟩] :=
    (List.map_inj_right fun _ _ => Option.some.inj).1 values
  subst told
  obtain ⟨reply, answer, replied, read, success, -, -⟩ := answered rfl (by decide +kernel)
  refine ⟨_, received, written, decoded, runs, ?_, ?_, reply, answer, replied, read, success⟩
  · rw [after]
    rfl
  · rw [after]
    rfl

end Dispatcher

end RelayDevice
