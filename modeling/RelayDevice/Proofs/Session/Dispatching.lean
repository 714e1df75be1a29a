import RelayDevice.Proofs.Session.Actions
import RelayDevice.Proofs.Session.Status

/-!
# What becomes of a message

There are few ways for a message to go. The dispatcher takes no notice of it, or rejects it, or runs
the handler of the action that it names, or reads the status components. `Dispatcher.Fate` is these
ways, each with all that it leaves behind: the device afterwards, the reply, what is reported, and the
runs of handlers. `Dispatcher.fate` says that there are no others.

The turning point is a single action. Its input is read to the end before its handler is run
(`Action.invoke_cases`), so a request with a bad argument is rejected while nothing has happened yet,
however late in the list the argument stands. What looks for the action runs no handler either
(`Dispatcher.resolves_perform`), so that there is at most one run for a message.

* `DeviceError.IsRejection` — the errors of a request that is dropped before a handler was run;
* `Dispatcher.Performs` — the handler that a name leads to, and what a run of it makes of the device;
* `Dispatcher.dropped_without_trace` — what a dropped request leaves behind.
-/

namespace RelayDevice

variable {σ φ : Type}

/-! ### Rejections -/

/-- **Rejections.** Nothing is declared under the name, or the arguments cannot be read, or something
is missing in the message. -/
inductive DeviceError.IsRejection : DeviceError → Prop
  | capability (cause : CapabilityError) : IsRejection (.capability cause)
  | argument (cause : ArgumentError) : IsRejection (.argument cause)
  | message (cause : MessageError) : IsRejection (.message cause)

/-- What a handler makes of an input and a state. It takes inputs of one kind only. -/
def Handler.apply? : Handler σ → HandlerInput → σ → Option (Outcome σ)
  | .arguments _ run, .arguments values, state => some (run state values)
  | .payload run, .payload octets, state => some (run state octets)
  | .arguments _ _, .payload _, _ | .payload _, .arguments _, _ => none

namespace Action

theorem isRejection_of_input {name : String} {defs : List ArgumentDef} {m : Message}
    {e : DeviceError} (unread : input name defs m = .error e) : e.IsRejection := by
  rw [input] at unread
  split at unread
  · obtain ⟨cause, -, rfl⟩ := Outcome.mapError_eq_error_iff.1 unread
    exact .argument cause
  · split at unread
    · cases unread
    · cases unread
      exact .message _

/-- **One action.** Either the message is rejected, and then the state is as it was and no handler was
run, or the handler is run on the whole input. -/
theorem invoke_cases (a : Action σ) (m : Message) (state : σ) :
    (∃ e : DeviceError, e.IsRejection ∧ a.run? m = none ∧ a.invoke m state = (.error e, state)) ∨
      ∃ input outcome, a.handler.apply? input state = some outcome ∧
        a.run? m = some ⟨a.name, input⟩ ∧ a.invoke m state = conclude a.name outcome := by
  rw [run?, invoke]
  cases a.handler with
  | payload run =>
    dsimp only
    cases m.attribute? .payload with
    | none => exact .inl ⟨_, .message _, rfl, rfl⟩
    | some octets => exact .inr ⟨.payload octets, run state octets, rfl, rfl, rfl⟩
  | arguments defs run =>
    dsimp only
    cases read : input a.name defs m with
    | error e => exact .inl ⟨e, isRejection_of_input read, rfl, rfl⟩
    | ok values => exact .inr ⟨.arguments values, run state values, rfl, rfl, rfl⟩

end Action

namespace Dispatcher

/-! ### The action of a name -/

/-- **The handler that a name leads to**, on the part that answers to the name, and what a run of it
makes of the whole device: only the state of that part changes. The device comes before its features,
and a feature before those that were installed later. -/
inductive Performs (d : Dispatcher σ φ) (name : String) :
    DevicePart → HandlerInput → Outcome (Dispatcher σ φ) → Prop
  | device {a : Action σ} {input : HandlerInput} {outcome : Outcome σ} :
    d.registry.action? name = some a → a.handler.apply? input d.state = some outcome →
    d.Performs name .device input ({ d with state := outcome.1 }, outcome.2)
  | feature {before after : List (Installed φ)} {f : Installed φ} {a : Action φ}
      {input : HandlerInput} {outcome : Outcome φ} :
    d.registry.action? name = none → d.features = before ++ f :: after →
    (∀ g ∈ before, g.registry.action? name = none) → f.registry.action? name = some a →
    a.handler.apply? input f.state = some outcome →
    d.Performs name (.feature before.length) input
      ({ d with features := before ++ { f with state := outcome.1 } :: after }, outcome.2)

/-- **The action of a name** is rejected without a trace, or its handler is run, once and alone. -/
inductive Resolves (d : Dispatcher σ φ) (name : String) :
    Except DeviceError Unit × Dispatcher σ φ → List (DevicePart × HandlerRun) → Prop
  | rejected {e : DeviceError} : e.IsRejection → d.Resolves name (.error e, d) []
  | performed {part : DevicePart} {input : HandlerInput} {outcome : Outcome (Dispatcher σ φ)} :
    d.Performs name part input outcome →
    d.Resolves name (Action.conclude name outcome) [(part, ⟨name, input⟩)]

theorem Performs.account_eq {d : Dispatcher σ φ} {name : String} {part : DevicePart}
    {input : HandlerInput} {outcome : Outcome (Dispatcher σ φ)}
    (performed : d.Performs name part input outcome) : outcome.1.account = d.account := by
  cases performed <;> rfl

theorem records_recorded (d : Dispatcher σ φ) : d.recorded.records = [] :=
  recordsFrom_recorded 0 d.features

section Perform

variable {d : Dispatcher σ φ} {name : String}

theorem records_perform_of_device {a : Action σ} (found : d.registry.action? name = some a)
    (m : Message) :
    (d.recorded.perform name m).2.records = (a.run? m).toList.map (.device, ·) := by
  have found' : d.recorded.registry.action? name = some a.recorded :=
    (d.registry.action?_recorded name).trans (congrArg _ found)
  rw [perform_of_device found', Action.invoke_recorded]
  -- the features are as they were, with empty records
  have others : recordsFrom 0 d.recorded.features = [] := recordsFrom_recorded 0 d.features
  rw [records, others, List.append_nil]
  rfl

theorem records_perform_of_feature (own : d.registry.action? name = none)
    {before after : List (Installed φ)} {f : Installed φ}
    (split : d.features = before ++ f :: after)
    (absent : ∀ g ∈ before, g.registry.action? name = none) {a : Action φ}
    (found : f.registry.action? name = some a) (m : Message) :
    (d.recorded.perform name m).2.records
      = (a.run? m).toList.map (.feature before.length, ·) := by
  have own' : d.recorded.registry.action? name = none :=
    (d.registry.action?_recorded name).trans (congrArg _ own)
  have found' : f.recorded.registry.action? name = some a.recorded :=
    (f.registry.action?_recorded name).trans (congrArg _ found)
  rw [perform_of_feature own' (features_recorded split) (absent_recorded absent) found',
    Action.invoke_recorded, records]
  dsimp only
  rw [recordsFrom_append, recordsFrom_recorded, recordsFrom, recordsFrom_recorded, List.append_nil,
    List.length_map, Nat.zero_add]
  rfl

theorem records_perform_of_absent (own : d.registry.action? name = none)
    (absent : ∀ g ∈ d.features, g.registry.action? name = none) (m : Message) :
    (d.recorded.perform name m).2.records = [] := by
  have own' : d.recorded.registry.action? name = none :=
    (d.registry.action?_recorded name).trans (congrArg _ own)
  rw [perform_of_absent own' (absent_recorded absent)]
  exact d.records_recorded

/-- What an action makes of its part is what the device makes of the message, if the rest of the
device stays around the part. -/
theorem resolves_of_invoke {τ : Type} (around : τ → Dispatcher σ φ) {a : Action τ}
    (named : a.name = name) {m : Message} {state : τ} {part : DevicePart} (still : around state = d)
    (performed : d.perform name m = ((a.invoke m state).1, around (a.invoke m state).2))
    (recorded : (d.recorded.perform name m).2.records = (a.run? m).toList.map (part, ·))
    (performs : ∀ input outcome, a.handler.apply? input state = some outcome →
      d.Performs name part input (around outcome.1, outcome.2)) :
    d.Resolves name (d.perform name m) (d.recorded.perform name m).2.records := by
  rw [performed, recorded]
  rcases a.invoke_cases m state with
    ⟨e, rejection, idle, invoked⟩ | ⟨input, outcome, applied, ran, invoked⟩
  · rw [invoked, idle]
    dsimp only
    rw [still]
    exact .rejected rejection
  · rw [invoked, ran, named, ← Action.conclude_map]
    exact .performed (performs input outcome applied)

/-- **One name.** -/
theorem resolves_perform (d : Dispatcher σ φ) (name : String) (m : Message) :
    d.Resolves name (d.perform name m) (d.recorded.perform name m).2.records := by
  rcases d.part_cases name with
    ⟨a, found⟩ | ⟨own, before, f, after, a, split, absent, found⟩ | ⟨own, absent⟩
  · exact resolves_of_invoke (fun state => { d with state }) (Registry.name_of_action? found) rfl
      (perform_of_device found m) (records_perform_of_device found m)
      fun input outcome applied => .device found applied
  · have still : { d with features := before ++ { f with state := f.state } :: after } = d := by
      -- the feature is put back as it was
      rw [← split]
    exact resolves_of_invoke
      (fun state => { d with features := before ++ { f with state } :: after })
      (Registry.name_of_action? found) still (perform_of_feature own split absent found m)
      (records_perform_of_feature own split absent found m)
      fun input outcome applied => .feature own split absent found applied
  · rw [perform_of_absent own absent m, records_perform_of_absent own absent m]
    exact .rejected (.capability _)

end Perform

/-! ### Messages -/

theorem dispatcher_performAction {m : Message} {name : String} (named : m.text? .name = some name)
    (d : Dispatcher σ φ) (time : UInt32) :
    (d.performAction time m).dispatcher = (d.perform name m).2 := by
  rw [performAction, named]
  dsimp only
  obtain ⟨result, after⟩ := d.perform name m
  cases result <;> rfl

theorem dispatcher_answerStatus (d : Dispatcher σ φ) (time : UInt32) (m : Message) :
    (d.answerStatus time m).dispatcher = d := by
  rw [answerStatus]
  split
  · split <;> rfl
  · rfl

/-- **The ways of a message**, each with what it leaves behind and with the runs of handlers. -/
inductive Fate (d : Dispatcher σ φ) (time : UInt32) (m : Message) :
    Dispatched σ φ → List (DevicePart × HandlerRun) → Prop
  /-- No notice is taken of responses, and of other methods. -/
  | ignored :
    m.messageClass.isResponse = true ∨
      (m.method ≠ Method.action ∧ m.method ≠ Method.statusRequest) →
    d.Fate time m ⟨d, .ok none, []⟩ []
  | rejected {e : DeviceError} :
    m.messageClass.isResponse = false → m.method = Method.action → e.IsRejection →
    d.Fate time m ⟨d, .error e, []⟩ []
  | performed {name : String} {part : DevicePart} {input : HandlerInput}
      {after : Dispatcher σ φ} :
    m.messageClass.isResponse = false → m.method = Method.action → m.text? .name = some name →
    d.Performs name part input (after, none) →
    d.Fate time m ⟨after, d.succeed time m [], []⟩ [(part, ⟨name, input⟩)]
  | failed {name : String} {part : DevicePart} {input : HandlerInput} {after : Dispatcher σ φ}
      {failure : Failure} :
    m.messageClass.isResponse = false → m.method = Method.action → m.text? .name = some name →
    d.Performs name part input (after, some failure) →
    d.Fate time m ⟨after, .error (.action name failure), []⟩ [(part, ⟨name, input⟩)]
  /-- The status components are read, whatever comes of it. -/
  | asked :
    m.messageClass.isResponse = false → m.method = Method.statusRequest →
    d.Fate time m (d.answerStatus time m) []

/-- A request for an action goes one of three ways. -/
theorem fate_of_action {m : Message} (request : m.messageClass.isResponse = false)
    (action : m.method = Method.action) (d : Dispatcher σ φ) (time : UInt32) :
    d.Fate time m (d.performAction time m) (d.recorded.performAction time m).dispatcher.records := by
  cases named : m.text? .name with
  | none =>
    have rejected : ∀ {ρ ψ : Type} (d : Dispatcher ρ ψ),
        d.performAction time m = ⟨d, .error (.message .actionWithoutName), []⟩ := by
      intro ρ ψ d
      rw [performAction, named]
    rw [rejected, rejected, records_recorded]
    exact .rejected request action (.message _)
  | some name =>
    rw [dispatcher_performAction named, performAction, named]
    dsimp only
    have resolves := d.resolves_perform name m
    generalize d.perform name m = result at resolves
    generalize (d.recorded.perform name m).2.records = runs at resolves
    cases resolves with
    | rejected rejection => exact .rejected request action rejection
    | @performed part input outcome performs =>
      obtain ⟨after, failed⟩ := outcome
      cases failed with
      | some failure => exact .failed request action named performs
      | none =>
        -- the answer is signed by the account, which no handler can change
        have answer : after.succeed time m [] = d.succeed time m [] := by
          have account : after.account = d.account := performs.account_eq
          rw [succeed, succeed, account]
        rw [Action.conclude]
        dsimp only
        rw [answer]
        exact .performed request action named performs

/-- **There are no other ways.** -/
theorem fate (d : Dispatcher σ φ) (time : UInt32) (m : Message) :
    d.Fate time m (d.dispatch time m) (d.runs time m) := by
  rw [runs]
  cases response : m.messageClass.isResponse with
  | true =>
    have ignored : ∀ {ρ ψ : Type} (d : Dispatcher ρ ψ), d.dispatch time m = ⟨d, .ok none, []⟩ := by
      intro ρ ψ d
      rw [dispatch, if_pos response]
    rw [ignored, ignored, records_recorded]
    exact .ignored (.inl response)
  | false =>
    by_cases action : m.method = Method.action
    · rw [dispatch_of_action response action, dispatch_of_action response action]
      exact fate_of_action response action d time
    by_cases status : m.method = Method.statusRequest
    · rw [dispatch_of_status response status, dispatch_of_status response status,
        dispatcher_answerStatus, records_recorded]
      exact .asked response status
    · have ignored : ∀ {ρ ψ : Type} (d : Dispatcher ρ ψ),
          d.dispatch time m = ⟨d, .ok none, []⟩ := by
        intro ρ ψ d
        rw [dispatch, response, if_neg Bool.false_ne_true, if_neg action, if_neg status]
      rw [ignored, ignored, records_recorded]
      exact .ignored (.inr ⟨action, status⟩)

/-! ### Requests that are dropped -/

/-- Status requests are not dropped for the failure of an action. -/
theorem reply_answerStatus_ne_action (d : Dispatcher σ φ) (time : UInt32) (m : Message)
    (name : String) (failure : Failure) :
    (d.answerStatus time m).reply ≠ .error (.action name failure) := by
  intro failed
  rw [reply_answerStatus] at failed
  split at failed
  · obtain ⟨cause, framing⟩ := Account.framing_of_reply failed
    cases framing
  · cases failed

/-- **A dropped request leaves no trace.** On any device, in any state, and for any message: where the
message is rejected, no handler was run, and the device and all its features are as they were. Where
an action is reported to have failed, the message names that action, and its handler was run, once
and as the only one; it failed as is reported, and nothing but what it did has changed. There is
never more than one run of a handler for one message. -/
theorem dropped_without_trace (d : Dispatcher σ φ) (time : UInt32) (m : Message) :
    (∀ e : DeviceError, (d.dispatch time m).reply = .error e → e.IsRejection →
      d.runs time m = [] ∧ (d.dispatch time m).dispatcher = d) ∧
    (∀ name failure, (d.dispatch time m).reply = .error (.action name failure) →
      ∃ part input, m.text? .name = some name ∧
        d.runs time m = [(part, ⟨name, input⟩)] ∧
        d.Performs name part input ((d.dispatch time m).dispatcher, some failure)) ∧
    (d.runs time m).length ≤ 1 := by
  have way := d.fate time m
  generalize d.dispatch time m = done at way
  generalize d.runs time m = runs at way
  cases way with
  | ignored => exact ⟨nofun, nofun, Nat.zero_le 1⟩
  | rejected _ _ rejection =>
    refine ⟨fun _ _ _ => ⟨rfl, rfl⟩, fun name failure failed => ?_, Nat.zero_le 1⟩
    -- a rejection is no failure of an action
    cases failed
    cases rejection
  | performed request action named performs =>
    have unfailed {e : DeviceError} (refused : d.succeed time m [] = .error e) :
        ∃ cause, e = .framing cause := Account.framing_of_reply refused
    refine ⟨fun e refused rejection => ?_, fun name failure refused => ?_, Nat.le_refl 1⟩
    · obtain ⟨cause, rfl⟩ := unfailed refused
      cases rejection
    · obtain ⟨cause, framing⟩ := unfailed refused
      cases framing
  | failed request action named performs =>
    refine ⟨fun e failed rejection => ?_, fun name failure failed => ?_, Nat.le_refl 1⟩
    · cases failed
      cases rejection
    · cases failed
      exact ⟨_, _, named, rfl, performs⟩
  | asked =>
    refine ⟨fun _ _ _ => ⟨rfl, d.dispatcher_answerStatus time m⟩, fun name failure failed => ?_,
      Nat.zero_le 1⟩
    exact absurd failed (d.reply_answerStatus_ne_action time m name failure)

/-- A shutter that takes down how far it is to be moved, and is stuck. -/
def shutter : Feature Bytes where
  name := "shutter"
  declared := ⟨[⟨"move", "", .payload fun _ goal => (goal, some (.ofText "stuck"))⟩], [], [], .unknown⟩
  initial := []
  setup := fun goal => (goal, none)
  tick := fun goal => .done (goal, none)
  tickEvery := 1

theorem check_shutter : shutter.declared.check = .ok () := by decide +kernel

/-- A window with a shutter. The window itself is open or not. -/
def window : Dispatcher Bool Bytes :=
  ⟨true, ⟨⟨[], [], [], .unknown⟩, rfl⟩, [⟨shutter, ⟨_, check_shutter⟩, [], [], 0⟩], ⟨"u", "k"⟩⟩

/-- A request to move the shutter. -/
def moveRequest (carried : List Attribute) : Message :=
  ⟨.request, Method.action, ⟨List.replicate 12 6, rfl⟩, ⟨.name, Utf8.encode "move"⟩ :: carried⟩

/-- Without a goal the shutter is not touched; with one it is tried, and fails. -/
theorem dropped_without_trace_window :
    (window.runs 5 (moveRequest []) = [] ∧
      (window.dispatch 5 (moveRequest [])).dispatcher = window) ∧
    ∃ part input, window.runs 5 (moveRequest [⟨.payload, [7]⟩]) = [(part, ⟨"move", input⟩)] ∧
      window.Performs "move" part input
        ((window.dispatch 5 (moveRequest [⟨.payload, [7]⟩])).dispatcher, some (.ofText "stuck")) := by
  obtain ⟨rejected, -, -⟩ := window.dropped_without_trace 5 (moveRequest [])
  obtain ⟨-, failed, -⟩ := window.dropped_without_trace 5 (moveRequest [⟨.payload, [7]⟩])
  have unasked : (window.dispatch 5 (moveRequest [])).reply
      = .error (.message (.payloadNeeded "move")) := by decide +kernel
  have stuck : (window.dispatch 5 (moveRequest [⟨.payload, [7]⟩])).reply
      = .error (.action "move" (.ofText "stuck")) := by decide +kernel
  obtain ⟨part, input, -, runs, performs⟩ := failed _ _ stuck
  exact ⟨rejected _ unasked (.message _), part, input, runs, performs⟩

end Dispatcher

end RelayDevice
