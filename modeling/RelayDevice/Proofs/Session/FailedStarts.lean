import RelayDevice.Proofs.Session.Announcing
import RelayDevice.Proofs.Session.Attempts
import RelayDevice.Proofs.Session.Lives

/-!
# Starts that fail

A device on its way fails in one of two ways. Either its setup fails or the worker refuses it, and
then it has left nothing behind (`Startup.FailsEarly`); or the relay rejects its identity or the
worker is gone, and then it has to give up its place at the worker (`Startup.FailsLate`).

`Startup.moves` lists all that a step can do, and two invariants follow the phases of a start.
`Startup.Stands` tells how often the device was attached and detached so far. A device that has
failed does nothing any more, so that how it failed is settled by the step that made it fail.
`Startup.InOrder` tells the state of the session: a step that changes it leaves a phase, and the
phase tells which state it was.
-/

namespace RelayDevice

variable {σ φ : Type}

/-! ### What a start asks for, and what it meets -/

/-- The device that is to be detached. -/
def StartupRequest.detached? : StartupRequest → Option Uuid
  | .detach device => some device
  | .attach _ _ | .publish _ _ _ | .send _ | .pause _ => none

theorem StartupRequest.IsPlain.detached?_eq {r : StartupRequest} (plain : r.IsPlain) :
    r.detached? = none := by
  cases r with
  | publish | send | pause => rfl
  | attach | detach => exact plain.elim

theorem SessionState.canBecome_stopped (state : SessionState) : state.canBecome .stopped = true := by
  cases state <;> rfl

theorem DeviceSession.state_setup (d : DeviceSession σ φ) : d.setup.2.state = d.state := by
  rw [d.setup_eq]

namespace Startup

variable {s : Startup σ φ} {e : StartupEvent}

/-- Whether an event attaches the device. -/
def accepts (s : Startup σ φ) (e : StartupEvent) : Bool :=
  match s.phase, e with
  | .attaching, .attached (.ok ()) => true
  | _, _ => false

theorem accepts_iff : s.accepts e = true ↔ s.phase = .attaching ∧ e = .attached (.ok ()) := by
  constructor
  · intro accepted
    unfold accepts at accepted
    split at accepted
    · next phase => exact ⟨phase, rfl⟩
    · cases accepted
  · rintro ⟨phase, rfl⟩
    unfold accepts
    rw [phase]

theorem accepts_eq_false (other : s.phase ≠ .attaching) : s.accepts e = false :=
  Bool.eq_false_iff.2 fun accepted => other (accepts_iff.1 accepted).1

/-- How often the device is attached. -/
def attachments (s : Startup σ φ) : List StartupEvent → Nat
  | [] => 0
  | e :: events => (s.accepts e).toNat + (s.step e).startup.attachments events

/-- The states that the session goes through. -/
def states (s : Startup σ φ) : List StartupEvent → List SessionState
  | [] => [s.session.state]
  | e :: events => s.session.state :: (s.step e).startup.states events

theorem startup_run_cons (s : Startup σ φ) (e : StartupEvent) (events : List StartupEvent) :
    (s.run (e :: events)).startup = ((s.step e).startup.run events).startup := by
  induction events using List.reverseRecOn with
  | nil => rfl
  | append_singleton events later ih =>
    rw [← List.cons_append, run_append_singleton, run_append_singleton, ih]

theorem attachments_append_singleton (s : Startup σ φ) (events : List StartupEvent)
    (e : StartupEvent) : s.attachments (events ++ [e])
      = s.attachments events + ((s.run events).startup.accepts e).toNat := by
  induction events generalizing s with
  | nil => exact Nat.add_comm _ 0
  | cons first rest ih =>
    rw [List.cons_append, attachments, ih, attachments, startup_run_cons, Nat.add_assoc]

/-! ### Steps -/

/-- **The device fails and was not attached**: its setup, or that of one of its features, goes
wrong, or it is refused by the worker. -/
inductive FailsEarly (s : Startup σ φ) : StartupEvent → DeviceError → Prop
  | setup {cause : SessionError} : s.phase = .idle → s.session.setup.1 = .error cause →
    FailsEarly s .launched (.session cause)
  | refused {cause : NetworkError} : s.phase = .attaching →
    FailsEarly s (.attached (.error cause)) (.network cause)

/-- **The device fails and was attached**: its identity is rejected, either when it is described or
by the answer to its request, or the worker is gone. -/
inductive FailsLate (s : Startup σ φ) : StartupEvent → DeviceError → Prop
  | unpublished {cause : IdentityRefusal} : s.phase = .publishing →
    FailsLate s (.published (.error (.identity cause))) (.identity cause)
  | unopened {start : SessionStart} {tid : TransactionId} {e : StartEvent} {cause : DeviceError} :
    s.phase = .opening start → start.phase = .waiting tid → e.Ends tid (.error cause) →
    FailsLate s (.opening e) cause

/-- **All that a step can do.** -/
inductive Moves (s : Startup σ φ) : StartupEvent → Startup σ φ → List StartupRequest → Prop
  | setUp : s.phase = .idle → Moves s .launched ⟨s.session.setup.2, .attaching⟩
      [.attach s.session.setup.2.uuid s.session.setup.2.account.key]
  | attached : s.phase = .attaching →
    Moves s (.attached (.ok ())) { s with phase := .publishing }
      [.publish s.session.uuid s.session.account.apiKey s.session.dispatcher.descriptor.text]
  | published {result : Except DeviceError Unit} : s.phase = .publishing →
    Moves s (.published result)
      ⟨{ s.session with state := .starting }, .opening (firstAttempt s.session)⟩ []
  | attempted {start : SessionStart} {e : StartEvent} : s.phase = .opening start →
    (∀ result, (start.step e).start.phase ≠ .finished result) →
    Moves s (.opening e) { s with phase := .opening (start.step e).start }
      (openingRequests (start.step e))
  | opened {start : SessionStart} {e : StartEvent} : s.phase = .opening start →
    (start.step e).start.phase = .finished (.ok ()) →
    Moves s (.opening e)
      ⟨{ s.session with state := .running }, .online (start.step e).start.backlog⟩ []
  | failed {e : StartupEvent} {cause : DeviceError} {session : DeviceSession σ φ} :
    s.FailsEarly e cause → session.state = s.session.state →
    Moves s e ⟨session, .failed cause⟩ []
  | aborted {e : StartupEvent} {cause : DeviceError} : s.FailsLate e cause →
    Moves s e ⟨{ s.session with state := .stopped }, .failed cause⟩ [.detach s.session.uuid]
  /-- The event is none that is waited for. -/
  | unmet {e : StartupEvent} : s.accepts e = false → Moves s e s []

/-- The attempts of a device that tries to open its session are not over. -/
def IsTrying (s : Startup σ φ) : Prop :=
  ∀ start result, s.phase = .opening start → start.phase ≠ .finished result

theorem moves_advance {start : SessionStart} (phase : s.phase = .opening start)
    (trying : s.IsTrying) (e : StartEvent) :
    s.Moves (.opening e) (s.advance start e).startup (s.advance start e).requests := by
  unfold advance
  dsimp only
  split
  · next finished => exact .opened phase finished
  · next cause finished =>
    -- the attempts were not over before, so that this event has ended them
    obtain already | ⟨tid, waiting, ends⟩ :=
      StartRecord.finished_of_act (r := ⟨start, [], []⟩) finished
    · exact absurd already (trying start _ phase)
    · exact .aborted (.unopened phase waiting ends)
  · next ready =>
    refine .attempted phase fun result finished => ?_
    cases ready.symm.trans finished
  · next tid waiting =>
    refine .attempted phase fun result finished => ?_
    cases waiting.symm.trans finished

theorem moves (trying : s.IsTrying) (e : StartupEvent) :
    s.Moves e (s.step e).startup (s.step e).requests := by
  unfold step
  split
  · next phase =>
    split
    · next cause session setup =>
      refine .failed (.setup phase (by rw [setup])) ?_
      rw [← s.session.state_setup, setup]
    · next session setup =>
      have moves : s.Moves .launched ⟨s.session.setup.2, .attaching⟩ _ := .setUp phase
      rw [setup] at moves
      exact moves
  · next cause phase => exact .failed (.refused phase) rfl
  · next phase => exact .attached phase
  · next phase => exact .published phase
  · next cause phase =>
    split
    · exact .published phase
    · next fatal =>
      cases cause with
      | identity refusal => exact .aborted (.unpublished phase)
      | _ => exact absurd rfl fatal
  · next start event phase => exact moves_advance phase trying event
  · next _ _ unmet _ _ _ =>
    refine .unmet (Bool.eq_false_iff.2 fun accepted => ?_)
    obtain ⟨phase, rfl⟩ := accepts_iff.1 accepted
    exact unmet phase rfl

theorem FailsEarly.accepts_eq_false {cause : DeviceError} (fails : s.FailsEarly e cause) :
    s.accepts e = false := by
  cases fails with
  | setup phase => exact Startup.accepts_eq_false (by rw [phase]; nofun)
  | refused =>
    refine Bool.eq_false_iff.2 fun accepted => ?_
    cases (accepts_iff.1 accepted).2

theorem FailsLate.accepts_eq_false {cause : DeviceError} (fails : s.FailsLate e cause) :
    s.accepts e = false := by
  cases fails with
  | unpublished phase => exact Startup.accepts_eq_false (by rw [phase]; nofun)
  | unopened phase => exact Startup.accepts_eq_false (by rw [phase]; nofun)

/-! ### The states of the session -/

/-- The session is in the state of the phase, and attempts that are over are forgotten. -/
structure InOrder (s : Startup σ φ) : Prop where
  state : match s.phase with
    | .idle | .attaching | .publishing => s.session.state = .registered
    | .opening _ => s.session.state = .starting
    | .online _ => s.session.state = .running
    | .failed _ => True
  trying : s.IsTrying

theorem inOrder_ofSession {d : DeviceSession σ φ} (registered : d.state = .registered) :
    (ofSession d).InOrder := ⟨registered, fun _ _ phase => nomatch phase⟩

/-- The next state is the same, or one that may follow. -/
def Follows (state next : SessionState) : Prop := state = next ∨ state.canBecome next = true

/-- **The step of the states.** -/
theorem InOrder.step (order : s.InOrder) (e : StartupEvent) :
    (s.step e).startup.InOrder ∧
      Follows s.session.state (s.step e).startup.session.state := by
  have state := order.state
  have moves := moves order.trying e
  generalize (s.step e).startup = next, (s.step e).requests = requests at moves
  -- the phase that a step leaves tells the state that it changes
  cases moves with
  | setUp phase =>
    rw [phase] at state
    have same := s.session.state_setup
    exact ⟨⟨same.trans state, fun _ _ phase => nomatch phase⟩, .inl same.symm⟩
  | attached phase =>
    rw [phase] at state
    exact ⟨⟨state, fun _ _ phase => nomatch phase⟩, .inl rfl⟩
  | published phase =>
    rw [phase] at state
    refine ⟨⟨rfl, fun start result opening => ?_⟩, .inr (by rw [state]; rfl)⟩
    obtain rfl := StartupPhase.opening.inj opening
    exact fun finished => nomatch finished
  | attempted phase ongoing =>
    rw [phase] at state
    refine ⟨⟨state, fun start result opening => ?_⟩, .inl rfl⟩
    obtain rfl := StartupPhase.opening.inj opening
    exact ongoing result
  | opened phase =>
    rw [phase] at state
    exact ⟨⟨rfl, fun _ _ phase => nomatch phase⟩, .inr (by rw [state]; rfl)⟩
  | failed _ same => exact ⟨⟨trivial, fun _ _ phase => nomatch phase⟩, .inl same.symm⟩
  | aborted =>
    exact ⟨⟨trivial, fun _ _ phase => nomatch phase⟩, .inr (SessionState.canBecome_stopped _)⟩
  | unmet => exact ⟨order, .inl rfl⟩

theorem InOrder.run (order : s.InOrder) (events : List StartupEvent) :
    (s.run events).startup.InOrder := by
  induction events using List.reverseRecOn with
  | nil => exact order
  | append_singleton events e ih =>
    rw [run_append_singleton]
    exact (ih.step e).1

theorem states_eq_cons (s : Startup σ φ) (events : List StartupEvent) :
    ∃ later, s.states events = s.session.state :: later := by
  cases events with
  | nil => exact ⟨[], rfl⟩
  | cons e events => exact ⟨(s.step e).startup.states events, rfl⟩

/-- **The run of the states.** -/
theorem InOrder.isChain_states (order : s.InOrder) (events : List StartupEvent) :
    List.IsChain Follows (s.states events) := by
  induction events generalizing s with
  | nil => exact .singleton _
  | cons e events ih =>
    obtain ⟨next, follows⟩ := order.step e
    have rest := ih next
    obtain ⟨later, first⟩ := (s.step e).startup.states_eq_cons events
    rw [states, first]
    rw [first] at rest
    exact .cons_cons follows rest

/-! ### Coming and going -/

/-- **Where a start stands** in a phase, after some events: how often the device was attached, which
devices were detached, and which frames were sent. -/
def Stands (s : Startup σ φ) (events : List StartupEvent) (attachments : Nat)
    (detached : List Uuid) (sent : List Bytes) : StartupPhase → Prop
  | .idle | .attaching => attachments = 0 ∧ detached = [] ∧ sent = []
  | .publishing | .opening _ | .online _ => attachments = 1 ∧ detached = []
  | .failed cause => ∃ before e after, events = before ++ e :: after ∧
      ((s.run before).startup.FailsEarly e cause ∧ attachments = 0 ∧ detached = [] ∧ sent = [] ∨
        (s.run before).startup.FailsLate e cause ∧ attachments = 1 ∧ detached = [s.session.uuid])

theorem Stands.later {events : List StartupEvent} {attachments : Nat} {detached : List Uuid}
    {sent : List Bytes} {phase : StartupPhase}
    (stands : s.Stands events attachments detached sent phase) (e : StartupEvent) :
    s.Stands (events ++ [e]) attachments detached sent phase := by
  cases phase with
  | failed cause =>
    obtain ⟨before, e', after, rfl, failed⟩ := stands
    exact ⟨before, e', after ++ [e], by rw [List.append_assoc, List.cons_append], failed⟩
  | idle | attaching | publishing | opening | online => exact stands

theorem uuid_run (s : Startup σ φ) (events : List StartupEvent) :
    (s.run events).startup.session.uuid = s.session.uuid := by
  induction events using List.reverseRecOn with
  | nil => rfl
  | append_singleton events e ih =>
    rw [run_append_singleton]
    exact (uuid_step _ e).trans ih

theorem filterMap_detached?_openingRequests (next : StartStep) :
    (openingRequests next).filterMap StartupRequest.detached? = [] :=
  List.filterMap_eq_nil_iff.2 fun r asked => (isPlain_openingRequests next r asked).detached?_eq

section Step

variable {events : List StartupEvent} {attachments : Nat} {detached : List Uuid}
  {sent : List Bytes} {cause : DeviceError}

/-- A device that fails early was not attached and has asked for nothing that is left behind. -/
theorem Stands.of_failsEarly
    (stands : s.Stands events attachments detached sent (s.run events).startup.phase)
    (fails : (s.run events).startup.FailsEarly e cause) :
    s.Stands (events ++ [e]) attachments detached sent (.failed cause) := by
  have fresh : attachments = 0 ∧ detached = [] ∧ sent = [] := by
    cases fails with
    | setup phase | refused phase =>
      rw [phase] at stands
      exact stands
  exact ⟨events, e, [], rfl, .inl ⟨fails, fresh⟩⟩

/-- A device that fails late was attached once and is detached by the failing step. -/
theorem Stands.of_failsLate
    (stands : s.Stands events attachments detached sent (s.run events).startup.phase)
    (fails : (s.run events).startup.FailsLate e cause) :
    s.Stands (events ++ [e]) attachments (detached ++ [s.session.uuid]) sent (.failed cause) := by
  have settled : attachments = 1 ∧ detached = [] := by
    cases fails with
    | unpublished phase | unopened phase =>
      rw [phase] at stands
      exact stands
  obtain ⟨once, rfl⟩ := settled
  exact ⟨events, e, [], rfl, .inr ⟨fails, once, rfl⟩⟩

/-- A device that is attached stays so while nothing else is asked for. -/
theorem stays_attached {requests : List StartupRequest}
    (attached : attachments = 1 ∧ detached = []) (unaccepted : s.accepts e = false)
    (kept : requests.filterMap StartupRequest.detached? = []) :
    attachments + (s.accepts e).toNat = 1 ∧
      detached ++ requests.filterMap StartupRequest.detached? = [] := by
  obtain ⟨rfl, rfl⟩ := attached
  rw [unaccepted, kept]
  exact ⟨rfl, rfl⟩

theorem Stands.step {next : Startup σ φ} {requests : List StartupRequest}
    (stands : s.Stands events attachments detached sent (s.run events).startup.phase)
    (moves : (s.run events).startup.Moves e next requests) :
    s.Stands (events ++ [e]) (attachments + ((s.run events).startup.accepts e).toNat)
      (detached ++ requests.filterMap StartupRequest.detached?)
      (sent ++ requests.filterMap StartupRequest.sent?) next.phase := by
  cases moves with
  | setUp phase =>
    have unaccepted := accepts_eq_false (e := .launched) (by rw [phase]; nofun)
    rw [phase] at stands
    obtain ⟨rfl, rfl, rfl⟩ := stands
    rw [unaccepted]
    exact ⟨rfl, rfl, rfl⟩
  | attached phase =>
    rw [accepts_iff.2 ⟨phase, rfl⟩]
    rw [phase] at stands
    obtain ⟨rfl, rfl, rfl⟩ := stands
    exact ⟨rfl, rfl⟩
  | published phase =>
    rw [phase] at stands
    exact stays_attached stands (accepts_eq_false (by rw [phase]; nofun)) rfl
  | @attempted start e phase =>
    rw [phase] at stands
    have kept := filterMap_detached?_openingRequests (start.step e)
    exact stays_attached stands (accepts_eq_false (by rw [phase]; nofun)) kept
  | opened phase =>
    rw [phase] at stands
    exact stays_attached stands (accepts_eq_false (by rw [phase]; nofun)) rfl
  | failed fails =>
    rw [fails.accepts_eq_false, List.filterMap_nil, List.filterMap_nil, List.append_nil,
      List.append_nil]
    exact stands.of_failsEarly fails
  | aborted fails =>
    rw [fails.accepts_eq_false, uuid_run]
    have left := stands.of_failsLate fails
    rw [← List.append_nil sent] at left
    exact left
  | unmet unaccepted =>
    rw [unaccepted, List.filterMap_nil, List.filterMap_nil, List.append_nil, List.append_nil]
    exact stands.later e

end Step

/-- **The run.** -/
theorem stands_run (order : s.InOrder) (idle : s.phase = .idle) (events : List StartupEvent) :
    s.Stands events (s.attachments events)
      ((s.run events).requests.filterMap StartupRequest.detached?)
      ((s.run events).requests.filterMap StartupRequest.sent?) (s.run events).startup.phase := by
  induction events using List.reverseRecOn with
  | nil =>
    change s.Stands [] 0 [] [] s.phase
    rw [idle]
    exact ⟨rfl, rfl, rfl⟩
  | append_singleton events e ih =>
    have moves := moves (order.run events).trying e
    rw [run_append_singleton, attachments_append_singleton, List.filterMap_append,
      List.filterMap_append]
    exact ih.step moves

end Startup

/-! ### One program -/

theorem DeviceSession.state_of_create {β γ : Type} {settings : Settings} {device : Device σ}
    {registry : Registry σ} {initial : σ} {store : IdentityStore β} {service : AccountService γ}
    {b : β} {g : γ} {d : DeviceSession σ φ}
    (created : (create settings device registry initial store service b g).1 = .ok d) :
    d.state = .registered := by
  unfold create at created
  split at created
  · cases created
  · split at created
    · cases created
    · obtain rfl := Except.ok.inj created
      rfl

namespace Lifetime

variable {β γ : Type}

theorem state_of_setOut {store : IdentityStore β} {service : AccountService γ} {l : Lifetime σ φ}
    {b : β} {g : γ} {d : DeviceSession σ φ} (set : l.setOut store service b g = .ok d) :
    d.state = .registered := by
  obtain ⟨d₁, created, added⟩ := Outcome.bind_eq_ok_iff.1 set
  have same := DeviceSession.addFeatures_eq (Outcome.mapError_eq_ok_iff.1 added)
  have kept : d.state = d₁.state := by rw [same]
  exact kept.trans (DeviceSession.state_of_create created)

/-- **A failed start gives its place back.** A device comes to its start with an identity and with
its features, and meets whatever comes. If it fails, then either its setup has failed, or the worker
has refused it: it was never attached, nothing was sent, and nothing is detached. Or its identity
was rejected, or the worker was gone: it was attached once, and it alone is detached, once. If it
comes online, nothing is detached. Wherever it stops, from before it had an identity on, its state
has changed only as states may. -/
theorem failed_start_detaches (store : IdentityStore β) (service : AccountService γ)
    (l : Lifetime σ φ) (b : β) (g : γ) (d : DeviceSession σ φ)
    (set : l.setOut store service b g = .ok d) :
    let s := Startup.ofSession d
    let done := s.run l.events
    let detached := done.requests.filterMap StartupRequest.detached?
    let sent := done.requests.filterMap StartupRequest.sent?
    (∀ cause, done.startup.phase = .failed cause → ∃ before e after,
      l.events = before ++ e :: after ∧
      ((s.run before).startup.FailsEarly e cause ∧ s.attachments l.events = 0 ∧ detached = [] ∧
          sent = [] ∨
        (s.run before).startup.FailsLate e cause ∧ s.attachments l.events = 1 ∧
          detached = [d.uuid])) ∧
    (∀ backlog, done.startup.phase = .online backlog →
      s.attachments l.events = 1 ∧ detached = []) ∧
    List.IsChain (fun state next => state = next ∨ state.canBecome next = true)
      (.unregistered :: s.states l.events) := by
  intro s done detached sent
  have registered := state_of_setOut set
  have order := Startup.inOrder_ofSession registered
  have stands := Startup.stands_run order rfl l.events
  refine ⟨fun cause failed => ?_, fun backlog online => ?_, ?_⟩
  · rw [failed] at stands
    exact stands
  · rw [online] at stands
    exact stands
  · have chain := order.isChain_states l.events
    obtain ⟨later, first⟩ := s.states_eq_cons l.events
    rw [first] at chain ⊢
    have registers : SessionState.canBecome .unregistered d.state = true := by
      rw [registered]
      rfl
    exact .cons_cons (.inr registers) chain

/-- The relay rejects the credentials of the bell. -/
theorem failed_start_detaches_bell : ∃ d,
    (bell refused).setOut IdentityTable.store bellService [] () = .ok d ∧
      ((Startup.ofSession d).run (bell refused).events).requests.filterMap
        StartupRequest.detached? = [d.uuid] ∧
      (Startup.ofSession d).states (bell refused).events
        = [.registered, .registered, .registered, .starting, .starting, .stopped] := by
  refine ⟨_, rfl, ?_, by decide +kernel⟩
  obtain ⟨told, -⟩ :=
    failed_start_detaches IdentityTable.store bellService (bell refused) [] () _ rfl
  obtain ⟨before, e, after, -, ⟨early, -⟩ | ⟨-, -, left⟩⟩ := told (.identity .unauthorized) rfl
  · cases early
  · exact left

end Lifetime

end RelayDevice
