import Mathlib.Data.List.Induction
import RelayDevice.Proofs.Outcome
import RelayDevice.Proofs.Wire.Answers
import RelayDevice.Session.Startup

/-!
# Telling the relay a name

A device that the relay does not know yet tells its name when it opens its first session. Whether a
device is new is settled once, when its program starts: it is new if the identity store does not
have it, and its identity is entered there at once. Whether the relay agrees to a session turns out
later, and by then the program may have ended.

* `SessionStart.step_keeps` and `Startup.Announces.step` are the steps: each request that opens a
  session tells the name exactly if the device was new when its program started.
* `Lifetime.requests` are the requests of one program, and `Lifetime.requestsOf` those of several,
  one after the other, which share nothing but the identity store and the account service.

Hence only the program that registers the device ever tells its name
(`Lifetime.nameIn?_of_mem_requestsOf`), and the request that the relay is the first to grant tells
it exactly if the relay grants a request of that very program (`Lifetime.nameIn?_first_grant`). If
it does not, the device gets its first session without its name (`Lifetime.first_grant_unnamed`).
-/

namespace RelayDevice

/-! ### The name in a request -/

/-- The name that a frame tells. -/
def Message.nameIn? (frame : Bytes) : Option Bytes :=
  (Message.decode frame).toOption.bind (·.attribute? .name)

/-- A request that opens a session tells the name that was given to it, if one was. -/
theorem Account.nameIn?_frame {a : Account} {s : Stamp} {device : Uuid} {announced : Option String}
    {frame : Bytes} (written : a.frame s device (.startSession announced) = .ok frame) :
    Message.nameIn? frame = announced.map Utf8.encode := by
  have read : Message.decode frame
      = .ok ((a.request s device (.startSession announced)).delivered (some a.key) frame) :=
    Message.decode_encoded written
  rw [Message.nameIn?, read]
  change ((a.request s device (.startSession announced)).delivered (some a.key) frame).attribute?
    .name = _
  rw [Message.attribute?_delivered (by decide)]
  cases announced <;> rfl

/-! ### Attempts to open a session -/

namespace SessionStart

/-- **The step** of the attempts. They speak for the same device all the time, and what they send
is the request to open its session. -/
theorem step_keeps (s : SessionStart) (e : StartEvent) :
    (s.step e).start.announced = s.announced ∧
      ∀ frame, (s.step e).frame = some frame →
        Message.nameIn? frame = s.announced.map Utf8.encode := by
  have fails (cause : DeviceError) : (s.fail cause).start.announced = s.announced ∧
      ∀ frame, (s.fail cause).frame = some frame →
        Message.nameIn? frame = s.announced.map Utf8.encode := by
    unfold fail
    split
    · exact ⟨rfl, nofun⟩
    · exact ⟨rfl, nofun⟩
  unfold step
  split
  · next stamp _ =>
    unfold Account.startSession
    cases written : s.account.frame stamp s.device (.startSession s.announced) with
    | error cause => exact fails _
    | ok frame =>
      refine ⟨rfl, fun _ sent => ?_⟩
      obtain rfl := Option.some.inj sent
      exact Account.nameIn?_frame written
  -- what is received, or not received, sends nothing
  · split
    · split
      · exact ⟨rfl, nofun⟩
      · exact fails _
    · exact ⟨rfl, nofun⟩
  · exact fails _
  · exact ⟨rfl, nofun⟩
  · exact ⟨rfl, nofun⟩

end SessionStart

/-! ### A device on its way -/

/-- The frame that is to be sent. -/
def StartupRequest.sent? : StartupRequest → Option Bytes
  | .send frame => some frame
  | .attach _ _ | .publish _ _ _ | .pause _ | .detach _ => none

theorem DeviceSession.setup_eq {σ φ : Type} (d : DeviceSession σ φ) :
    d.setup.2 = { d with dispatcher := d.setup.2.dispatcher } := by
  unfold setup
  split <;> rfl

namespace Startup

variable {σ φ : Type} {s : Startup σ φ} {announced : Option String}

/-- What a device tells when it opens its session: its name, or nothing if it is not new. -/
structure Announces (s : Startup σ φ) (announced : Option String) : Prop where
  session : (if s.session.isNew then some s.session.name else none) = announced
  opening : ∀ start, s.phase = .opening start → start.announced = announced

theorem Announces.ofSession (d : DeviceSession σ φ) :
    (ofSession d).Announces (if d.isNew then some d.name else none) where
  session := rfl
  opening _ phase := nomatch phase

/-- What the requests of a step tell. -/
def Tells (requests : List StartupRequest) (announced : Option String) : Prop :=
  ∀ frame ∈ requests.filterMap StartupRequest.sent?,
    Message.nameIn? frame = announced.map Utf8.encode

theorem tells_nil : Tells [] announced := nofun

theorem Announces.advance (announces : s.Announces announced) {start : SessionStart}
    (opening : start.announced = announced) (e : StartEvent) :
    (s.advance start e).startup.Announces announced ∧
      Tells (s.advance start e).requests announced := by
  obtain ⟨kept, sends⟩ := start.step_keeps e
  have tells : Tells (openingRequests (start.step e)) announced := by
    intro frame among
    obtain ⟨r, asked, sent⟩ := List.mem_filterMap.1 among
    rcases List.mem_append.1 asked with request | pause
    · obtain ⟨frame', written, rfl⟩ := List.mem_map.1 request
      obtain rfl := Option.some.inj sent
      rw [← opening]
      exact sends frame' (Option.mem_toList.1 written)
    · obtain ⟨delay, -, rfl⟩ := List.mem_map.1 pause
      cases sent
  have still (start' : SessionStart) (same : start' = (start.step e).start) :
      start'.announced = announced := by
    rw [same, kept, opening]
  unfold Startup.advance
  dsimp only
  -- a start that has ended is forgotten, and any other goes on as the step leaves it
  split
  · exact ⟨⟨announces.session, fun _ phase => nomatch phase⟩, tells_nil⟩
  · exact ⟨⟨announces.session, fun _ phase => nomatch phase⟩, tells_nil⟩
  · refine ⟨⟨announces.session, fun start' phase => still start' ?_⟩, tells⟩
    cases phase
    rfl
  · refine ⟨⟨announces.session, fun start' phase => still start' ?_⟩, tells⟩
    cases phase
    rfl

/-- **The step.** A device tells the same as long as it is on its way. -/
theorem Announces.step (announces : s.Announces announced) (e : StartupEvent) :
    (s.step e).startup.Announces announced ∧ Tells (s.step e).requests announced := by
  have begins (log : List LogLine) : (s.beginOpening log).startup.Announces announced ∧
      Tells (s.beginOpening log).requests announced := by
    refine ⟨⟨announces.session, fun start phase => ?_⟩, tells_nil⟩
    cases phase
    exact announces.session
  unfold Startup.step
  split
  · -- setting the features up changes only the dispatcher
    have kept : (if s.session.setup.2.isNew then some s.session.setup.2.name else none)
        = announced := by
      rw [s.session.setup_eq]
      exact announces.session
    split
    · next cause session setup =>
      rw [setup] at kept
      exact ⟨⟨kept, fun _ phase => nomatch phase⟩, tells_nil⟩
    · next session setup =>
      rw [setup] at kept
      exact ⟨⟨kept, fun _ phase => nomatch phase⟩, tells_nil⟩
  · exact ⟨⟨announces.session, fun _ phase => nomatch phase⟩, tells_nil⟩
  · exact ⟨⟨announces.session, fun _ phase => nomatch phase⟩, tells_nil⟩
  · exact begins _
  · split
    · exact begins _
    · exact ⟨⟨announces.session, fun _ phase => nomatch phase⟩, tells_nil⟩
  · next start e phase => exact announces.advance (announces.opening start phase) e
  · exact ⟨announces, tells_nil⟩

theorem run_append_singleton (s : Startup σ φ) (events : List StartupEvent) (e : StartupEvent) :
    s.run (events ++ [e]) = ⟨((s.run events).startup.step e).startup,
      (s.run events).requests ++ ((s.run events).startup.step e).requests,
      (s.run events).log ++ ((s.run events).startup.step e).log⟩ := List.foldl_append

/-- **The run.** -/
theorem Announces.run (announces : s.Announces announced) (events : List StartupEvent) :
    (s.run events).startup.Announces announced ∧ Tells (s.run events).requests announced := by
  induction events using List.reverseRecOn with
  | nil => exact ⟨announces, tells_nil⟩
  | append_singleton events e ih =>
    obtain ⟨announces, tells⟩ := ih
    obtain ⟨later, more⟩ := announces.step e
    rw [run_append_singleton]
    refine ⟨later, fun frame among => ?_⟩
    rw [List.filterMap_append, List.mem_append] at among
    exact among.elim (tells frame) (more frame)

end Startup

/-! ### One program -/

namespace DeviceSession

variable {σ φ : Type}

/-- Adds several features, up to the first that does not fit. -/
def addFeatures (d : DeviceSession σ φ) :
    List (Feature φ × List (String × String)) → Except RegistryError (DeviceSession σ φ)
  | [] => .ok d
  | (f, aliases) :: rest => do
    let d ← d.addFeature f aliases
    d.addFeatures rest

theorem addFeature_eq {d d' : DeviceSession σ φ} {f : Feature φ} {aliases : List (String × String)}
    (added : d.addFeature f aliases = .ok d') : d' = { d with dispatcher := d'.dispatcher } := by
  unfold addFeature at added
  split at added
  · cases added
  · split at added
    · cases added
    · obtain rfl := Except.ok.inj added
      rfl

/-- Features do not change who the device is. -/
theorem addFeatures_eq {d d' : DeviceSession σ φ}
    {features : List (Feature φ × List (String × String))}
    (added : d.addFeatures features = .ok d') : d' = { d with dispatcher := d'.dispatcher } := by
  induction features generalizing d with
  | nil =>
    obtain rfl := Except.ok.inj added
    rfl
  | cons first rest ih =>
    obtain ⟨d₁, one, more⟩ := Outcome.bind_eq_ok_iff.1 added
    rw [ih more, addFeature_eq one]

end DeviceSession

/-- **One lifetime of a device's program**: what it is started with, and what it meets on the way to
its session. -/
structure Lifetime (σ φ : Type) where
  settings : Settings
  device : Device σ
  registry : Registry σ
  initial : σ
  features : List (Feature φ × List (String × String))
  events : List StartupEvent

namespace Lifetime

variable {σ φ β γ : Type} (store : IdentityStore β) (service : AccountService γ)

/-- The device with its identity, the identity store and the account service. -/
def create (l : Lifetime σ φ) (b : β) (g : γ) : Except DeviceError (DeviceSession σ φ) × β × γ :=
  DeviceSession.create l.settings l.device l.registry l.initial store service b g

/-- The device as it sets out, with its features. -/
def setOut (l : Lifetime σ φ) (b : β) (g : γ) : Except DeviceError (DeviceSession σ φ) := do
  let d ← (l.create store service b g).1
  (d.addFeatures l.features).mapError .registry

/-- The requests to open a session. -/
def requests (l : Lifetime σ φ) (b : β) (g : γ) : List Bytes :=
  match l.setOut store service b g with
  | .error _ => []
  | .ok d => ((Startup.ofSession d).run l.events).requests.filterMap StartupRequest.sent?

variable {store service} {l : Lifetime σ φ} {b : β} {g : γ} {d : DeviceSession σ φ} {uuid : Uuid}
  {frame : Bytes}

/-- Each request tells the name exactly if the device was new when its program started. -/
theorem nameIn?_of_mem_requests (created : (l.create store service b g).1 = .ok d)
    (among : frame ∈ l.requests store service b g) :
    Message.nameIn? frame = (if d.isNew then some d.name else none).map Utf8.encode := by
  unfold requests at among
  split at among
  · cases among
  · next d' set =>
    obtain ⟨d₁, created', added⟩ := Outcome.bind_eq_ok_iff.1 set
    obtain rfl := Except.ok.inj (created.symm.trans created')
    have same := DeviceSession.addFeatures_eq (Outcome.mapError_eq_ok_iff.1 added)
    have tells := ((Startup.Announces.ofSession d').run l.events).2 frame among
    rw [same] at tells
    exact tells

theorem exists_created_of_mem_requests (among : frame ∈ l.requests store service b g) :
    ∃ d, (l.create store service b g).1 = .ok d := by
  unfold requests at among
  split at among
  · cases among
  · next d' set =>
    obtain ⟨d, created, -⟩ := Outcome.bind_eq_ok_iff.1 set
    exact ⟨d, created⟩

/-- A device that the store has is not new, and the store stays as it is. -/
theorem create_of_known (unpinned : l.settings.device.uuid = none)
    (known : store.get b l.settings.device.name = .ok (some uuid)) :
    (l.create store service b g).2.1 = b ∧
      ∀ d, (l.create store service b g).1 = .ok d → d.isNew = false := by
  unfold create DeviceSession.create resolveIdentity
  rw [unpinned, known]
  dsimp only
  split
  · exact ⟨rfl, nofun⟩
  · refine ⟨rfl, fun d created => ?_⟩
    obtain rfl := Except.ok.inj created
    rfl

/-- **A device that the store does not have** is new, and is entered there. -/
theorem create_of_unknown (unpinned : l.settings.device.uuid = none)
    (unknown : store.get b l.settings.device.name = .ok none)
    (created : (l.create store service b g).1 = .ok d) :
    d.isNew = true ∧ d.name = l.settings.device.name ∧
      store.set b l.settings.device.name d.uuid = .ok (l.create store service b g).2.1 := by
  unfold create DeviceSession.create resolveIdentity at created ⊢
  rw [unpinned, unknown] at created ⊢
  dsimp only at created ⊢
  cases valid : l.settings.validate with
  | error e =>
    rw [valid] at created
    cases created
  | ok _ =>
    rw [valid] at created
    dsimp only at created ⊢
    rcases registered : service.register g l.settings.device.name with ⟨e | uuid, g'⟩
    · rw [registered] at created
      cases created
    · rw [registered] at created
      dsimp only at created ⊢
      cases entered : store.set b l.settings.device.name uuid with
      | error e =>
        rw [entered] at created
        cases created
      | ok b' =>
        rw [entered] at created
        obtain rfl := Except.ok.inj created
        exact ⟨rfl, rfl, entered⟩

/-! ### One program after the other -/

variable (store service)

/-- The requests of several programs. Each finds the identity store and the account service as the
one before has left them. -/
def requestsOf : List (Lifetime σ φ) → β → γ → List Bytes
  | [], _, _ => []
  | l :: later, b, g =>
    l.requests store service b g
      ++ requestsOf later (l.create store service b g).2.1 (l.create store service b g).2.2

variable {store service}

/-- Programs that find the device in the store never tell its name. -/
theorem requestsOf_of_known {lifetimes : List (Lifetime σ φ)} {name : String}
    (same : ∀ l ∈ lifetimes, l.settings.device.name = name ∧ l.settings.device.uuid = none)
    (known : store.get b name = .ok (some uuid)) :
    ∀ frame ∈ requestsOf store service lifetimes b g, Message.nameIn? frame = none := by
  -- on the programs: the store stays as it is, and only the service goes on
  induction lifetimes generalizing g with
  | nil => exact nofun
  | cons l later ih =>
    obtain ⟨rfl, unpinned⟩ := same l List.mem_cons_self
    obtain ⟨kept, old⟩ := create_of_known unpinned known
    intro frame among
    rcases List.mem_append.1 among with own | others
    · obtain ⟨d, created⟩ := exists_created_of_mem_requests own
      rw [nameIn?_of_mem_requests created own, old d created]
      rfl
    · rw [kept] at others
      exact ih (fun l' among' => same l' (List.mem_cons_of_mem l among')) frame others

/-- **Who tells the name.** A program registers the device, and others with the same store follow.
The requests of the first tell the name of the device, and those of the others do not. -/
theorem nameIn?_of_mem_requestsOf {name : String} {l : Lifetime σ φ} {later : List (Lifetime σ φ)}
    (kept : ∀ (b b' : β) (name : String) (uuid : Uuid), store.set b name uuid = .ok b' →
      store.get b' name = .ok (some uuid))
    (same : ∀ l' ∈ l :: later, l'.settings.device.name = name ∧ l'.settings.device.uuid = none)
    (unknown : store.get b name = .ok none) (created : (l.create store service b g).1 = .ok d) :
    (∀ frame ∈ l.requests store service b g,
      Message.nameIn? frame = some (Utf8.encode name)) ∧
    ∀ frame ∈ requestsOf store service later (l.create store service b g).2.1
      (l.create store service b g).2.2, Message.nameIn? frame = none := by
  obtain ⟨rfl, unpinned⟩ := same l List.mem_cons_self
  obtain ⟨new, named, entered⟩ := create_of_unknown unpinned unknown created
  constructor
  · intro frame among
    rw [nameIn?_of_mem_requests created among, new, named]
    rfl
  · have known := kept _ _ _ _ entered
    exact requestsOf_of_known (fun l' among => same l' (List.mem_cons_of_mem l among)) known

/-- **The first grant.** A program registers the device, and others with the same store follow,
whatever becomes of each. The relay grants some of their requests. The first that it grants tells
the name of the device, if the relay grants a request of the program that has registered it, and
tells no name otherwise. -/
theorem nameIn?_first_grant (store : IdentityStore β) (service : AccountService γ)
    (kept : ∀ (b b' : β) (name : String) (uuid : Uuid), store.set b name uuid = .ok b' →
      store.get b' name = .ok (some uuid))
    (name : String) (l : Lifetime σ φ) (later : List (Lifetime σ φ)) (b : β) (g : γ)
    (same : ∀ l' ∈ l :: later, l'.settings.device.name = name ∧ l'.settings.device.uuid = none)
    (unknown : store.get b name = .ok none)
    (created : ∃ d, (l.create store service b g).1 = .ok d) (granted : Nat → Bool) (i : Nat)
    (frame : Bytes) (sent : (requestsOf store service (l :: later) b g)[i]? = some frame)
    (grants : granted i = true) (first : ∀ j < i, granted j = false) :
    Message.nameIn? frame =
      if (List.range (l.requests store service b g).length).any granted then
        some (Utf8.encode name)
      else none := by
  obtain ⟨d, created⟩ := created
  obtain ⟨named, unnamed⟩ := nameIn?_of_mem_requestsOf kept same unknown created
  rw [requestsOf] at sent
  by_cases own : i < (l.requests store service b g).length
  · rw [List.getElem?_append_left own] at sent
    rw [named frame (List.mem_of_getElem? sent), if_pos]
    rw [List.any_eq_true]
    exact ⟨i, List.mem_range.2 own, grants⟩
  · have beyond := Nat.le_of_not_lt own
    rw [List.getElem?_append_right beyond] at sent
    rw [unnamed frame (List.mem_of_getElem? sent), if_neg]
    -- what the first program sends comes before the first grant
    rw [List.any_eq_true]
    rintro ⟨j, among, grants'⟩
    have earlier : j < i := Nat.lt_of_lt_of_le (List.mem_range.1 among) beyond
    exact Bool.false_ne_true ((first j earlier).symm.trans grants')

/-- Whether the device came online. -/
def isOnline (store : IdentityStore β) (service : AccountService γ) (l : Lifetime σ φ) (b : β)
    (g : γ) : Bool :=
  match l.setOut store service b g with
  | .error _ => false
  | .ok d =>
    match ((Startup.ofSession d).run l.events).startup.phase with
    | .online _ => true
    | _ => false

/-- A service that gives every device the same identity. -/
def bellService : AccountService Unit where
  register g _ := (.ok ⟨List.replicate 16 0x55, rfl⟩, g)
  publish g _ _ _ := (.ok (), g)

/-- A bell that sends one request, to which it is answered. -/
def bell (answer : Message) : Lifetime Unit Empty where
  settings := { Settings.blank none with device := ⟨"bell", "u", "k", none, none⟩ }
  device := ⟨fun s => (s, none), fun s => .done (s, none), fun _ => none⟩
  registry := ⟨⟨[], [⟨"rung", []⟩], [], .unknown⟩, by decide +kernel⟩
  initial := ()
  features := []
  events := [.launched, .attached (.ok ()), .published (.ok ()), .opening (.sending default),
    .opening (.received answer)]

/-- The relay rejects the credentials. -/
def refused : Message :=
  ⟨.error, .binding, (default : Stamp).transactionId, [⟨.errorCode, [0, 0, 4, 1]⟩]⟩

/-- The relay agrees. -/
def welcomed : Message := ⟨.success, .binding, (default : Stamp).transactionId, []⟩

/-- A bell with two lifetimes. Where the relay agrees in both, it is told the name in the first, and
where it agrees only in the second, it has agreed to a request without a name. -/
theorem nameIn?_first_grant_bell :
    (∃ frame,
      (requestsOf IdentityTable.store bellService [bell welcomed, bell welcomed] [] ())[0]?
        = some frame ∧ Message.nameIn? frame = some (Utf8.encode "bell")) ∧
    ∃ frame,
      (requestsOf IdentityTable.store bellService [bell refused, bell welcomed] [] ())[1]?
        = some frame ∧ Message.nameIn? frame = none := by
  have kept (b b' : IdentityTable) (name : String) (uuid : Uuid)
      (entered : IdentityTable.store.set b name uuid = .ok b') :
      IdentityTable.store.get b' name = .ok (some uuid) := by
    obtain rfl := Except.ok.inj entered
    exact congrArg Except.ok (IdentityTable.get_set_self b name uuid)
  have same (first second : Message) : ∀ l' ∈ [bell first, bell second],
      l'.settings.device.name = "bell" ∧ l'.settings.device.uuid = none :=
    List.forall_mem_cons.2 ⟨⟨rfl, rfl⟩, List.forall_mem_singleton.2 ⟨rfl, rfl⟩⟩
  constructor
  · have sent : (requestsOf IdentityTable.store bellService [bell welcomed, bell welcomed] []
        ())[0]?.isSome = true := by decide +kernel
    obtain ⟨frame, sent⟩ := Option.isSome_iff_exists.1 sent
    refine ⟨frame, sent, ?_⟩
    refine (nameIn?_first_grant IdentityTable.store bellService kept "bell" (bell welcomed)
      [bell welcomed] [] () (same _ _) rfl ⟨_, rfl⟩ (fun _ => true) 0 frame sent rfl nofun).trans ?_
    decide +kernel
  · have sent : (requestsOf IdentityTable.store bellService [bell refused, bell welcomed] []
        ())[1]?.isSome = true := by decide +kernel
    obtain ⟨frame, sent⟩ := Option.isSome_iff_exists.1 sent
    refine ⟨frame, sent, ?_⟩
    -- of the two requests, one in each lifetime, the relay grants the second alone
    refine (nameIn?_first_grant IdentityTable.store bellService kept "bell" (bell refused)
      [bell welcomed] [] () (same _ _) rfl ⟨_, rfl⟩ (· == 1) 1 frame sent rfl (by decide)).trans ?_
    decide +kernel

/-- **The relay may never hear the name.** It rejects the credentials of the bell in its first
lifetime and agrees in the next, when the bell is not new any more. -/
theorem first_grant_unnamed :
    let stored := (bell refused).create IdentityTable.store bellService [] ()
    let requests := requestsOf IdentityTable.store bellService [bell refused, bell welcomed] [] ()
    (bell refused).isOnline IdentityTable.store bellService [] () = false ∧
      (bell welcomed).isOnline IdentityTable.store bellService stored.2.1 stored.2.2 = true ∧
      requests.length = 2 ∧ requests[1]?.map Message.nameIn? = some none := by
  decide +kernel

end Lifetime

end RelayDevice
