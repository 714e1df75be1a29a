import RelayDevice.Proofs.Identity.Stores
import RelayDevice.Session.Registration

/-!
# Registering a device once

Programs that share an identity store each want an identity for their device. A device whose
settings give it one leaves the store and the account service alone. Any other is looked up under
its name, and only a name that the store does not know is registered; what the service grants is
kept.

`Construction.moves` is the step: it lists all that one program can do to a store that is a map.
What carries the run is that an identity is never forgotten and never changed
(`Construction.Moves.exists_known`). A registration uses up a name that was not known, so that there
is room for one of each name (`Construction.countP_course`), and from then on everyone who asks for
the name is given what it got (`Construction.exists_uuid_course`). Both go by induction on the
programs that are still to come, with the map that the store holds by then.

Which store it is does not matter: a table in memory is a map, and so is a file that can be read
(`IdentityTable.isMap_store`, `IdentityFile.isMap_store`).
-/

namespace RelayDevice

/-! ### Registrations on record -/

/-- A registration that an account service was asked for. -/
structure Registration where
  name : String
  result : Except DeviceError Uuid
deriving DecidableEq

/-- Whether a name was registered with success. -/
def Registration.grants (r : Registration) (name : String) : Bool :=
  decide (r.name = name) && r.result.isOk

/-- An account service that also keeps the registrations it was asked for. -/
def AccountService.recorded {γ : Type} (service : AccountService γ) :
    AccountService (γ × List Registration) where
  register g name :=
    let (result, after) := service.register g.1 name
    (result, after, g.2 ++ [⟨name, result⟩])
  publish g device apiKey descriptor :=
    let (result, after) := service.publish g.1 device apiKey descriptor
    (result, after, g.2)

theorem AccountService.register_recorded {γ : Type} (service : AccountService γ) (g : γ)
    (past : List Registration) (name : String) :
    service.recorded.register (g, past) name = ((service.register g name).1,
      (service.register g name).2, past ++ [⟨name, (service.register g name).1⟩]) := rfl

theorem resolveIdentity_recorded {β γ : Type} (store : IdentityStore β) (service : AccountService γ)
    (pinned : Option Uuid) (name : String) (b : β) (g : γ) (past : List Registration) :
    ∃ asked, resolveIdentity store service.recorded pinned name b (g, past)
      = ((resolveIdentity store service pinned name b g).1,
        (resolveIdentity store service pinned name b g).2.1,
        (resolveIdentity store service pinned name b g).2.2, past ++ asked) := by
  unfold resolveIdentity
  have recorded := service.register_recorded g past name
  split
  · exact ⟨[], by rw [List.append_nil]⟩
  · split
    · exact ⟨[], by rw [List.append_nil]⟩
    · exact ⟨[], by rw [List.append_nil]⟩
    · refine ⟨[⟨name, (service.register g name).1⟩], ?_⟩
      rcases registered : service.register g name with ⟨e | uuid, g'⟩
      · rw [registered] at recorded
        simp only [recorded]
      · rw [registered] at recorded
        simp only [recorded]
        cases store.set b name uuid <;> rfl

/-- A program that makes a device: what it is given, and the account service that it asks. -/
structure Construction (γ : Type) where
  /-- The states of the device and of its features. -/
  (σ φ : Type)
  settings : Settings
  device : Device σ
  registry : Registry σ
  initial : σ
  service : AccountService γ

/-- What came of it. -/
structure Constructed (β γ : Type) where
  /-- The program. -/
  made : Construction γ
  /-- The identity store as the program found it. -/
  before : β
  /-- The identity of the device. -/
  result : Except DeviceError Uuid
  /-- The registrations that the service was asked for. -/
  registrations : List Registration
  /-- The identity store as the program left it. -/
  after : β

namespace Construction

variable {β γ : Type}

/-- The name of the device. -/
def name (c : Construction γ) : String := c.settings.device.name

/-- The identity that the settings give the device. -/
def pinned (c : Construction γ) : Option Uuid := c.settings.device.uuid

variable (store : IdentityStore β)

/-- The device with its identity, the identity store and the account service. -/
def create {δ : Type} (c : Construction γ) (service : AccountService δ) (b : β) (g : δ) :
    Except DeviceError (DeviceSession c.σ c.φ) × β × δ :=
  DeviceSession.create c.settings c.device c.registry c.initial store service b g

/-- A record of the registrations changes nothing else. -/
theorem create_recorded (c : Construction γ) (b : β) (g : γ) (past : List Registration) :
    ∃ asked, c.create store c.service.recorded b (g, past)
      = ((c.create store c.service b g).1, (c.create store c.service b g).2.1,
        (c.create store c.service b g).2.2, past ++ asked) := by
  unfold create DeviceSession.create
  cases c.settings.validate with
  | error e => exact ⟨[], by rw [List.append_nil]⟩
  | ok _ =>
    obtain ⟨asked, same⟩ := resolveIdentity_recorded store c.service c.settings.device.uuid
      c.settings.device.name b g past
    refine ⟨asked, ?_⟩
    simp only [same]
    rcases resolveIdentity store c.service c.settings.device.uuid c.settings.device.name b g
      with ⟨e | ⟨uuid, isNew⟩, b', g'⟩
    · rfl
    · rfl

/-- One program, and the account service after it. The registrations are those of the same run with
a record beside it (`create_recorded`). -/
def run (c : Construction γ) (b : β) (g : γ) : Constructed β γ × γ :=
  let done := c.create store c.service b g
  ({ made := c
     before := b
     result := done.1.map (·.uuid)
     registrations := (c.create store c.service.recorded b (g, [])).2.2.2
     after := done.2.1 }, done.2.2)

/-- Several programs. Each finds the store as the one before has left it. -/
def course : List (Construction γ) → β → γ → List (Constructed β γ)
  | [], _, _ => []
  | c :: later, b, g =>
    (c.run store b g).1 :: course later (c.run store b g).1.after (c.run store b g).2

/-! ### One program -/

/-- **All that a program can do** to a store that holds a map. -/
inductive Moves (holds : β → (String → Option Uuid) → Prop) (known : String → Option Uuid) :
    Constructed β γ → Prop
  | invalid {c : Construction γ} {b : β} {e : DeviceError} : holds b known →
    Moves holds known ⟨c, b, .error e, [], b⟩
  | pinned {c : Construction γ} {b : β} {uuid : Uuid} : holds b known → c.pinned = some uuid →
    Moves holds known ⟨c, b, .ok uuid, [], b⟩
  | found {c : Construction γ} {b : β} {uuid : Uuid} : holds b known → c.pinned = none →
    known c.name = some uuid → Moves holds known ⟨c, b, .ok uuid, [], b⟩
  | refused {c : Construction γ} {b : β} {e : DeviceError} : holds b known → c.pinned = none →
    known c.name = none → Moves holds known ⟨c, b, .error e, [⟨c.name, .error e⟩], b⟩
  | registered {c : Construction γ} {b b' : β} {uuid : Uuid} : c.pinned = none →
    known c.name = none → holds b' (Function.update known c.name (some uuid)) →
    Moves holds known ⟨c, b, .ok uuid, [⟨c.name, .ok uuid⟩], b'⟩

variable {store} {holds : β → (String → Option Uuid) → Prop} {known : String → Option Uuid}

theorem moves (lawful : store.IsMap holds) {b : β} (held : holds b known) (c : Construction γ)
    (g : γ) : Moves holds known (c.run store b g).1 := by
  unfold run create DeviceSession.create
  cases valid : c.settings.validate with
  | error e => exact .invalid held
  | ok _ =>
    dsimp only
    unfold resolveIdentity
    cases pinned : c.settings.device.uuid with
    | some uuid => exact .pinned held pinned
    | none =>
      dsimp only
      rw [lawful.get held]
      cases looked : known c.settings.device.name with
      | some uuid => exact .found held pinned looked
      | none =>
        have recorded := c.service.register_recorded g [] c.settings.device.name
        rcases registered : c.service.register g c.settings.device.name with ⟨e | uuid, g'⟩
        · rw [registered] at recorded
          simp only [recorded]
          exact .refused held pinned looked
        · rw [registered] at recorded
          obtain ⟨b', kept, goesOn⟩ := lawful.set held c.settings.device.name uuid
          simp only [recorded, kept]
          exact .registered pinned looked goesOn

/-! ### Several programs -/

/-- A name that is known stays known, with the same identity. -/
def Extends (known later : String → Option Uuid) : Prop :=
  ∀ name uuid, known name = some uuid → later name = some uuid

theorem extends_update {name : String} (unknown : known name = none) (uuid : Uuid) :
    Extends known (Function.update known name (some uuid)) := by
  intro other u before
  have differs : other ≠ name := by
    rintro rfl
    cases unknown.symm.trans before
  rw [Function.update_of_ne differs, before]

/-- What is known after a program: all that was known before, and the identity that the device got
from the store or the service. A registration is of a name that was not known, and then is. -/
theorem Moves.exists_known {r : Constructed β γ} (moves : Moves holds known r) :
    ∃ later, holds r.after later ∧ Extends known later ∧
      (∀ uuid, r.made.pinned = none → r.result = .ok uuid → later r.made.name = some uuid) ∧
      ∀ name, (known name).isSome.toNat + r.registrations.countP (·.grants name)
        ≤ (later name).isSome.toNat := by
  cases moves with
  | invalid held => exact ⟨known, held, fun _ _ => id, nofun, fun _ => Nat.le_refl _⟩
  | pinned held pinned =>
    refine ⟨known, held, fun _ _ => id, fun _ free => ?_, fun _ => Nat.le_refl _⟩
    cases free.symm.trans pinned
  | found held free looked =>
    refine ⟨known, held, fun _ _ => id, fun uuid _ got => ?_, fun _ => Nat.le_refl _⟩
    rw [looked, ← Except.ok.inj got]
  | refused held => exact ⟨known, held, fun _ _ => id, nofun, fun name => by
      simp [Registration.grants, Except.isOk, Except.toBool]⟩
  | @registered c b b' uuid free unknown held =>
    refine ⟨_, held, extends_update unknown uuid, fun u _ got => ?_, fun name => ?_⟩
    · rw [Function.update_self, ← Except.ok.inj got]
    · by_cases own : c.name = name
      · subst own
        rw [unknown, Function.update_self]
        exact Nat.add_le_add (Nat.le_refl 0) List.countP_le_length
      · rw [Function.update_of_ne (Ne.symm own)]
        simp [Registration.grants, own]

theorem course_cons (c : Construction γ) (later : List (Construction γ)) (b : β) (g : γ) :
    course store (c :: later) b g = (c.run store b g).1 ::
      course store later (c.run store b g).1.after (c.run store b g).2 := rfl

/-- Every program moves as one that finds a map, in which the identities from before are kept. -/
theorem moves_of_mem_course (lawful : store.IsMap holds) {constructions : List (Construction γ)}
    {b : β} (held : holds b known) {g : γ} :
    ∀ r ∈ course store constructions b g, ∃ found, Moves holds found r ∧ Extends known found := by
  induction constructions generalizing b g known with
  | nil => exact fun r among => (List.not_mem_nil among).elim
  | cons c later ih =>
    intro r among
    have first := moves lawful held c g
    obtain ⟨next, goesOn, kept, -⟩ := first.exists_known
    rcases List.mem_cons.1 among with rfl | others
    · exact ⟨known, first, fun _ _ => id⟩
    · obtain ⟨found, moves, kept'⟩ := ih goesOn r others
      exact ⟨found, moves, fun name uuid before => kept' name uuid (kept name uuid before)⟩

/-- **The registrations of a run.** There is room for one of each name that is not known. -/
theorem countP_course (lawful : store.IsMap holds) {constructions : List (Construction γ)} {b : β}
    (held : holds b known) {g : γ} (name : String) :
    (known name).isSome.toNat + ((course store constructions b g).flatMap
      (·.registrations)).countP (·.grants name) ≤ 1 := by
  induction constructions generalizing b g known with
  | nil => exact Bool.toNat_le _
  | cons c later ih =>
    obtain ⟨next, goesOn, -, -, room⟩ := (moves lawful held c g).exists_known
    have rest := ih goesOn (g := (c.run store b g).2)
    have own := room name
    rw [course_cons, List.flatMap_cons, List.countP_append]
    omega

/-- **The identity of a name in a run.** -/
theorem exists_uuid_course (lawful : store.IsMap holds) {constructions : List (Construction γ)}
    {b : β} (held : holds b known) {g : γ} (name : String) :
    ∃ own, (∀ uuid, known name = some uuid → uuid = own) ∧
      ∀ r ∈ course store constructions b g, r.made.pinned = none → r.made.name = name →
        ∀ uuid, r.result = .ok uuid → uuid = own := by
  induction constructions generalizing b g known with
  | nil =>
    refine ⟨(known name).getD default, fun uuid before => ?_, fun r among => ?_⟩
    · rw [before, Option.getD_some]
    · exact (List.not_mem_nil among).elim
  | cons c later ih =>
    obtain ⟨next, goesOn, kept, enters, -⟩ := (moves lawful held c g).exists_known
    obtain ⟨own, same, others⟩ := ih goesOn (g := (c.run store b g).2)
    refine ⟨own, fun uuid before => same uuid (kept name uuid before), ?_⟩
    intro r among free named uuid got
    rcases List.mem_cons.1 among with rfl | among'
    · rw [← named] at same
      exact same uuid (enters uuid free got)
    · exact others r among' free named uuid got

/-- **A name is registered once.** Programs make devices, one after the other, with an identity
store that is a map. Of each name at most one registration is granted, and all programs that leave
the identity to the store get the same one. A program whose settings give the identity gets that
one, if any, and neither registers the device nor touches the store. A program that fails does not
touch the store either. -/
theorem registered_once (store : IdentityStore β) (holds : β → (String → Option Uuid) → Prop)
    (lawful : store.IsMap holds) (b : β) (known : String → Option Uuid) (held : holds b known)
    (constructions : List (Construction γ)) (g : γ) :
    let made := course store constructions b g
    (∀ name, (made.flatMap (·.registrations)).countP (·.grants name) ≤ 1) ∧
    (∀ r ∈ made, ∀ r' ∈ made, r.made.pinned = none → r'.made.pinned = none →
      r.made.name = r'.made.name → ∀ uuid uuid', r.result = .ok uuid → r'.result = .ok uuid' →
        uuid = uuid') ∧
    (∀ r ∈ made, ∀ own, r.made.pinned = some own →
      (∀ uuid, r.result = .ok uuid → uuid = own) ∧ r.registrations = [] ∧ r.after = r.before) ∧
    ∀ r ∈ made, ∀ e, r.result = .error e → r.after = r.before := by
  intro made
  refine ⟨fun name => ?_, ?_, ?_, ?_⟩
  · exact le_of_add_le_right (countP_course lawful held name)
  · intro r among r' among' free free' named uuid uuid' got got'
    obtain ⟨own, -, same⟩ := exists_uuid_course lawful held (g := g) r'.made.name
    calc uuid = own := same r among free named uuid got
      _ = uuid' := (same r' among' free' rfl uuid' got').symm
  · intro r among own pinned
    obtain ⟨found, moves, -⟩ := moves_of_mem_course lawful held r among
    cases moves with
    | invalid => exact ⟨nofun, rfl, rfl⟩
    | pinned _ pinned' =>
      refine ⟨fun uuid got => ?_, rfl, rfl⟩
      rw [← Except.ok.inj got]
      exact Option.some.inj (pinned'.symm.trans pinned)
    | found _ free => cases free.symm.trans pinned
    | refused _ free => cases free.symm.trans pinned
    | registered free => cases free.symm.trans pinned
  · intro r among e failed
    obtain ⟨found, moves, -⟩ := moves_of_mem_course lawful held r among
    cases moves with
    | invalid | refused => rfl
    | pinned | found | registered => cases failed

/-- A service that gives out one identity after the other, or refuses. -/
def turnstile (isOpen : Bool) : AccountService UInt8 where
  register next _ :=
    if isOpen then (.ok ⟨List.replicate 16 next, rfl⟩, next + 1)
    else (.error (.identity .unauthorized), next)
  publish next _ _ _ := (.ok (), next)

/-- A program for a lamp. -/
def lamp (apiKey : String) (pinned : Option Uuid) (isOpen : Bool) : Construction UInt8 where
  σ := Unit
  φ := Empty
  settings := { Settings.blank none with device := ⟨"lamp", "u", apiKey, pinned, none⟩ }
  device := ⟨fun s => (s, none), fun s => .done (s, none), fun _ => none⟩
  registry := ⟨⟨[], [], [], .unknown⟩, by decide +kernel⟩
  initial := ()
  service := turnstile isOpen

/-- A lamp that is refused at first. -/
def lamps : List (Construction UInt8) :=
  [lamp "k" none false, lamp "k" none true, lamp "" none true, lamp "k" (some default) true,
    lamp "k" none true]

theorem registered_once_lamp :
    let made := course (IdentityFile.store "ids") lamps .absent 3
    made.map (·.result.toOption) = [none, some IdentityFile.threes, none, some default,
      some IdentityFile.threes] ∧
    (made.flatMap (·.registrations)).map (·.result.isOk) = [false, true] ∧
    (made.flatMap (·.registrations)).countP (·.grants "lamp") ≤ 1 := by
  have held : IdentityFile.Holds "ids" .absent fun _ => none :=
    ⟨[], rfl, List.Pairwise.nil, rfl⟩
  obtain ⟨once, -⟩ := registered_once (IdentityFile.store "ids") (IdentityFile.Holds "ids")
    (IdentityFile.isMap_store "ids") .absent _ held lamps 3
  exact ⟨by decide +kernel, by decide +kernel, once "lamp"⟩

end Construction

end RelayDevice
