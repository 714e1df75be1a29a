import RelayDevice.Proofs.Session.Performing

/-!
# Runs of handlers

How often a handler is run, and on what, cannot be told from the state it leaves behind. So every
handler is replaced by one that does the same on the same state and keeps a record of its runs beside
it (`Dispatcher.recorded`). The record after a message tells which handlers it led to, of which part
and on which input (`Dispatcher.runs`).

The record is not looked at by anything, and handlers are the only ones to write to it:
`Dispatcher.dispatch_recorded` says that a device with a record behaves as it does without. The step
is that of a single action (`Action.invoke_recorded`), which has at most one run to record.
-/

namespace RelayDevice

variable {σ φ : Type}

/-! ### Records -/

/-- What a handler was run on. -/
inductive HandlerInput
  | arguments (values : List ArgumentValue)
  | payload (octets : Bytes)
deriving DecidableEq

/-- A run of a handler. -/
structure HandlerRun where
  /-- The action whose handler it was. -/
  action : String
  /-- What the handler was run on. -/
  input : HandlerInput
deriving DecidableEq

/-- A state with a record of the runs of handlers on it, the latest last. -/
structure Recorded (σ : Type) where
  state : σ
  runs : List HandlerRun

namespace Recorded

def blank (state : σ) : Recorded σ := ⟨state, []⟩

/-- What a run has led to, with the run in the record. -/
def add (s : Recorded σ) (run : HandlerRun) (outcome : Outcome σ) : Outcome (Recorded σ) :=
  (⟨outcome.1, s.runs ++ [run]⟩, outcome.2)

/-- What something else has led to, with nothing new in the record. -/
def keep (s : Recorded σ) (outcome : Outcome σ) : Outcome (Recorded σ) :=
  (⟨outcome.1, s.runs⟩, outcome.2)

end Recorded

/-! ### Parts with a record -/

/-- The handler of an action, with its runs in the record. -/
def Handler.recorded (name : String) : Handler σ → Handler (Recorded σ)
  | .arguments defs run =>
    .arguments defs fun s values => s.add ⟨name, .arguments values⟩ (run s.state values)
  | .payload run => .payload fun s octets => s.add ⟨name, .payload octets⟩ (run s.state octets)

def Action.recorded (a : Action σ) : Action (Recorded σ) :=
  ⟨a.name, a.description, a.handler.recorded a.name⟩

def StatusComponent.recorded (c : StatusComponent σ) : StatusComponent (Recorded σ) :=
  ⟨c.name, c.kind, fun s => c.accessor s.state⟩

def Declarations.recorded (d : Declarations σ) : Declarations (Recorded σ) :=
  ⟨d.actions.map Action.recorded, d.events, d.status.map StatusComponent.recorded, d.info⟩

theorem Action.handler_recorded {a : Action σ} {defs : List ArgumentDef}
    {run : σ → List ArgumentValue → Outcome σ} (handler : a.handler = .arguments defs run) :
    a.recorded.handler = .arguments defs fun s values =>
      s.add ⟨a.name, .arguments values⟩ (run s.state values) := by
  rw [recorded, handler]
  rfl

theorem Action.arguments_recorded (a : Action σ) : a.recorded.arguments = a.arguments := by
  rw [arguments, arguments, recorded]
  cases a.handler <;> rfl

/-- A record makes no difference to names and numbers. -/
theorem Declarations.check_recorded (d : Declarations σ) : d.recorded.check = d.check := by
  have actions : ∀ seen, checkActions seen (d.actions.map Action.recorded)
      = checkActions seen d.actions := by
    induction d.actions with
    | nil => exact fun _ => rfl
    | cons a rest ih =>
      intro seen
      rw [List.map_cons, checkActions, checkActions, Action.arguments_recorded, ih]
      rfl
  have status : ∀ seen, checkStatus seen (d.status.map StatusComponent.recorded)
      = checkStatus seen d.status := by
    induction d.status with
    | nil => exact fun _ => rfl
    | cons c rest ih =>
      intro seen
      rw [List.map_cons, checkStatus, checkStatus, ih]
      rfl
  rw [check, check, recorded]
  dsimp only
  rw [actions, status, List.length_map]

def Registry.recorded (r : Registry σ) : Registry (Recorded σ) :=
  ⟨r.declared.recorded, r.declared.check_recorded.trans r.check_eq⟩

def Feature.recorded (f : Feature φ) : Feature (Recorded φ) where
  name := f.name
  declared := f.declared.recorded
  initial := .blank f.initial
  setup := fun s => s.keep (f.setup s.state)
  tick := fun s => (f.tick s.state).map s.keep
  tickEvery := f.tickEvery

def Installed.recorded (i : Installed φ) : Installed (Recorded φ) :=
  ⟨i.feature.recorded, i.registry.recorded, i.aliases, .blank i.state, i.iterations⟩

def Installed.cleared (i : Installed (Recorded φ)) : Installed (Recorded φ) :=
  { i with state := .blank i.state.state }

theorem Registry.action?_recorded (r : Registry σ) (name : String) :
    r.recorded.action? name = (r.action? name).map Action.recorded := by
  rw [Registry.action?_eq_find?, Registry.action?_eq_find?]
  exact List.find?_map

theorem Registry.descriptor_recorded (r : Registry σ) : r.recorded.descriptor = r.descriptor := by
  have entries : r.declared.recorded.actions.map Action.entry
      = r.declared.actions.map Action.entry := by
    rw [Declarations.recorded, List.map_map]
    refine List.map_congr_left fun a _ => ?_
    rw [Function.comp_apply, Action.entry, Action.arguments_recorded]
    rfl
  have status : r.recorded.statusDefs = r.statusDefs := by
    change (r.declared.status.map StatusComponent.recorded).map StatusComponent.toDef = r.statusDefs
    rw [List.map_map]
    rfl
  rw [descriptor, status, recorded, entries]
  rfl

theorem Installed.descriptor_recorded (i : Installed φ) : i.recorded.descriptor = i.descriptor := by
  rw [descriptor, recorded, Registry.descriptor_recorded]
  rfl

/-! ### One action -/

namespace Action

/-- The run that a message leads an action to, if any: with proper input there is one. -/
def run? (a : Action σ) (m : Message) : Option HandlerRun :=
  match a.handler with
  | .payload _ => (m.attribute? .payload).map fun octets => ⟨a.name, .payload octets⟩
  | .arguments defs _ =>
    match input a.name defs m with
    | .error _ => none
    | .ok values => some ⟨a.name, .arguments values⟩

theorem conclude_add (name : String) (s : Recorded σ) (run : HandlerRun) (outcome : Outcome σ) :
    conclude name (s.add run outcome)
      = ((conclude name outcome).1, ⟨(conclude name outcome).2, s.runs ++ [run]⟩) := by
  obtain ⟨state, _ | failure⟩ := outcome <;> rfl

/-- **One action with a record** does what it does without, and adds its run. -/
theorem invoke_recorded (a : Action σ) (m : Message) (s : Recorded σ) :
    a.recorded.invoke m s
      = ((a.invoke m s.state).1, ⟨(a.invoke m s.state).2, s.runs ++ (a.run? m).toList⟩) := by
  -- without proper input no handler is run, and the record stays as it is
  have idle : (⟨s.state, s.runs ++ []⟩ : Recorded σ) = s := by rw [List.append_nil]
  rw [invoke, invoke, run?, recorded]
  dsimp only
  cases a.handler with
  | payload run =>
    rw [Handler.recorded]
    dsimp only
    cases m.attribute? .payload with
    | none => exact congrArg _ idle.symm
    | some octets => exact conclude_add a.name s _ _
  | arguments defs run =>
    rw [Handler.recorded]
    dsimp only
    cases input a.name defs m with
    | error e => exact congrArg _ idle.symm
    | ok values => exact conclude_add a.name s _ _

end Action

/-! ### All parts -/

/-- A part of a device: the device by itself, or a feature by its place. -/
inductive DevicePart
  | device
  | feature (place : Nat)
deriving DecidableEq

namespace Dispatcher

/-- A device whose parts have empty records. -/
def recorded (d : Dispatcher σ φ) : Dispatcher (Recorded σ) (Recorded φ) :=
  ⟨.blank d.state, d.registry.recorded, d.features.map Installed.recorded, d.account⟩

/-- The device with empty records. -/
def cleared (d : Dispatcher (Recorded σ) (Recorded φ)) : Dispatcher (Recorded σ) (Recorded φ) :=
  { d with state := .blank d.state.state, features := d.features.map Installed.cleared }

/-- The records of features, from a place on. -/
def recordsFrom : Nat → List (Installed (Recorded φ)) → List (DevicePart × HandlerRun)
  | _, [] => []
  | place, f :: rest => f.state.runs.map (.feature place, ·) ++ recordsFrom (place + 1) rest

/-- The records of all parts. -/
def records (d : Dispatcher (Recorded σ) (Recorded φ)) : List (DevicePart × HandlerRun) :=
  d.state.runs.map (.device, ·) ++ recordsFrom 0 d.features

/-- **The runs of handlers that a message leads to**, with the parts whose handlers they are. -/
def runs (d : Dispatcher σ φ) (time : UInt32) (m : Message) : List (DevicePart × HandlerRun) :=
  (d.recorded.dispatch time m).dispatcher.records

theorem features_recorded {d : Dispatcher σ φ} {before after : List (Installed φ)}
    {f : Installed φ} (split : d.features = before ++ f :: after) :
    d.recorded.features
      = before.map Installed.recorded ++ f.recorded :: after.map Installed.recorded := by
  rw [recorded, split, List.map_append, List.map_cons]

theorem descriptor_recorded (d : Dispatcher σ φ) : d.recorded.descriptor = d.descriptor := by
  have features : d.recorded.features.map (·.descriptor) = d.features.map (·.descriptor) := by
    rw [recorded, List.map_map]
    exact List.map_congr_left fun f _ => f.descriptor_recorded
  rw [descriptor_eq_foldl, descriptor_eq_foldl, features, ← d.registry.descriptor_recorded]
  rfl

theorem recordsFrom_append (place : Nat) (before after : List (Installed (Recorded φ))) :
    recordsFrom place (before ++ after)
      = recordsFrom place before ++ recordsFrom (place + before.length) after := by
  induction before generalizing place with
  | nil => rfl
  | cons f before ih =>
    have next : place + (f :: before).length = place + 1 + before.length := by
      rw [List.length_cons]
      omega
    rw [List.cons_append, recordsFrom, recordsFrom, ih, List.append_assoc, next]

theorem recordsFrom_recorded (place : Nat) (features : List (Installed φ)) :
    recordsFrom place (features.map Installed.recorded) = [] := by
  induction features generalizing place with
  | nil => rfl
  | cons f features ih => exact ih (place + 1)

/-! ### Messages -/

theorem map_cleared_recorded (features : List (Installed φ)) :
    (features.map Installed.recorded).map Installed.cleared = features.map Installed.recorded := by
  rw [List.map_map]
  rfl

theorem cleared_recorded (d : Dispatcher σ φ) : d.recorded.cleared = d.recorded := by
  rw [cleared]
  dsimp only [recorded]
  rw [map_cleared_recorded]
  rfl

/-- With records the same names are declared. -/
theorem absent_recorded {name : String} {features : List (Installed φ)}
    (absent : ∀ g ∈ features, g.registry.action? name = none) :
    ∀ g ∈ features.map Installed.recorded, g.registry.action? name = none := by
  intro _ h
  obtain ⟨g, member, rfl⟩ := List.mem_map.1 h
  exact (g.registry.action?_recorded name).trans (congrArg _ (absent g member))

/-- **A performed action with a record** leaves all parts as it does without. -/
theorem perform_recorded (d : Dispatcher σ φ) (name : String) (m : Message) :
    (d.recorded.perform name m).1 = (d.perform name m).1 ∧
      (d.recorded.perform name m).2.cleared = (d.perform name m).2.recorded := by
  have own_recorded := d.registry.action?_recorded name
  -- the look-up finds the same part with and without records
  rcases d.part_cases name with
    ⟨a, found⟩ | ⟨own, before, f, after, a, split, absent, found⟩ | ⟨own, absent⟩
  · rw [found] at own_recorded
    rw [perform_of_device found, perform_of_device own_recorded, Action.invoke_recorded]
    refine ⟨rfl, ?_⟩
    rw [cleared]
    dsimp only [recorded]
    rw [map_cleared_recorded]
    rfl
  · have found' : f.recorded.registry.action? name = some a.recorded :=
      (f.registry.action?_recorded name).trans (congrArg _ found)
    rw [own] at own_recorded
    rw [perform_of_feature own split absent found,
      perform_of_feature own_recorded (features_recorded split) (absent_recorded absent) found',
      Action.invoke_recorded]
    refine ⟨rfl, ?_⟩
    -- only the record of the one feature has to be cleared
    rw [cleared]
    dsimp only [recorded]
    rw [List.map_append, List.map_cons, map_cleared_recorded, map_cleared_recorded,
      List.map_append, List.map_cons]
    rfl
  · rw [own] at own_recorded
    rw [perform_of_absent own absent,
      perform_of_absent own_recorded (absent_recorded absent), cleared_recorded]
    exact ⟨rfl, rfl⟩

theorem readAll_recorded (s : Recorded σ) (status : List (StatusComponent σ)) :
    Registry.readAll s (status.map StatusComponent.recorded) = Registry.readAll s.state status := by
  induction status with
  | nil => rfl
  | cons c rest ih =>
    rw [List.map_cons, Registry.readAll, Registry.readAll, ih]
    rfl

theorem snapshot_recorded (d : Dispatcher σ φ) : d.recorded.snapshot = d.snapshot := by
  have features : snapshotAll (d.features.map Installed.recorded) = snapshotAll d.features := by
    induction d.features with
    | nil => rfl
    | cons f rest ih =>
      rw [List.map_cons, snapshotAll, snapshotAll, ih]
      exact congrArg (· >>= _) (readAll_recorded (.blank f.state) f.registry.declared.status)
  rw [snapshot, snapshot, recorded, features]
  exact congrArg (· >>= _) (readAll_recorded (.blank d.state) d.registry.declared.status)

theorem statusDefs_recorded (d : Dispatcher σ φ) : d.recorded.statusDefs = d.statusDefs := by
  rw [statusDefs_eq, descriptor_recorded, ← statusDefs_eq]

/-- **A device with records behaves as it does without**, and its parts end up in the same states. -/
theorem dispatch_recorded (d : Dispatcher σ φ) (time : UInt32) (m : Message) :
    (d.recorded.dispatch time m).reply = (d.dispatch time m).reply ∧
      (d.recorded.dispatch time m).log = (d.dispatch time m).log ∧
      (d.recorded.dispatch time m).dispatcher.cleared = (d.dispatch time m).dispatcher.recorded := by
  -- where no action is performed, the parts are returned as they were given
  have untouched := d.cleared_recorded
  rw [dispatch, dispatch]
  split
  · exact ⟨rfl, rfl, untouched⟩
  split
  · rw [performAction, performAction]
    cases m.text? .name with
    | none => exact ⟨rfl, rfl, untouched⟩
    | some name =>
      have same := d.perform_recorded name m
      dsimp only
      generalize d.recorded.perform name m = ran at same
      generalize d.perform name m = plain at same
      obtain ⟨result, recorded⟩ := ran
      obtain ⟨_, after⟩ := plain
      obtain ⟨rfl, rest⟩ := same
      -- the answer depends on nothing but the account
      have account : recorded.account = after.account := congrArg Dispatcher.account rest
      cases result with
      | error e => exact ⟨rfl, rfl, rest⟩
      | ok _ =>
        dsimp only
        rw [succeed, succeed, account]
        exact ⟨rfl, rfl, rest⟩
  split
  · rw [answerStatus, answerStatus, snapshot_recorded, statusDefs_recorded]
    cases d.snapshot with
    | error failure => exact ⟨rfl, rfl, untouched⟩
    | ok values =>
      dsimp only
      cases ArgumentList.encode d.statusDefs values with
      | error e => exact ⟨rfl, rfl, untouched⟩
      | ok payload => exact ⟨rfl, rfl, untouched⟩
  · exact ⟨rfl, rfl, untouched⟩

end Dispatcher

end RelayDevice
