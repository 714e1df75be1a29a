import Mathlib.Data.List.Duplicate
import RelayDevice.Demo.Oven
import RelayDevice.Proofs.Capability.Checked

/-!
# Building a registry

A registry is built from what is declared step by step. Whether this works is a matter of the steps
alone, and so is what comes of it: `Declarations.build_ofSequence` says both of any sequence of steps.

* `Declaration.AreProper` — the conditions on the steps. The names of each kind are read off the steps
  (`Declaration.names`), and their form is spelled out character by character (`IsName`);
* `Declaration.IsFault` — what an error asserts of the steps. Every error that is raised is true
  (`Declarations.isFault_of_check`);
* a registry finds every declared action under its name and nothing else, and its descriptor lists
  what was declared in the order of the steps.

`checkActions`, `checkEvents`, `checkStatus` and `checkArguments` are walks along a list that remember
the names they came past. What is to be known of their errors is shown once, of such walks in general
(`exists_of_checkEach_eq_error`): an error is raised at one item, and the names that are remembered
there are those in front of it. So a name that is called a duplicate does come twice
(`Declarations.duplicate_of_seen`).
-/

namespace RelayDevice

/-! ### The form of names -/

/-- **A name**: letters, digits and underscores, and at least one of these. -/
def IsName (name : String) : Prop :=
  name ≠ "" ∧ ∀ c ∈ name.toList,
    ('a' ≤ c ∧ c ≤ 'z') ∨ ('A' ≤ c ∧ c ≤ 'Z') ∨ ('0' ≤ c ∧ c ≤ '9') ∨ c = '_'

theorem isValidName_iff {name : String} : isValidName name ↔ IsName name := by
  have character (c : Char) : (c.isAlphanum || c == '_') ↔
      ('a' ≤ c ∧ c ≤ 'z') ∨ ('A' ≤ c ∧ c ≤ 'Z') ∨ ('0' ≤ c ∧ c ≤ '9') ∨ c = '_' := by
    -- the tests are those of capitals, small letters, digits and the underscore, in this order
    change (((decide ('A' ≤ c ∧ c ≤ 'Z') || decide ('a' ≤ c) && decide (c ≤ 'z'))
      || decide ('0' ≤ c) && decide (c ≤ '9')) || c == '_') ↔ _
    simp only [Bool.or_eq_true, Bool.and_eq_true, decide_eq_true_eq, beq_iff_eq]
    tauto
  rw [isValidName, Bool.and_eq_true, List.all_eq_true]
  simp only [character, IsName, Bool.not_eq_true', String.isEmpty_eq_false_iff]

/-! ### Walks that remember names -/

section Walk

variable {α : Type} {name : α → String} {one : List String → α → Except RegistryError Unit}
  {seen : List String} {items : List α}

/-- Checks items one after the other, each with the names of those before it at hand. -/
def checkEach (name : α → String) (one : List String → α → Except RegistryError Unit)
    (seen : List String) : List α → Except RegistryError Unit
  | [] => .ok ()
  | a :: rest => do
    one seen a
    checkEach name one (name a :: seen) rest

/-- **An error of a walk** is raised at an item, where the names of the items in front of it have
been seen. -/
theorem exists_of_checkEach_eq_error {e : RegistryError}
    (failed : checkEach name one seen items = .error e) :
    ∃ before a after, items = before ++ a :: after ∧
      one ((before.map name).reverse ++ seen) a = .error e := by
  induction items generalizing seen with
  | nil => cases failed
  | cons a rest ih =>
    rw [checkEach, Outcome.bind_eq_error_iff] at failed
    rcases failed with here | ⟨_, -, later⟩
    · exact ⟨[], a, rest, rfl, here⟩
    · obtain ⟨before, b, after, rfl, there⟩ := ih later
      refine ⟨a :: before, b, after, rfl, ?_⟩
      rwa [List.map_cons, List.reverse_cons, List.append_assoc, List.singleton_append]

end Walk

/-! ### What the steps declare -/

namespace Declaration

variable {σ : Type} {sequence : List (Declaration σ)}

/-- The name that a step gives to something of a kind. -/
def name? : CapabilityKind → Declaration σ → Option String
  | .action, .action name _ _ _ => some name
  | .action, .payloadAction name _ _ => some name
  | .event, .event name _ => some name
  | .status, .status name _ _ => some name
  | _, _ => none

/-- The arguments of an action, or what an event carries. -/
def arguments : Declaration σ → List ArgumentDef
  | .action _ _ arguments _ => arguments
  | .event _ components => components
  | _ => []

def action? : Declaration σ → Option (Action σ)
  | .action name description arguments run => some ⟨name, description, .arguments arguments run⟩
  | .payloadAction name description run => some ⟨name, description, .payload run⟩
  | _ => none

def event? : Declaration σ → Option Event
  | .event name components => some ⟨name, components⟩
  | _ => none

def status? : Declaration σ → Option (StatusComponent σ)
  | .status name kind accessor => some ⟨name, kind, accessor⟩
  | _ => none

def make? : Declaration σ → Option DeviceInfo
  | .make info => some info
  | _ => none

/-- All names of a kind, in order. -/
def names (kind : CapabilityKind) (sequence : List (Declaration σ)) : List String :=
  sequence.filterMap (name? kind)

/-- **Steps as they must be.** -/
structure AreProper (sequence : List (Declaration σ)) : Prop where
  /-- Every name has the form of one. -/
  form : ∀ kind, ∀ name ∈ names kind sequence, IsName name
  /-- No two of a kind have the same name. -/
  unique : ∀ kind, (names kind sequence).Nodup
  /-- An action has at most eight arguments. -/
  fewArguments : ∀ name description arguments run,
    .action name description arguments run ∈ sequence → arguments.length ≤ 8
  /-- The arguments of an action, or of an event, have different names of a proper size. -/
  arguments : ∀ s ∈ sequence, AreArguments s.arguments
  /-- There are at most eight status components. -/
  fewStatus : (names .status sequence).length ≤ 8

/-- **What an error asserts** of the steps. -/
def IsFault (sequence : List (Declaration σ)) : RegistryError → Prop
  | .invalidName kind name => name ∈ names kind sequence ∧ ¬ IsName name
  | .duplicate kind name => List.Duplicate name (names kind sequence)
  | .tooManyArguments name count => ∃ description arguments run,
      .action name description arguments run ∈ sequence ∧ arguments.length = count ∧ 8 < count
  | .tooManyStatus count => (names .status sequence).length = count ∧ 8 < count
  | .argumentNameSize argument owner => ∃ s ∈ sequence, (∃ kind, s.name? kind = some owner) ∧
      argument ∈ s.arguments.map (·.name) ∧ (argument.utf8ByteSize = 0 ∨ 255 < argument.utf8ByteSize)
  | .duplicateArgument argument owner => ∃ s ∈ sequence, (∃ kind, s.name? kind = some owner) ∧
      List.Duplicate argument (s.arguments.map (·.name))
  -- these come from putting features together
  | .aliasWithoutEvent .. | .clash .. | .statusOverflow .. | .stated .. => False

theorem name?_of_action? {s : Declaration σ} {a : Action σ} (h : s.action? = some a) :
    s.name? .action = some a.name ∧ s.arguments = a.arguments := by
  cases s with
  | action | payloadAction =>
    cases h
    exact ⟨rfl, rfl⟩
  | event | status | make => cases h

theorem name?_of_event? {s : Declaration σ} {e : Event} (h : s.event? = some e) :
    s.name? .event = some e.name ∧ s.arguments = e.components := by
  cases s with
  | event =>
    cases h
    exact ⟨rfl, rfl⟩
  | action | payloadAction | status | make => cases h

theorem map_name_actions :
    (sequence.filterMap action?).map (·.name) = names .action sequence := by
  rw [List.map_filterMap]
  exact List.filterMap_congr fun s _ => by cases s <;> rfl

theorem map_name_events :
    (sequence.filterMap event?).map (·.name) = names .event sequence := by
  rw [List.map_filterMap]
  exact List.filterMap_congr fun s _ => by cases s <;> rfl

theorem map_name_status :
    (sequence.filterMap status?).map (·.name) = names .status sequence := by
  rw [List.map_filterMap]
  exact List.filterMap_congr fun s _ => by cases s <;> rfl

end Declaration

namespace Declarations

open Declaration (action? event? status? make? names AreProper IsFault)

variable {σ : Type} {sequence : List (Declaration σ)}

theorem foldl_declare (d : Declarations σ) :
    sequence.foldl declare d =
      ⟨d.actions ++ sequence.filterMap action?, d.events ++ sequence.filterMap event?,
        d.status ++ sequence.filterMap status?, (sequence.filterMap make?).getLastD d.info⟩ := by
  induction sequence generalizing d with
  | nil => simp
  | cons s rest ih =>
    rw [List.foldl_cons, ih]
    -- every step adds to the end of one list, or changes the make
    cases s <;>
      simp [declare, List.filterMap_cons, action?, event?, status?, make?, List.getLastD_cons,
        -List.getLastD_eq_getLast?]

/-- **What a sequence of steps declares**: each list has the order of the steps, and the last make
that was declared is the one that counts. -/
theorem ofSequence_eq :
    ofSequence sequence =
      ⟨sequence.filterMap action?, sequence.filterMap event?, sequence.filterMap status?,
        (sequence.filterMap make?).getLastD .unknown⟩ :=
  foldl_declare nothing

/-! ### Success -/

theorem areArguments_nil : AreArguments [] := ⟨List.nodup_nil, nofun⟩

theorem areNames_iff {names : List String} :
    AreNames [] names ↔ names.Nodup ∧ ∀ name ∈ names, IsName name := by
  simp only [AreNames, isValidName_iff, List.not_mem_nil, not_false_eq_true, and_true]

theorem forall_arguments_iff :
    (∀ s ∈ sequence, AreArguments s.arguments) ↔
      (∀ a ∈ sequence.filterMap action?, AreArguments a.arguments) ∧
        ∀ e ∈ sequence.filterMap event?, AreArguments e.components := by
  constructor
  · intro proper
    constructor
    · intro a member
      obtain ⟨s, among, declares⟩ := List.mem_filterMap.1 member
      rw [← (Declaration.name?_of_action? declares).2]
      exact proper s among
    · intro e member
      obtain ⟨s, among, declares⟩ := List.mem_filterMap.1 member
      rw [← (Declaration.name?_of_event? declares).2]
      exact proper s among
  · rintro ⟨inputs, components⟩ s among
    cases s with
    | action name description arguments run =>
      exact inputs _ (List.mem_filterMap.2 ⟨_, among, rfl⟩)
    | event name carried => exact components _ (List.mem_filterMap.2 ⟨_, among, rfl⟩)
    | payloadAction | status | make => exact areArguments_nil

/-- Actions that take octets have no arguments to be counted. -/
theorem forall_length_arguments_iff :
    (∀ name description arguments run,
        .action name description arguments run ∈ sequence → arguments.length ≤ 8) ↔
      ∀ a ∈ sequence.filterMap action?, a.arguments.length ≤ entryLimit := by
  constructor
  · intro few a member
    obtain ⟨s, among, declares⟩ := List.mem_filterMap.1 member
    cases s with
    | action name description arguments run =>
      cases declares
      exact few _ _ _ _ among
    | payloadAction name description run =>
      cases declares
      exact Nat.zero_le _
    | event | status | make => cases declares
  · intro few name description arguments run among
    exact few _ (List.mem_filterMap.2 ⟨_, among, rfl⟩)

/-- **The declarations are well-formed where the steps are proper.** -/
theorem wellFormed_ofSequence_iff : (ofSequence sequence).WellFormed ↔ AreProper sequence := by
  have fewStatus : (sequence.filterMap status?).length = (names .status sequence).length := by
    rw [← Declaration.map_name_status, List.length_map]
  rw [ofSequence_eq]
  constructor
  · rintro ⟨actions, inputs, events, components, few, status⟩
    rw [Declaration.map_name_actions, areNames_iff] at actions
    rw [Declaration.map_name_events, areNames_iff] at events
    rw [Declaration.map_name_status, areNames_iff] at status
    -- the conditions on names are the same for each kind
    have named (kind : CapabilityKind) :
        (names kind sequence).Nodup ∧ ∀ name ∈ names kind sequence, IsName name := by
      cases kind with
      | action => exact actions
      | event => exact events
      | status => exact status
    have fewArguments := forall_length_arguments_iff.2 fun a member => (inputs a member).1
    have arguments := forall_arguments_iff.2 ⟨fun a member => (inputs a member).2, components⟩
    exact ⟨fun kind => (named kind).2, fun kind => (named kind).1, fewArguments, arguments,
      fewStatus ▸ few⟩
  · intro proper
    have named (kind : CapabilityKind) : AreNames [] (names kind sequence) :=
      areNames_iff.2 ⟨proper.unique kind, proper.form kind⟩
    have few := forall_length_arguments_iff.1 proper.fewArguments
    obtain ⟨inputs, components⟩ := forall_arguments_iff.1 proper.arguments
    exact {
      actions := Declaration.map_name_actions ▸ named .action
      inputs := fun a member => ⟨few a member, inputs a member⟩
      events := Declaration.map_name_events ▸ named .event
      components := components
      few := fewStatus ▸ proper.fewStatus
      status := Declaration.map_name_status ▸ named .status }

/-! ### Errors -/

theorem checkName_error {kind : CapabilityKind} {seen : List String} {name : String}
    {e : RegistryError} (failed : checkName kind seen name = .error e) :
    (e = .invalidName kind name ∧ ¬ IsName name) ∨ (e = .duplicate kind name ∧ name ∈ seen) := by
  rw [checkName] at failed
  split at failed
  · next invalid =>
    rw [Bool.not_eq_true', ← Bool.not_eq_true, isValidName_iff] at invalid
    exact .inl ⟨(Except.error.inj failed).symm, invalid⟩
  · split at failed
    · next again => exact .inr ⟨(Except.error.inj failed).symm, again⟩
    · cases failed

/-- The check of one argument. -/
def checkArgument (owner : String) (seen : List String) (d : ArgumentDef) :
    Except RegistryError Unit :=
  if d.name.utf8ByteSize = 0 ∨ 255 < d.name.utf8ByteSize then .error (.argumentNameSize d.name owner)
  else if d.name ∈ seen then .error (.duplicateArgument d.name owner)
  else .ok ()

/-- The check of one action. -/
def checkAction (seen : List String) (a : Action σ) : Except RegistryError Unit := do
  checkName .action seen a.name
  if entryLimit < a.arguments.length then throw (.tooManyArguments a.name a.arguments.length)
  checkArguments a.name [] a.arguments

/-- The check of one event. -/
def checkEvent (seen : List String) (e : Event) : Except RegistryError Unit := do
  checkName .event seen e.name
  checkArguments e.name [] e.components

theorem checkArguments_eq_checkEach {owner : String} {seen : List String}
    {defs : List ArgumentDef} :
    checkArguments owner seen defs = checkEach (·.name) (checkArgument owner) seen defs := by
  induction defs generalizing seen with
  | nil => rfl
  | cons d defs ih =>
    rw [checkArguments, checkEach, checkArgument, ih]
    split
    · rfl
    · split <;> rfl

theorem checkActions_eq_checkEach {seen : List String} {actions : List (Action σ)} :
    checkActions seen actions = checkEach (·.name) checkAction seen actions := by
  induction actions generalizing seen with
  | nil => rfl
  | cons a rest ih =>
    rw [checkActions, checkEach, checkAction, ih]
    cases checkName .action seen a.name with
    | error e => rfl
    | ok =>
      by_cases many : entryLimit < a.arguments.length
      · simp only [if_pos many]
        rfl
      · simp only [if_neg many]
        rfl

theorem checkEvents_eq_checkEach {seen : List String} {events : List Event} :
    checkEvents seen events = checkEach (·.name) checkEvent seen events := by
  induction events generalizing seen with
  | nil => rfl
  | cons e rest ih =>
    rw [checkEvents, checkEach, checkEvent, ih, bind_assoc]

theorem checkStatus_eq_checkEach {seen : List String} {status : List (StatusComponent σ)} :
    checkStatus seen status
      = checkEach (·.name) (fun seen c => checkName .status seen c.name) seen status := by
  induction status generalizing seen with
  | nil => rfl
  | cons c rest ih => rw [checkStatus, checkEach, ih]

/-- A name that was seen in front of an item comes again with the item. -/
theorem duplicate_of_seen {α : Type} {name : α → String} {before after : List α} {a : α}
    (seen : name a ∈ (before.map name).reverse ++ []) :
    List.Duplicate (name a) ((before ++ a :: after).map name) := by
  rw [List.append_nil, List.mem_reverse] at seen
  rw [List.duplicate_iff_sublist, List.map_append, List.map_cons]
  have first : [name a].Sublist (before.map name) := List.singleton_sublist.2 seen
  have again : [name a].Sublist (name a :: after.map name) :=
    List.singleton_sublist.2 List.mem_cons_self
  exact first.append again

variable {e : RegistryError}

/-- An error in the name of one of several items is a fault of the steps that name them. -/
theorem isFault_of_name {α : Type} {name : α → String} {kind : CapabilityKind}
    {before after : List α} {a : α} (named : (before ++ a :: after).map name = names kind sequence)
    (failed : checkName kind ((before.map name).reverse ++ []) (name a) = .error e) :
    IsFault sequence e := by
  rcases checkName_error failed with ⟨rfl, invalid⟩ | ⟨rfl, seen⟩
  · have among : name a ∈ (before ++ a :: after).map name :=
      List.mem_map_of_mem (List.mem_append_right before List.mem_cons_self)
    rw [named] at among
    exact ⟨among, invalid⟩
  · have twice : List.Duplicate (name a) ((before ++ a :: after).map name) :=
      duplicate_of_seen seen
    rw [named] at twice
    exact twice

/-- An error in the arguments of a step is a fault of the step. -/
theorem isFault_of_arguments {s : Declaration σ} (among : s ∈ sequence) {kind : CapabilityKind}
    {owner : String} (named : s.name? kind = some owner)
    (failed : checkArguments owner [] s.arguments = .error e) : IsFault sequence e := by
  rw [checkArguments_eq_checkEach] at failed
  obtain ⟨before, d, after, split, there⟩ := exists_of_checkEach_eq_error failed
  rw [checkArgument] at there
  split at there
  · next size =>
    cases there
    have member : d ∈ s.arguments := by
      rw [split]
      exact List.mem_append_right before List.mem_cons_self
    exact ⟨s, among, ⟨kind, named⟩, List.mem_map_of_mem member, size⟩
  · split at there
    · next seen =>
      cases there
      refine ⟨s, among, ⟨kind, named⟩, ?_⟩
      rw [split]
      exact duplicate_of_seen seen
    · cases there

/-- What is found among the things that the steps declare comes from one of the steps. -/
theorem exists_step_of_split {α : Type} {pick : Declaration σ → Option α} {before after : List α}
    {a : α} (split : sequence.filterMap pick = before ++ a :: after) :
    ∃ s ∈ sequence, pick s = some a := by
  have member : a ∈ sequence.filterMap pick := by
    rw [split]
    exact List.mem_append_right before List.mem_cons_self
  exact List.mem_filterMap.1 member

theorem isFault_of_checkActions
    (failed : checkActions [] (sequence.filterMap action?) = .error e) : IsFault sequence e := by
  rw [checkActions_eq_checkEach] at failed
  obtain ⟨before, a, after, split, there⟩ := exists_of_checkEach_eq_error failed
  obtain ⟨s, among, declares⟩ := exists_step_of_split split
  obtain ⟨named, same⟩ := Declaration.name?_of_action? declares
  rw [checkAction, Outcome.bind_eq_error_iff] at there
  rcases there with inName | ⟨_, -, there⟩
  · exact isFault_of_name (split ▸ Declaration.map_name_actions) inName
  · by_cases many : entryLimit < a.arguments.length
    · rw [if_pos many] at there
      cases there
      cases s with
      | action name description arguments run =>
        cases declares
        exact ⟨description, arguments, run, among, rfl, many⟩
      | payloadAction name description run =>
        cases declares
        cases many
      | event | status | make => cases declares
    · rw [if_neg many] at there
      rw [← same] at there
      exact isFault_of_arguments among named there

theorem isFault_of_checkEvents
    (failed : checkEvents [] (sequence.filterMap event?) = .error e) : IsFault sequence e := by
  rw [checkEvents_eq_checkEach] at failed
  obtain ⟨before, event, after, split, there⟩ := exists_of_checkEach_eq_error failed
  obtain ⟨s, among, declares⟩ := exists_step_of_split split
  obtain ⟨named, same⟩ := Declaration.name?_of_event? declares
  rw [checkEvent, Outcome.bind_eq_error_iff] at there
  rcases there with inName | ⟨_, -, inArguments⟩
  · exact isFault_of_name (split ▸ Declaration.map_name_events) inName
  · rw [← same] at inArguments
    exact isFault_of_arguments among named inArguments

theorem isFault_of_checkStatus
    (failed : checkStatus [] (sequence.filterMap status?) = .error e) : IsFault sequence e := by
  rw [checkStatus_eq_checkEach] at failed
  obtain ⟨before, c, after, split, inName⟩ := exists_of_checkEach_eq_error failed
  exact isFault_of_name (split ▸ Declaration.map_name_status) inName

/-- **Every error is true**: what it asserts of the steps holds of them. -/
theorem isFault_of_check (failed : (ofSequence sequence).check = .error e) :
    IsFault sequence e := by
  rw [ofSequence_eq, check, Outcome.bind_eq_error_iff] at failed
  rcases failed with inActions | ⟨_, -, failed⟩
  · exact isFault_of_checkActions inActions
  rw [Outcome.bind_eq_error_iff] at failed
  rcases failed with inEvents | ⟨_, -, failed⟩
  · exact isFault_of_checkEvents inEvents
  by_cases many : entryLimit < (sequence.filterMap status?).length
  · rw [if_pos many] at failed
    cases failed
    refine ⟨?_, many⟩
    rw [← Declaration.map_name_status, List.length_map]
  · rw [if_neg many] at failed
    exact isFault_of_checkStatus failed

/-! ### Registries -/

theorem declared_of_build {d : Declarations σ} {r : Registry σ} (built : d.build = .ok r) :
    r.declared = d := by
  rw [build] at built
  split at built
  · exact (congrArg Registry.declared (Except.ok.inj built)).symm
  · cases built

theorem check_of_build_error {d : Declarations σ} (failed : d.build = .error e) :
    d.check = .error e := by
  rw [build] at failed
  split at failed
  · cases failed
  · next refused => exact refused.trans (congrArg Except.error (Except.error.inj failed))

/-- **A registry is built exactly from proper steps.** Where the steps are not proper, the error
asserts what is wrong with them. Where they are, every name leads to the one action that was declared
under it, names of no action lead nowhere, and the descriptor lists everything in the order of
the steps. -/
theorem build_ofSequence (sequence : List (Declaration σ)) :
    ((∃ r, (ofSequence sequence).build = .ok r) ↔ AreProper sequence) ∧
      (∀ e, (ofSequence sequence).build = .error e → IsFault sequence e) ∧
      ∀ r, (ofSequence sequence).build = .ok r →
        (∀ name a, r.action? name = some a ↔ a ∈ sequence.filterMap action? ∧ a.name = name) ∧
        (∀ name, r.action? name = none ↔ name ∉ names .action sequence) ∧
        r.descriptor =
          { actions := (sequence.filterMap action?).map Action.entry
            status := (sequence.filterMap status?).map StatusComponent.toDef
            events := sequence.filterMap event?
            info := (sequence.filterMap make?).getLastD .unknown } := by
  refine ⟨?success, fun e failed => isFault_of_check (check_of_build_error failed), ?content⟩
  case success =>
    rw [← wellFormed_ofSequence_iff]
    constructor
    · rintro ⟨r, built⟩
      exact declared_of_build built ▸ r.wellFormed
    · intro proper
      exact ⟨_, build_eq_ok (check_eq_ok_iff.2 proper)⟩
  case content =>
    intro r built
    have declared := declared_of_build built
    rw [ofSequence_eq] at declared
    have actions : r.declared.actions = sequence.filterMap action? := congrArg actions declared
    refine ⟨fun name a => ?_, fun name => ?_, ?_⟩
    · rw [← actions]
      constructor
      · intro found
        exact ⟨Registry.mem_of_action? found, Registry.name_of_action? found⟩
      · rintro ⟨member, rfl⟩
        exact Registry.action?_of_mem member
    · rw [← Declaration.map_name_actions, ← actions]
      constructor
      · intro missing among
        obtain ⟨a, member, rfl⟩ := List.mem_map.1 among
        rw [Registry.action?_of_mem member] at missing
        cases missing
      · exact Registry.action?_eq_none
    · rw [Registry.descriptor, Registry.statusDefs, declared]

-- the steps that make an oven
example : Oven.declarations = ofSequence [
    .make { DeviceInfo.unknown with
      modelName := "demo-oven", manufacturer := "LyncNat", serialNumber := "0001" },
    .action "bake" "Bake food" Oven.bakeArguments Oven.bake,
    .action "stop" "Turn the oven off" [] fun o _ => o.off,
    .event Oven.finishedEvent [],
    .status "temperature" .integer fun o => .ok (.integer o.temperature),
    .status "baking" .boolean fun o => .ok (.boolean (0 < o.minutesLeft))] := rfl

end Declarations

end RelayDevice
