import RelayDevice.Proofs.Session.EventNames
import RelayDevice.Proofs.Session.Parts

/-!
# The order of features

Features are installed one after the other. Each is checked beside the parts that are there already,
and not beside those that are still to come, and the first part that declares an action is the one
to perform it. So the order of features seems to matter twice, and does in neither case.

For the installation the crux is `Descriptor.fitTogether_cons_cons`: checking a feature beside all
others at once, which is what the installation does, amounts to checking it beside each of them.
Whether all features can be installed is then a matter of `Descriptor.FitTogether`, which knows of
no order (`Dispatcher.installAll_eq_ok_iff`).

For the actions it is that no two parts of an installed device share one, so that the first part to
declare a name is also the only one. Two devices with the same features in any two orders
(`Dispatcher.Reordered`) act alike on a message (`Dispatcher.Reordered.actsAlike`), and they are
still of this kind afterwards (`Dispatcher.Reordered.dispatch`).
`Dispatcher.feature_order_irrelevant` puts this together for any past.
-/

namespace RelayDevice

variable {σ φ : Type}

/-! ### Parts that fit together -/

namespace Descriptor

/-- **Descriptors apart** have no name of one kind in common. -/
structure Apart (a b : Descriptor) : Prop where
  actions : List.Disjoint (a.actions.map (·.name)) (b.actions.map (·.name))
  events : List.Disjoint (a.events.map (·.name)) (b.events.map (·.name))
  status : List.Disjoint (a.status.map (·.name)) (b.status.map (·.name))

theorem Apart.symm {a b : Descriptor} (apart : a.Apart b) : b.Apart a :=
  ⟨fun _ h h' => apart.actions h' h, fun _ h h' => apart.events h' h,
    fun _ h h' => apart.status h' h⟩

/-- **Parts that fit together.** Any two of them are apart, and all of them together have at most
eight status components. -/
structure FitTogether (parts : List Descriptor) : Prop where
  apart : parts.Pairwise Apart
  few : (parts.map (·.status.length)).sum ≤ 8

/-- It is of no account in which order the parts are listed. -/
theorem FitTogether.perm {parts parts' : List Descriptor} (same : parts.Perm parts')
    (fit : FitTogether parts) : FitTogether parts' := by
  have total : (parts.map (·.status.length)).sum = (parts'.map (·.status.length)).sum :=
    (same.map _).sum_nat
  -- of two parts either may come first
  exact ⟨(same.pairwise_iff Apart.symm).1 fit.apart, total ▸ fit.few⟩

/-- A part that is added is compared with those that are there, but both ways come to the same. -/
theorem fits_iff {current added : Descriptor} :
    current.Fits added ↔
      current.Apart added ∧ current.status.length + added.status.length ≤ 8 := by
  constructor
  · intro fits
    have apart : added.Apart current := ⟨fits.actions, fits.events, fits.status⟩
    exact ⟨apart.symm, fits.few⟩
  · rintro ⟨apart, few⟩
    exact ⟨apart.symm.actions, apart.symm.events, apart.symm.status, few⟩

theorem apart_append {a b c : Descriptor} : (a.append b).Apart c ↔ a.Apart c ∧ b.Apart c := by
  constructor
  · intro ⟨actions, events, status⟩
    rw [append, List.map_append, List.disjoint_append_left] at actions events status
    exact ⟨⟨actions.1, events.1, status.1⟩, ⟨actions.2, events.2, status.2⟩⟩
  · rintro ⟨first, second⟩
    refine ⟨?_, ?_, ?_⟩ <;> rw [append, List.map_append, List.disjoint_append_left]
    · exact ⟨first.actions, second.actions⟩
    · exact ⟨first.events, second.events⟩
    · exact ⟨first.status, second.status⟩

/-- **One part after the other.** Some parts fit together exactly if the second fits the first, and
the others fit together with these two as one. -/
theorem fitTogether_cons_cons {a b : Descriptor} {rest : List Descriptor} :
    FitTogether (a :: b :: rest) ↔ a.Fits b ∧ FitTogether (a.append b :: rest) := by
  have count : (a.append b).status.length = a.status.length + b.status.length :=
    List.length_append
  rw [fits_iff]
  constructor
  · intro fit
    obtain ⟨first, later⟩ := List.pairwise_cons.1 fit.apart
    obtain ⟨second, others⟩ := List.pairwise_cons.1 later
    have few := fit.few
    rw [List.map_cons, List.map_cons, List.sum_cons, List.sum_cons] at few
    have joined : ∀ c ∈ rest, (a.append b).Apart c := by
      intro c hc
      exact apart_append.2 ⟨first c (List.mem_cons_of_mem b hc), second c hc⟩
    refine ⟨⟨first b List.mem_cons_self, by omega⟩, List.pairwise_cons.2 ⟨joined, others⟩, ?_⟩
    rw [List.map_cons, List.sum_cons, count]
    omega
  · rintro ⟨⟨beside, -⟩, fit⟩
    obtain ⟨joined, others⟩ := List.pairwise_cons.1 fit.apart
    have few := fit.few
    rw [List.map_cons, List.sum_cons, count] at few
    -- what is apart from the two as one is apart from each of them
    have first : ∀ c ∈ rest, a.Apart c := fun c hc => (apart_append.1 (joined c hc)).1
    have second : ∀ c ∈ rest, b.Apart c := fun c hc => (apart_append.1 (joined c hc)).2
    refine ⟨List.pairwise_cons.2 ⟨List.forall_mem_cons.2 ⟨beside, first⟩,
      List.pairwise_cons.2 ⟨second, others⟩⟩, ?_⟩
    rw [List.map_cons, List.map_cons, List.sum_cons, List.sum_cons]
    omega

/-- **The same entries**, in whatever order. -/
structure SameEntries (a b : Descriptor) : Prop where
  actions : a.actions.Perm b.actions
  status : a.status.Perm b.status
  events : a.events.Perm b.events
  info : a.info = b.info

end Descriptor

namespace Dispatcher

/-! ### Installing all features -/

/-- Installs features one after the other, up to the first that does not fit. -/
def installAll (d : Dispatcher σ φ) :
    List (Installed φ) → Except RegistryError (Dispatcher σ φ)
  | [] => .ok d
  | i :: rest => do
    let d ← d.install i
    d.installAll rest

/-- **When all features can be installed**, and what the device is then. -/
theorem installAll_eq_ok_iff {d e : Dispatcher σ φ} {order : List (Installed φ)}
    (few : d.descriptor.status.length ≤ 8) :
    d.installAll order = .ok e ↔
      Descriptor.FitTogether (d.descriptor :: order.map (·.descriptor)) ∧
        e = { d with features := d.features ++ order } := by
  induction order generalizing d with
  | nil =>
    have alone : Descriptor.FitTogether [d.descriptor] :=
      ⟨List.pairwise_singleton _ _, few⟩
    rw [installAll, List.map_nil, and_iff_right alone, List.append_nil]
    exact ⟨fun h => (Except.ok.inj h).symm, fun h => congrArg Except.ok h.symm⟩
  | cons i rest ih =>
    rw [installAll, Outcome.bind_eq_ok_iff, List.map_cons, Descriptor.fitTogether_cons_cons,
      and_assoc]
    simp only [install_eq_ok_iff, and_assoc, exists_and_left, exists_eq_left]
    -- the others are installed on the device with this feature
    refine and_congr_right fun fits => ?_
    have grown := d.descriptor_install i
    have room := fits.few
    rw [← List.length_append] at room
    rw [ih (grown ▸ room), grown, List.append_assoc]
    rfl

/-- **No two parts share an action** where all parts fit together. -/
theorem nodup_actions_of_fitTogether {d : Dispatcher σ φ}
    (fit : Descriptor.FitTogether (d.registry.descriptor :: d.features.map (·.descriptor))) :
    (d.descriptor.actions.map (·.name)).Nodup := by
  have parts : d.descriptor.actions.map (·.name)
      = (d.registry.descriptor :: d.features.map (·.descriptor)).flatMap
          fun part => part.actions.map (·.name) := by
    rw [descriptor_eq_foldl, Descriptor.foldl_append, List.map_append, List.map_flatMap]
    rfl
  rw [parts, List.nodup_flatMap]
  refine ⟨List.forall_mem_cons.2 ⟨d.registry.nodup_actions, ?_⟩, fit.apart.imp (·.actions)⟩
  rw [List.forall_mem_map]
  exact fun f _ => f.registry.nodup_actions

/-! ### Features in another order -/

/-- **The same device** with its features in another order. -/
def Reordered (d e : Dispatcher σ φ) : Prop :=
  ∃ features, d.features.Perm features ∧ e = { d with features }

namespace Reordered

variable {d e : Dispatcher σ φ}

/-- The descriptors list the same. -/
theorem sameEntries (reordered : d.Reordered e) : d.descriptor.SameEntries e.descriptor := by
  obtain ⟨features, same, rfl⟩ := reordered
  have parts := same.map (·.descriptor)
  rw [descriptor_eq_foldl, descriptor_eq_foldl, Descriptor.foldl_append, Descriptor.foldl_append]
  exact ⟨(parts.flatMap_right _).append_left _, (parts.flatMap_right _).append_left _,
    (parts.flatMap_right _).append_left _, rfl⟩

theorem nodup_actions (reordered : d.Reordered e)
    (distinct : (d.descriptor.actions.map (·.name)).Nodup) :
    (e.descriptor.actions.map (·.name)).Nodup :=
  (reordered.sameEntries.actions.map _).nodup_iff.1 distinct

end Reordered

/-! ### Acting alike -/

/-- **The same part acts on two devices**, if any does: what is left of either device, with the runs
of handlers on it. A feature may stand in different places, but it is the same feature, in the same
state, and it is left in the same state; all other parts stay as they are. -/
inductive SameAct (d e : Dispatcher σ φ) :
    Dispatcher σ φ → List (DevicePart × HandlerRun) →
    Dispatcher σ φ → List (DevicePart × HandlerRun) → Prop
  /-- No handler is run. -/
  | idle : SameAct d e d [] e []
  /-- The device itself acts. -/
  | device (run : HandlerRun) (state : σ) :
    SameAct d e { d with state } [(.device, run)] { e with state } [(.device, run)]
  /-- A feature acts. -/
  | feature {before after before' after' : List (Installed φ)} {f : Installed φ} (run : HandlerRun)
      (state : φ) : d.features = before ++ f :: after → e.features = before' ++ f :: after' →
    SameAct d e
      { d with features := before ++ { f with state } :: after } [(.feature before.length, run)]
      { e with features := before' ++ { f with state } :: after' } [(.feature before'.length, run)]

/-- **Two devices act alike** on a message: the same part acts, with the same result. -/
structure ActsAlike (d e : Dispatcher σ φ) (time : UInt32) (m : Message) : Prop where
  act : SameAct d e (d.dispatch time m).dispatcher (d.runs time m)
    (e.dispatch time m).dispatcher (e.runs time m)
  reply : (e.dispatch time m).reply = (d.dispatch time m).reply
  log : (e.dispatch time m).log = (d.dispatch time m).log

namespace Reordered

variable {d e : Dispatcher σ φ}

/-- Where the same part acts on devices with the same features, these are the same afterwards. -/
theorem sameAct (reordered : d.Reordered e) {after after' : Dispatcher σ φ}
    {runs runs' : List (DevicePart × HandlerRun)} (act : SameAct d e after runs after' runs') :
    after.Reordered after' := by
  obtain ⟨features, same, rfl⟩ := reordered
  cases act with
  | idle => exact ⟨features, same, rfl⟩
  | device => exact ⟨features, same, rfl⟩
  | @feature before rest before' rest' f _ state split split' =>
    dsimp only at split'
    rw [split, split'] at same
    -- around the feature that has acted nothing has changed
    have around : (before ++ rest).Perm (before' ++ rest') :=
      (List.perm_middle.symm.trans (same.trans List.perm_middle)).cons_inv
    exact ⟨_, List.perm_middle.trans ((around.cons _).trans List.perm_middle.symm), rfl⟩

/-- An action is performed alike by two devices, if it is on parts in the same state. -/
theorem sameAct_of_invoke {τ : Type} {state : τ} (around around' : τ → Dispatcher σ φ)
    (still : around state = d) (still' : around' state = e) {part part' : DevicePart}
    (acts : ∀ run state, SameAct d e (around state) [(part, run)] (around' state) [(part', run)])
    (a : Action τ) (m : Message) :
    SameAct d e (around (a.invoke m state).2) ((a.run? m).toList.map (part, ·))
      (around' (a.invoke m state).2) ((a.run? m).toList.map (part', ·)) := by
  rcases a.invoke_cases m state with ⟨_, -, unrun, invoked⟩ | ⟨_, _, -, ran, _⟩
  · rw [unrun, invoked]
    dsimp only
    rw [still, still']
    exact .idle
  · rw [ran]
    exact acts _ _

/-- **The action of a name** is performed by the same part, if any has it. -/
theorem perform (reordered : d.Reordered e) (distinct : (d.descriptor.actions.map (·.name)).Nodup)
    (name : String) (m : Message) :
    (e.perform name m).1 = (d.perform name m).1 ∧
      SameAct d e (d.perform name m).2 (d.recorded.perform name m).2.records
        (e.perform name m).2 (e.recorded.perform name m).2.records := by
  have distinct' := reordered.nodup_actions distinct
  obtain ⟨features, same, rfl⟩ := reordered
  rcases d.part_cases name with
    ⟨a, found⟩ | ⟨own, before, f, after, a, split, absent, found⟩ | ⟨own, absent⟩
  · -- the device comes first in either order
    have found' : ({ d with features } : Dispatcher σ φ).registry.action? name = some a := found
    rw [perform_of_device found, perform_of_device found', records_perform_of_device found,
      records_perform_of_device found']
    exact ⟨rfl, sameAct_of_invoke (fun state => { d with state })
      (fun state => { d with features, state }) rfl rfl .device a m⟩
  · have own' : ({ d with features } : Dispatcher σ φ).registry.action? name = none := own
    have member : f ∈ features := by
      rw [← same.mem_iff, split]
      exact List.mem_append_right before List.mem_cons_self
    obtain ⟨before', after', split'⟩ := List.append_of_mem member
    -- no other feature has the action, so this one is the first to have it in the other order, too
    have absent' : ∀ g ∈ before', g.registry.action? name = none := by
      obtain rfl := Registry.name_of_action? found
      exact action?_before_eq_none distinct' split' (Registry.mem_of_action? found)
    rw [perform_of_feature own split absent found, perform_of_feature own' split' absent' found,
      records_perform_of_feature own split absent found,
      records_perform_of_feature own' split' absent' found]
    have still : { d with features := before ++ { f with state := f.state } :: after } = d := by
      rw [← split]
    have still' : { d with features := before' ++ { f with state := f.state } :: after' }
        = { d with features } := by
      rw [← split']
    exact ⟨rfl, sameAct_of_invoke
      (fun state => { d with features := before ++ { f with state } :: after })
      (fun state => { d with features := before' ++ { f with state } :: after' }) still still'
      (fun run state => .feature run state split split') a m⟩
  · have own' : ({ d with features } : Dispatcher σ φ).registry.action? name = none := own
    have absent' : ∀ g ∈ features, g.registry.action? name = none :=
      fun g hg => absent g (same.mem_iff.2 hg)
    rw [perform_of_absent own absent, perform_of_absent own' absent',
      records_perform_of_absent own absent, records_perform_of_absent own' absent']
    exact ⟨rfl, .idle⟩

end Reordered

/-! ### Messages -/

variable {d e : Dispatcher σ φ}

/-- What becomes of a request that names an action. -/
theorem dispatch_of_named {m : Message} (request : m.messageClass.isResponse = false)
    (action : m.method = Method.action) {name : String} (named : m.text? .name = some name)
    (d : Dispatcher σ φ) (time : UInt32) :
    d.dispatch time m
      = ⟨(d.perform name m).2,
          (d.perform name m).1.bind fun () => (d.perform name m).2.succeed time m [], []⟩ := by
  rw [dispatch_of_action request action, performAction, named]
  dsimp only
  obtain ⟨_ | _, after⟩ := d.perform name m <;> rfl

/-- A message that leaves no trace on any device. -/
theorem actsAlike_of_idle {time : UInt32} {m : Message} (reply : Except DeviceError (Option Bytes))
    (traceless : ∀ {ρ ψ : Type} (d : Dispatcher ρ ψ), d.dispatch time m = ⟨d, reply, []⟩) :
    d.ActsAlike e time m := by
  refine ⟨?_, by rw [traceless, traceless], by rw [traceless, traceless]⟩
  rw [runs, runs, traceless, traceless, traceless, traceless, records_recorded, records_recorded]
  exact .idle

/-- **Devices with the same features act alike** on requests for actions. -/
theorem Reordered.actsAlike (reordered : d.Reordered e)
    (distinct : (d.descriptor.actions.map (·.name)).Nodup) (time : UInt32) {m : Message}
    (action : m.method = Method.action) : d.ActsAlike e time m := by
  cases response : m.messageClass.isResponse with
  | true =>
    refine actsAlike_of_idle (.ok none) fun d => ?_
    rw [Dispatcher.dispatch, if_pos response]
  | false =>
    cases named : m.text? .name with
    | none =>
      refine actsAlike_of_idle (.error (.message .actionWithoutName)) fun d => ?_
      rw [dispatch_of_action response action, performAction, named]
    | some name =>
      obtain ⟨result, act⟩ := reordered.perform distinct name m
      -- answers are signed by the account, which is the same on both devices
      obtain ⟨_, -, others⟩ := reordered.sameAct act
      have dispatched {ρ ψ : Type} (d : Dispatcher ρ ψ) :=
        dispatch_of_named response action named d time
      refine ⟨?_, ?_, by rw [dispatched, dispatched]⟩
      · rw [runs, runs, dispatched, dispatched, dispatched, dispatched]
        exact act
      · rw [dispatched, dispatched]
        dsimp only
        rw [result, others]
        rfl

theorem dispatcher_dispatch_of_other {m : Message} (other : m.method ≠ Method.action)
    (d : Dispatcher σ φ) (time : UInt32) : (d.dispatch time m).dispatcher = d := by
  rw [dispatch, if_neg other]
  split
  · rfl
  · split
    · exact d.dispatcher_answerStatus time m
    · rfl

/-- **Any message leaves devices with the same features.** -/
theorem Reordered.dispatch (reordered : d.Reordered e)
    (distinct : (d.descriptor.actions.map (·.name)).Nodup) (time : UInt32) (m : Message) :
    (d.dispatch time m).dispatcher.Reordered (e.dispatch time m).dispatcher := by
  by_cases action : m.method = Method.action
  · exact reordered.sameAct (reordered.actsAlike distinct time action).act
  · rw [dispatcher_dispatch_of_other action, dispatcher_dispatch_of_other action]
    exact reordered

/-- A device after some messages, each with the time at which it is handled. -/
def after (d : Dispatcher σ φ) (past : List (UInt32 × Message)) : Dispatcher σ φ :=
  past.foldl (fun d arrival => (d.dispatch arrival.1 arrival.2).dispatcher) d

theorem sameParts_after (d : Dispatcher σ φ) (past : List (UInt32 × Message)) :
    d.SameParts (d.after past) := by
  induction past generalizing d with
  | nil => exact .refl d
  | cons arrival later ih => exact (d.sameParts_dispatch ..).trans (ih _)

/-- **So does any number of messages.** -/
theorem Reordered.after (reordered : d.Reordered e)
    (distinct : (d.descriptor.actions.map (·.name)).Nodup) (past : List (UInt32 × Message)) :
    (d.after past).Reordered (e.after past) := by
  induction past generalizing d e with
  | nil => exact reordered
  | cons arrival later ih =>
    -- the names of actions stay what they are, and with them who answers to them
    have same := d.sameParts_dispatch arrival.1 arrival.2
    exact ih (reordered.dispatch distinct ..) (same.descriptor_eq ▸ distinct)

/-! ### Any order -/

/-- **The order of features is of no account.** Take any device and any features. They can all be
installed in some order exactly if they can be installed in every order, and this is exactly if the
device and the features fit together: any two of these parts have no action, event or status
component of one name, where events have the names that the relay knows, and there are at most eight
status components in all. For any two orders in which they were installed, the descriptors list the
entries of the device and then those of the features in their order, so that they are the same
entries; and after any messages, a request for an action is performed by the same part on both
devices, on the same input and with the same state afterwards, and with the same reply. -/
theorem feature_order_irrelevant (state : σ) (registry : Registry σ) (account : Account)
    (features : List (Installed φ)) :
    let d : Dispatcher σ φ := ⟨state, registry, [], account⟩
    let fitting : Prop :=
      Descriptor.FitTogether (registry.descriptor :: features.map (·.descriptor))
    ((∃ order e, order.Perm features ∧ d.installAll order = .ok e) ↔ fitting) ∧
    ((∀ order, order.Perm features → ∃ e, d.installAll order = .ok e) ↔ fitting) ∧
    ∀ order order' e e', order.Perm features → order'.Perm features →
      d.installAll order = .ok e → d.installAll order' = .ok e' →
      e.descriptor = (order.map (·.descriptor)).foldl Descriptor.append registry.descriptor ∧
      e'.descriptor = (order'.map (·.descriptor)).foldl Descriptor.append registry.descriptor ∧
      e.descriptor.SameEntries e'.descriptor ∧
      ∀ past time m, m.method = Method.action →
        (e.after past).ActsAlike (e'.after past) time m := by
  intro d fitting
  have installed (order : List (Installed φ)) (e : Dispatcher σ φ) :
      d.installAll order = .ok e ↔
        Descriptor.FitTogether (registry.descriptor :: order.map (·.descriptor)) ∧
          e = ⟨state, registry, order, account⟩ :=
    installAll_eq_ok_iff ((Composed.alone state registry account).length_status_le)
  have fit_iff {order : List (Installed φ)} (same : order.Perm features) :
      Descriptor.FitTogether (registry.descriptor :: order.map (·.descriptor)) ↔ fitting :=
    ⟨.perm ((same.map _).cons _), .perm ((same.symm.map _).cons _)⟩
  refine ⟨⟨?_, fun fit => ?_⟩, ⟨fun all => ?_, fun fit order same => ?_⟩, ?_⟩
  · rintro ⟨order, e, same, succeeded⟩
    exact (fit_iff same).1 ((installed order e).1 succeeded).1
  · exact ⟨features, _, .refl _, (installed ..).2 ⟨fit, rfl⟩⟩
  · obtain ⟨e, succeeded⟩ := all features (.refl _)
    exact ((installed features e).1 succeeded).1
  · exact ⟨_, (installed ..).2 ⟨(fit_iff same).2 fit, rfl⟩⟩
  · intro order order' e e' same same' succeeded succeeded'
    obtain ⟨fit, rfl⟩ := (installed order e).1 succeeded
    obtain ⟨-, rfl⟩ := (installed order' e').1 succeeded'
    have reordered : (⟨state, registry, order, account⟩ : Dispatcher σ φ).Reordered
        ⟨state, registry, order', account⟩ := ⟨order', same.trans same'.symm, rfl⟩
    have distinct : ((⟨state, registry, order, account⟩ : Dispatcher σ φ).descriptor.actions.map
        (·.name)).Nodup := nodup_actions_of_fitTogether fit
    refine ⟨descriptor_eq_foldl _, descriptor_eq_foldl _, reordered.sameEntries, ?_⟩
    intro past time m action
    refine (reordered.after distinct past).actsAlike ?_ time action
    rw [(sameParts_after _ past).descriptor_eq]
    exact distinct

/-! ### A board with two switches -/

/-- A switch that can be pressed. -/
def switch (name : String) : Feature Bool where
  name
  declared := ⟨[⟨name, "", .arguments [] fun on _ => (!on, none)⟩], [], [], .unknown⟩
  initial := false
  setup := fun on => (on, none)
  tick := fun on => .done (on, none)
  tickEvery := 1

theorem check_left : (switch "left").declared.check = .ok () := by decide +kernel

theorem check_right : (switch "right").declared.check = .ok () := by decide +kernel

/-- The switch on the left. -/
def left : Installed Bool := ⟨switch "left", ⟨_, check_left⟩, [], false, 0⟩

/-- The switch on the right. -/
def right : Installed Bool := ⟨switch "right", ⟨_, check_right⟩, [], false, 0⟩

/-- A board with some switches. -/
def board (switches : List (Installed Bool)) : Dispatcher Unit Bool :=
  ⟨(), mute, switches, ⟨"u", "k"⟩⟩

/-- A request to press a switch. -/
def pressing (name : String) : Message :=
  ⟨.request, Method.action, ⟨List.replicate 12 8, rfl⟩, [⟨.name, Utf8.encode name⟩]⟩

/-- Whichever switch was put on the board first, the right one is the one that is pressed. -/
theorem feature_order_board :
    (board []).installAll [left, right] = .ok (board [left, right]) ∧
      (board []).installAll [right, left] = .ok (board [right, left]) ∧
      (board [left, right]).runs 5 (pressing "right")
        = [(.feature 1, ⟨"right", .arguments []⟩)] ∧
      (board [right, left]).runs 5 (pressing "right")
        = [(.feature 0, ⟨"right", .arguments []⟩)] ∧
      ∀ past, ((board [left, right]).after past).ActsAlike ((board [right, left]).after past) 5
        (pressing "right") := by
  have one : (board []).installAll [left, right] = .ok (board [left, right]) := by rfl
  have other : (board []).installAll [right, left] = .ok (board [right, left]) := by rfl
  obtain ⟨-, -, alike⟩ := feature_order_irrelevant () mute ⟨"u", "k"⟩ [left, right]
  obtain ⟨-, -, -, alike⟩ := alike _ _ _ _ (.refl _) (.swap ..) one other
  exact ⟨one, other, by decide +kernel, by decide +kernel, fun past => alike past 5 _ rfl⟩

end Dispatcher

end RelayDevice
