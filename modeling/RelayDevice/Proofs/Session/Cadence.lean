import Mathlib.Algebra.Order.Floor.Div
import Mathlib.Data.List.Induction
import RelayDevice.Proofs.Session.Announcing
import RelayDevice.Proofs.Session.EventNames
import RelayDevice.Proofs.Session.Tallies

/-!
# Features tick at their own cadence

A feature ticks on the first iteration of the main loop and then on every so many-th, and it counts
the iterations by itself. So when it ticks depends on its pace alone (`Installed.pace`): how often it
wants to, and how many iterations it has seen. Nothing but an iteration changes the pace of a feature.
Neither does setup before the main loop (`Startup.paces_run`), nor a message (`Dispatcher.paces_dispatch`),
nor the tick of anything, whether it fails or not. An iteration brings all features one further,
those that tick and those that do not (`MainLoop.paces_iterate`), and that is all the main loop does to
paces in any number of iterations (`MainLoop.paces_run`).

Ticks are counted by tallies (Proofs/Session/Tallies). `MainLoop.exists_tally` is the induction over
the iterations, which puts the two together, and `MainLoop.ticks_at_own_cadence` says in which
iterations a feature ticks, from the making of the device on. The count of iterations has 64 bits, and
so the statement is about that many.
-/

namespace RelayDevice

variable {σ φ ι : Type}

/-! ### Paces -/

/-- After how many iterations a feature ticks again, and how many it has seen. -/
def Installed.pace (i : Installed φ) : Nat × UInt64 := (i.every, i.iterations)

/-- The paces of all features. -/
def Dispatcher.paces (d : Dispatcher σ φ) : List (Nat × UInt64) := d.features.map Installed.pace

namespace Dispatcher

theorem paces_performOn {name : String} {m : Message} {result : Except DeviceError Unit}
    {features after : List (Installed φ)} (performed : performOn name m features = some (result, after)) :
    after.map Installed.pace = features.map Installed.pace := by
  induction features generalizing after with
  | nil => cases performed
  | cons f rest ih =>
    rw [performOn] at performed
    cases found : f.registry.action? name with
    | some a =>
      rw [found] at performed
      cases performed
      rfl
    | none =>
      rw [found] at performed
      obtain ⟨⟨_, later⟩, passed, same⟩ := Option.map_eq_some_iff.1 performed
      cases same
      exact congrArg (f.pace :: ·) (ih passed)

theorem paces_perform (d : Dispatcher σ φ) (name : String) (m : Message) :
    (d.perform name m).2.paces = d.paces := by
  unfold perform
  split
  · rfl
  · split
    · next performed => exact paces_performOn performed
    · rfl

/-- **A message changes no pace.** -/
theorem paces_dispatch (d : Dispatcher σ φ) (time : UInt32) (m : Message) :
    (d.dispatch time m).dispatcher.paces = d.paces := by
  unfold dispatch
  split
  · rfl
  split
  · unfold performAction
    split
    · rfl
    · next name _ =>
      have same := d.paces_perform name m
      split
      · next performed => rwa [performed] at same
      · next performed => rwa [performed] at same
  split
  · unfold answerStatus
    split
    · split <;> rfl
    · rfl
  · rfl

theorem pace_iterate (i : Installed φ) (c : DeviceContext) (o : Outbox) :
    (i.iterate c o).1.pace = (i.pace.1, i.pace.2 + 1) := by
  unfold Installed.iterate
  dsimp only
  split <;> rfl

theorem paces_iterateAll (c : DeviceContext) (features : List (Installed φ)) (o : Outbox) :
    (iterateAll c features o).1.map Installed.pace
      = (features.map Installed.pace).map fun p => (p.1, p.2 + 1) := by
  induction features generalizing o with
  | nil => rfl
  | cons f rest ih =>
    rw [List.map_cons, List.map_cons, ← ih, ← pace_iterate f c o]
    rfl

theorem paces_setupAll (features : List (Installed φ)) :
    (setupAll features).2.map Installed.pace = features.map Installed.pace := by
  have same (i : Installed φ) : i.setup.2.pace = i.pace := by
    unfold Installed.setup
    split <;> rfl
  induction features with
  | nil => rfl
  | cons f rest ih =>
    have kept := same f
    rw [setupAll]
    split
    · -- the features behind the one that failed are not set up
      next failed =>
      rw [failed] at kept
      exact congrArg (· :: rest.map Installed.pace) kept
    · next done =>
      rw [done] at kept
      exact congrArg₂ List.cons kept ih

end Dispatcher

/-! ### Before the main loop -/

theorem DeviceSession.paces_setup (d : DeviceSession σ φ) :
    d.setup.2.dispatcher.paces = d.dispatcher.paces := by
  unfold setup
  split
  · rfl
  · exact Dispatcher.paces_setupAll d.dispatcher.features

/-- **Devices as an application makes them**: without features at first, and then with one more at a
time. -/
inductive DeviceSession.Assembled : DeviceSession σ φ → Prop
  | alone {d : DeviceSession σ φ} : d.dispatcher.features = [] → d.Assembled
  | added {d e : DeviceSession σ φ} {f : Feature φ} {aliases : List (String × String)} :
    d.Assembled → d.addFeature f aliases = .ok e → e.Assembled

theorem Installed.iterations_of_make {f : Feature φ} {aliases : List (String × String)}
    {i : Installed φ} (made : make f aliases = .ok i) : i.iterations = 0 := by
  unfold make at made
  split at made
  · cases made
  split at made
  · cases made
  · cases made
    rfl

theorem Dispatcher.features_of_install {d e : Dispatcher σ φ} {i : Installed φ}
    (added : d.install i = .ok e) : e.features = d.features ++ [i] := by
  unfold install at added
  split at added
  · cases added
    rfl
  · cases added

/-- No feature has seen an iteration yet. -/
theorem DeviceSession.Assembled.iterations_eq {d : DeviceSession σ φ} (assembled : d.Assembled) :
    ∀ f ∈ d.dispatcher.features, f.iterations = 0 := by
  induction assembled with
  | alone none => rw [none]; exact nofun
  | @added d e f aliases _ added ih =>
    unfold addFeature at added
    split at added
    · cases added
    next i made =>
    split at added
    · cases added
    next dispatcher installed =>
    cases added
    dsimp only
    rw [Dispatcher.features_of_install installed, List.forall_mem_append,
      List.forall_mem_singleton]
    exact ⟨ih, Installed.iterations_of_make made⟩

theorem Startup.paces_advance (s : Startup σ φ) (start : SessionStart) (e : StartEvent) :
    (s.advance start e).startup.session.dispatcher.paces = s.session.dispatcher.paces := by
  unfold advance
  dsimp only
  split <;> rfl

theorem Startup.paces_step (s : Startup σ φ) (e : StartupEvent) :
    (s.step e).startup.session.dispatcher.paces = s.session.dispatcher.paces := by
  unfold step
  split
  · -- only here the features do anything
    have same := s.session.paces_setup
    split
    · next ended => rwa [ended] at same
    · next ended => rwa [ended] at same
  · rfl
  · rfl
  · rfl
  · split <;> rfl
  · exact s.paces_advance _ _
  · rfl

/-- **On its way online** a device changes no pace. -/
theorem Startup.paces_run (s : Startup σ φ) (events : List StartupEvent) :
    (s.run events).startup.session.dispatcher.paces = s.session.dispatcher.paces := by
  induction events using List.reverseRecOn with
  | nil => rfl
  | append_singleton events e ih =>
    rw [run_append_singleton]
    exact (paces_step _ e).trans ih

/-! ### In the main loop -/

/-- What an iteration meets: the time, the sending end of the queue, and what holds the inbox. -/
structure Round (ι : Type) where
  now : Nanoseconds
  outbox : Outbox
  inbox : ι

namespace MainLoop

variable (l : MainLoop σ φ) (read : ι → Arrival × ι)

/-- Several iterations. -/
def run (rounds : List (Round ι)) : MainLoop σ φ :=
  rounds.foldl (fun l r => (l.iterate read r.now r.outbox r.inbox).mainLoop) l

theorem run_append_singleton (rounds : List (Round ι)) (r : Round ι) :
    l.run read (rounds ++ [r]) =
      ((l.run read rounds).iterate read r.now r.outbox r.inbox).mainLoop := List.foldl_append

theorem paces_prepare (now : Nanoseconds) (o : Outbox) :
    (l.prepare now o).1.dispatcher.paces = l.dispatcher.paces.map fun p => (p.1, p.2 + 1) := by
  have features : ((l.keepalive now o).1.tick now (l.keepalive now o).2.1).1.dispatcher.features
      = l.dispatcher.features := by rw [features_tick, features_keepalive]
  rw [Dispatcher.paces, Dispatcher.paces, ← features]
  exact Dispatcher.paces_iterateAll ..

/-- **An iteration brings all features one further.** -/
theorem paces_iterate (now : Nanoseconds) (o : Outbox) (inbox : ι) :
    (l.iterate read now o inbox).mainLoop.dispatcher.paces
      = l.dispatcher.paces.map fun p => (p.1, p.2 + 1) := by
  rw [← l.paces_prepare now o, dispatcher_iterate]
  cases (l.iterate read now o inbox).handled with
  | none => rfl
  | some m => exact Dispatcher.paces_dispatch ..

theorem paces_run (rounds : List (Round ι)) :
    (l.run read rounds).dispatcher.paces
      = l.dispatcher.paces.map fun p => (p.1, p.2 + .ofNat rounds.length) := by
  induction rounds using List.reverseRecOn with
  | nil => simp [run]
  | append_singleton rounds r ih =>
    have next (n : UInt64) : n + .ofNat rounds.length + 1 = n + .ofNat (rounds.length + 1) := by
      rw [UInt64.ofNat_add, UInt64.add_assoc]
      rfl
    rw [run_append_singleton, paces_iterate, ih, List.map_map, List.length_append]
    exact List.map_congr_left fun p _ => congrArg (Prod.mk p.1) (next p.2)

/-- **How often a feature has ticked** in some iterations, given by its place: what its tally shows. -/
def ticks (rounds : List (Round ι)) (place : Nat) : Option Nat :=
  (((l.tallied fun _ => 0).run read rounds).dispatcher.features[place]?).map (·.state.ticks)

variable {l}

/-- Where a feature stands after some iterations, if it saw none before these. -/
theorem exists_feature_run {place every : Nat}
    (fresh : l.dispatcher.paces[place]? = some (every, 0)) (rounds : List (Round ι)) :
    ∃ f, (l.run read rounds).dispatcher.features[place]? = some f ∧ f.every = every ∧
      f.iterations = .ofNat rounds.length := by
  have pace : (l.run read rounds).dispatcher.paces[place]? = some (every, .ofNat rounds.length) := by
    rw [paces_run, List.getElem?_map, fresh, Option.map_some, UInt64.zero_add]
  rw [Dispatcher.paces, List.getElem?_map] at pace
  obtain ⟨f, found, at_pace⟩ := Option.map_eq_some_iff.1 pace
  exact ⟨f, found, (Prod.mk.inj at_pace).1, (Prod.mk.inj at_pace).2⟩

/-- As long as the iterations can be counted, a feature knows whether its turn has come. -/
theorem isDue_iff {f : Installed φ} {n : Nat} (seen : f.iterations = .ofNat n) (few : n < 2 ^ 64) :
    f.isDue = true ↔ f.every ∣ n := by
  rw [Installed.isDue, seen, UInt64.toNat_ofNat', Nat.mod_eq_of_lt few, beq_iff_eq]
  exact Nat.dvd_iff_mod_eq_zero.symm

/-- One more iteration is the start of a new stretch, if the stretches before it are all over. -/
theorem ceilDiv_add_one {every : Nat} (pos : 0 < every) (n : Nat) :
    (n + 1) ⌈/⌉ every = if every ∣ n then n ⌈/⌉ every + 1 else n ⌈/⌉ every := by
  have shift : n + 1 + every - 1 = n + every - 1 + 1 := by omega
  have whole : n + every - 1 + 1 = n + every := by omega
  rw [Nat.ceilDiv_eq_add_pred_div, Nat.ceilDiv_eq_add_pred_div, shift, Nat.succ_div, whole]
  simp only [Nat.dvd_add_self_right]
  split <;> rfl

/-- **What the tallies show** after some iterations. -/
theorem exists_tally {place every : Nat} (fresh : l.dispatcher.paces[place]? = some (every, 0))
    (pos : 0 < every) (rounds : List (Round ι)) (few : rounds.length ≤ 2 ^ 64) :
    ∃ tally, (l.tallied fun _ => 0).run read rounds = (l.run read rounds).tallied tally ∧
      tally place = rounds.length ⌈/⌉ every := by
  induction rounds using List.reverseRecOn with
  | nil => exact ⟨fun _ => 0, rfl, (zero_ceilDiv every).symm⟩
  | append_singleton rounds r ih =>
    rw [List.length_append, List.length_singleton] at few
    obtain ⟨tally, same, shown⟩ := ih (by omega)
    obtain ⟨f, found, rfl, seen⟩ := exists_feature_run read fresh rounds
    -- before the last of the iterations the feature has seen all others, and this tells its turn
    refine ⟨(l.run read rounds).counted tally, ?_, ?_⟩
    · rw [run_append_singleton, same, iterate_tallied, run_append_singleton]
    · rw [List.length_append, List.length_singleton, ceilDiv_add_one pos, ← shown, counted,
        Installed.countAll, found]
      dsimp only
      rw [Installed.counted]
      exact if_congr (isDue_iff seen (by omega)) rfl rfl

theorem ticks_eq {place every : Nat} (fresh : l.dispatcher.paces[place]? = some (every, 0))
    (pos : 0 < every) (rounds : List (Round ι)) (few : rounds.length ≤ 2 ^ 64) :
    l.ticks read rounds place = some (rounds.length ⌈/⌉ every) := by
  obtain ⟨tally, same, shown⟩ := exists_tally read fresh pos rounds few
  obtain ⟨f, found, -⟩ := exists_feature_run read fresh rounds
  have tallied : ((l.run read rounds).tallied tally).dispatcher.features[place]? = _ :=
    Installed.getElem?_tallyAll tally (l.run read rounds).dispatcher.features place
  rw [ticks, same, tallied, found, ← shown]
  rfl

/-- **Features tick at their own cadence.** Take any device with any features, as an application makes
it, whatever it meets on its way online, and any of its features. Of any iterations of its main loop,
as many as can be counted, the feature ticks once in each whose number is a multiple of `tickEvery`,
or of one if that is zero, and in no other. So in `n` iterations it ticks as often as there are
stretches of that length in them, the last of which may be shorter. What is handled in the iterations,
and what fails in them, makes no difference. -/
theorem ticks_at_own_cadence {d : DeviceSession σ φ} (assembled : d.Assembled)
    (events : List StartupEvent) (backlog : List Message) (now : Nanoseconds) (o : Outbox)
    {place : Nat} {f : Installed φ} (installed : d.dispatcher.features[place]? = some f)
    (rounds : List (Round ι)) (few : rounds.length ≤ 2 ^ 64) :
    let session := ((Startup.ofSession d).run events).startup.session
    let l := (Startup.enter session backlog now o).1
    (∀ k < rounds.length, ∃ before, l.ticks read (rounds.take k) place = some before ∧
      l.ticks read (rounds.take (k + 1)) place
        = some (if max f.feature.tickEvery 1 ∣ k then before + 1 else before)) ∧
      l.ticks read rounds place = some (rounds.length ⌈/⌉ max f.feature.tickEvery 1) := by
  intro session l
  have seen := assembled.iterations_eq f (List.mem_of_getElem? installed)
  have pos : 0 < max f.feature.tickEvery 1 := Nat.lt_of_lt_of_le Nat.one_pos (Nat.le_max_right ..)
  -- on the way to the main loop the feature has kept its pace
  have paces : l.dispatcher.paces = d.dispatcher.paces := Startup.paces_run (.ofSession d) events
  have fresh : l.dispatcher.paces[place]? = some (max f.feature.tickEvery 1, 0) := by
    rw [paces, Dispatcher.paces, List.getElem?_map, installed, Option.map_some, Installed.pace, seen]
    rfl
  refine ⟨fun k within => ⟨k ⌈/⌉ max f.feature.tickEvery 1, ?_, ?_⟩,
    ticks_eq read fresh pos rounds few⟩
  · have length : (rounds.take k).length = k := List.length_take_of_le within.le
    rw [ticks_eq read fresh pos _ (by omega), length]
  · have length : (rounds.take (k + 1)).length = k + 1 := List.length_take_of_le within
    rw [ticks_eq read fresh pos _ (by omega), length, ceilDiv_add_one pos]

/-- A metronome, which says with every beat that it is out of tune. -/
def metronome (every : Nat) : Feature Unit where
  name := "metronome"
  declared := ⟨[], [], [], .unknown⟩
  initial := ()
  setup := fun _ => ((), none)
  tick := fun _ => .done ((), some ⟨"out of tune", []⟩)
  tickEvery := every

/-- A metronome as part of a device. -/
def mounted (every : Nat) : Installed Unit :=
  ⟨metronome every, Dispatcher.mute, [], (), 0⟩

/-- A shelf with some metronomes. -/
def shelf (metronomes : List (Installed Unit)) : DeviceSession Unit Unit :=
  { name := "shelf", uuid := ⟨List.replicate 16 7, rfl⟩, isNew := false, state := .registered
    timing := .standard
    device := ⟨fun s => (s, none), fun s => .done (s, none), fun _ => none⟩
    dispatcher := ⟨(), Dispatcher.mute, metronomes, ⟨"u", "k"⟩⟩ }

theorem assembled_shelf : (shelf [mounted 3, mounted 0]).Assembled := by
  have one : (shelf []).addFeature (metronome 3) [] = .ok (shelf [mounted 3]) := rfl
  have two : (shelf [mounted 3]).addFeature (metronome 0) [] = .ok (shelf [mounted 3, mounted 0]) := rfl
  exact .added (.added (.alone rfl) one) two

/-- Of seven iterations, one metronome ticks in the first, the fourth and the last, and the other in
all of them. -/
theorem ticks_at_own_cadence_metronome :
    let o : Outbox := ⟨.empty 3, fun _ => default, 0⟩
    let l := (Startup.enter ((Startup.ofSession (shelf [mounted 3, mounted 0])).run
      [.launched]).startup.session [] 0 o).1
    let rounds := List.replicate 7 ⟨5, o, ()⟩
    (shelf [mounted 3, mounted 0]).Assembled ∧ rounds.length ≤ 2 ^ 64 ∧
      (shelf [mounted 3, mounted 0]).dispatcher.features[0]? = some (mounted 3) ∧
      (shelf [mounted 3, mounted 0]).dispatcher.features[1]? = some (mounted 0) ∧
      l.ticks (fun _ => (.nothing, ())) rounds 0 = some 3 ∧
      l.ticks (fun _ => (.nothing, ())) rounds 1 = some 7 := by
  intro o l rounds
  have slow : (shelf [mounted 3, mounted 0]).dispatcher.features[0]? = some (mounted 3) := rfl
  have quick : (shelf [mounted 3, mounted 0]).dispatcher.features[1]? = some (mounted 0) := rfl
  have few : rounds.length ≤ 2 ^ 64 := by decide
  obtain ⟨-, three⟩ := ticks_at_own_cadence (fun _ => (.nothing, ())) assembled_shelf [.launched] []
    0 o slow rounds few
  obtain ⟨-, seven⟩ := ticks_at_own_cadence (fun _ => (.nothing, ())) assembled_shelf [.launched] []
    0 o quick rounds few
  have beats : 7 ⌈/⌉ max 3 1 = 3 := rfl
  have all : 7 ⌈/⌉ max 0 1 = 7 := rfl
  exact ⟨assembled_shelf, few, slow, quick, three.trans (congrArg some beats),
    seven.trans (congrArg some all)⟩

end MainLoop

end RelayDevice
