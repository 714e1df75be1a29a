import RelayDevice.Proofs.Session.Dispatching
import RelayDevice.Proofs.Session.Lives

/-!
# Parts stay what they are

Whatever a device does, its parts keep their declarations and their names for events, and the
account stays the same: only states change (`Dispatcher.SameParts`). It is so for one message
(`Dispatcher.sameParts_dispatch`), where all that may happen is listed in `Dispatcher.Fate`, and for
one iteration of the main loop (`MainLoop.sameParts_iterate`).

A device that is online may send the events that were declared when it came online. Since parts stay
what they are, these are the events of its descriptor at any later time, too
(`MainLoop.IsOnline.context_eq`), by induction over the iterations that led to it.
-/

namespace RelayDevice

variable {σ φ : Type}

/-! ### One device and another -/

namespace Installed.SamePart

theorem refl (i : Installed φ) : i.SamePart i := ⟨rfl, rfl, rfl⟩

theorem trans {i j k : Installed φ} (first : i.SamePart j) (second : j.SamePart k) : i.SamePart k :=
  ⟨second.feature.trans first.feature, second.registry.trans first.registry,
    second.aliases.trans first.aliases⟩

/-- An iteration of the main loop leaves a feature what it is. -/
theorem iterate (i : Installed φ) (c : DeviceContext) (o : Outbox) :
    i.SamePart (i.iterate c o).1 := by
  unfold Installed.iterate
  dsimp only
  split <;> exact ⟨rfl, rfl, rfl⟩

end Installed.SamePart

namespace Dispatcher

theorem SameParts.refl (d : Dispatcher σ φ) : d.SameParts d :=
  ⟨rfl, List.forall₂_same.2 fun i _ => .refl i, rfl⟩

theorem SameParts.trans {d e g : Dispatcher σ φ} (first : d.SameParts e) (second : e.SameParts g) :
    d.SameParts g := by
  refine ⟨second.registry.trans first.registry, ?_, second.account.trans first.account⟩
  -- place by place along the three lists of features
  obtain ⟨-, first, -⟩ := first
  obtain ⟨-, second, -⟩ := second
  generalize d.features = is at first
  generalize e.features = js at first second
  generalize g.features = ks at second
  induction first generalizing ks with
  | nil => exact second
  | cons same _ ih =>
    obtain _ | ⟨same', rest⟩ := second
    exact .cons (same.trans same') (ih _ rest)

theorem SameParts.eventNames_eq {d e : Dispatcher σ φ} (same : d.SameParts e) :
    e.eventNames = d.eventNames := by
  rw [eventNames, eventNames, same.descriptor_eq]

theorem sameParts_state (d : Dispatcher σ φ) (state : σ) : d.SameParts { d with state } :=
  ⟨rfl, List.forall₂_same.2 fun i _ => .refl i, rfl⟩

/-! ### Messages -/

/-- Running a handler changes the state of one part. -/
theorem Performs.sameParts {d : Dispatcher σ φ} {name : String} {part : DevicePart}
    {input : HandlerInput} {outcome : Outcome (Dispatcher σ φ)}
    (performed : d.Performs name part input outcome) : d.SameParts outcome.1 := by
  cases performed with
  | device => exact d.sameParts_state _
  | @feature before after f _ _ _ _ split =>
    refine ⟨rfl, ?_, rfl⟩
    rw [split]
    refine List.rel_append (List.forall₂_same.2 fun i _ => .refl i) (.cons ⟨rfl, rfl, rfl⟩ ?_)
    exact List.forall₂_same.2 fun i _ => .refl i

/-- **A message leaves all parts what they are.** -/
theorem sameParts_dispatch (d : Dispatcher σ φ) (time : UInt32) (m : Message) :
    d.SameParts (d.dispatch time m).dispatcher := by
  have way := d.fate time m
  generalize d.dispatch time m = done at way
  generalize d.runs time m = runs at way
  cases way with
  | ignored | rejected => exact .refl d
  | performed _ _ _ performs | failed _ _ _ performs => exact performs.sameParts
  | asked =>
    rw [dispatcher_answerStatus]
    exact .refl d

/-! ### Iterations -/

theorem forall₂_iterateAll (c : DeviceContext) (features : List (Installed φ)) (o : Outbox) :
    List.Forall₂ Installed.SamePart features (iterateAll c features o).1 := by
  induction features generalizing o with
  | nil => exact .nil
  | cons f rest ih => exact .cons (.iterate f c o) (ih _)

theorem sameParts_iterateFeatures (d : Dispatcher σ φ) (c : DeviceContext) (o : Outbox) :
    d.SameParts (d.iterateFeatures c o).1 :=
  ⟨rfl, forall₂_iterateAll c d.features o, rfl⟩

end Dispatcher

namespace MainLoop

variable (l : MainLoop σ φ)

theorem dispatcher_keepalive (now : Nanoseconds) (o : Outbox) :
    (l.keepalive now o).1.dispatcher = l.dispatcher := by rw [keepalive_eq]

theorem sameParts_tick (now : Nanoseconds) (o : Outbox) :
    l.dispatcher.SameParts (l.tick now o).1.dispatcher := by
  unfold tick
  split
  · exact l.dispatcher.sameParts_state _
  · exact .refl _

theorem sameParts_prepare (now : Nanoseconds) (o : Outbox) :
    l.dispatcher.SameParts (l.prepare now o).1.dispatcher := by
  have ticked := (l.keepalive now o).1.sameParts_tick now (l.keepalive now o).2.1
  rw [dispatcher_keepalive] at ticked
  exact ticked.trans (Dispatcher.sameParts_iterateFeatures ..)

/-- **An iteration leaves all parts what they are**, whatever is handled in it. -/
theorem sameParts_iterate {ι : Type} (read : ι → Arrival × ι) (now : Nanoseconds) (o : Outbox)
    (inbox : ι) :
    l.dispatcher.SameParts (l.iterate read now o inbox).mainLoop.dispatcher := by
  refine (l.sameParts_prepare now o).trans ?_
  rw [dispatcher_iterate]
  cases (l.iterate read now o inbox).handled with
  | none => exact .refl _
  | some m => exact Dispatcher.sameParts_dispatch ..

end MainLoop

/-! ### Devices that are online -/

/-- Who speaks for a device, and what may be told: the events of all parts. -/
def Dispatcher.context (d : Dispatcher σ φ) (device : Uuid) : DeviceContext :=
  ⟨d.account, device, d.eventNames⟩

/-- **The main loops of devices that are online**, from the beginning of a session on. -/
inductive MainLoop.IsOnline : MainLoop σ φ → Prop
  | entered (session : DeviceSession σ φ) (backlog : List Message) (now : Nanoseconds)
      (o : Outbox) : IsOnline (Startup.enter session backlog now o).1
  | iterated {ι : Type} {l : MainLoop σ φ} (read : ι → Arrival × ι) (now : Nanoseconds) (o : Outbox)
      (inbox : ι) : l.IsOnline → IsOnline (l.iterate read now o inbox).mainLoop

/-- **A device that is online may tell what its descriptor lists**, at any time. -/
theorem MainLoop.IsOnline.context_eq {l : MainLoop σ φ} (online : l.IsOnline) :
    l.context = l.dispatcher.context l.context.device := by
  induction online with
  | entered => rfl
  | @iterated _ l read now o inbox _ ih =>
    have same := l.sameParts_iterate read now o inbox
    rw [l.context_iterate now o read inbox, Dispatcher.context, same.account, same.eventNames_eq]
    exact ih

end RelayDevice
