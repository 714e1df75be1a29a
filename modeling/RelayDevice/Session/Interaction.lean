import RelayDevice.Error

/-!
# Periodic work of an application

The periodic callback of a device or a feature may send things, and may go on differently when
sending fails. It is a tree: a leaf is the end of the callback, and a node is a call with a branch
for each answer. So a callback can do nothing to the connection but make these calls.

* `Interaction` — the tree, over the calls `κ` and the final result `α`;
* `Interaction.run` — makes the calls one after the other on some state;
* `Interaction.map` — makes the same calls and changes the final result.
-/

namespace RelayDevice

/-- Calls of type `κ` that end in a result of type `α`. -/
inductive Interaction (κ α : Type) : Type
  | done (result : α)
  | call (request : κ) (next : Except DeviceError Unit → Interaction κ α)

namespace Interaction

variable {κ α σ : Type}

/-- Makes the calls on a state. -/
def run (perform : κ → σ → Except DeviceError Unit × σ) : Interaction κ α → σ → α × σ
  | done result, s => (result, s)
  | call request next, s =>
    let (answer, s) := perform request s
    run perform (next answer) s

/-- Changes the final result. -/
def map {β : Type} (f : α → β) : Interaction κ α → Interaction κ β
  | done result => done (f result)
  | call request next => call request fun answer => map f (next answer)

@[simp] theorem run_done (perform : κ → σ → Except DeviceError Unit × σ) (result : α) (s : σ) :
    (done result).run perform s = (result, s) := rfl

@[simp] theorem run_call (perform : κ → σ → Except DeviceError Unit × σ) (request : κ)
    (next : Except DeviceError Unit → Interaction κ α) (s : σ) :
    (call request next).run perform s =
      (next (perform request s).1).run perform (perform request s).2 := rfl

theorem run_map {β : Type} (f : α → β) (perform : κ → σ → Except DeviceError Unit × σ)
    (i : Interaction κ α) (s : σ) :
    (i.map f).run perform s = (f (i.run perform s).1, (i.run perform s).2) := by
  induction i generalizing s with
  | done result => rfl
  | call request next ih => simp only [map, run_call, ih]

end Interaction

end RelayDevice
