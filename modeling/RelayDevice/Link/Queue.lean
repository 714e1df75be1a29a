/-!
# Bounded queues

A queue of limited room between two parties that do not wait for each other. The receiving party
may close it; what is pushed then, or when there is no room, is refused.

* `BoundedQueue.push` — appends an item or tells why it cannot;
* `BoundedQueue.pop` — takes the first item.
-/

namespace RelayDevice

/-- A first-in first-out queue with limited room. -/
structure BoundedQueue (α : Type) where
  /-- The items, the oldest first. -/
  items : List α
  /-- How many items there is room for. -/
  capacity : Nat
  /-- Whether the receiving party still takes items. -/
  isOpen : Bool
deriving DecidableEq

/-- Why an item is refused. -/
inductive QueueRefusal
  | full
  | closed
deriving DecidableEq, Repr

namespace BoundedQueue

variable {α : Type}

/-- An empty queue with room for at least one item. -/
def empty (capacity : Nat) : BoundedQueue α := ⟨[], max capacity 1, true⟩

/-- Appends an item. -/
def push (q : BoundedQueue α) (item : α) : Except QueueRefusal (BoundedQueue α) :=
  if q.isOpen = false then .error .closed
  else if q.capacity ≤ q.items.length then .error .full
  else .ok { q with items := q.items ++ [item] }

/-- Takes the oldest item. -/
def pop (q : BoundedQueue α) : Option (α × BoundedQueue α) :=
  match q.items with
  | [] => none
  | item :: rest => some (item, { q with items := rest })

/-- The receiving party takes nothing any more. -/
def close (q : BoundedQueue α) : BoundedQueue α := { q with isOpen := false }

theorem items_of_push {q r : BoundedQueue α} {item : α} (h : q.push item = .ok r) :
    r.items = q.items ++ [item] := by
  unfold push at h
  split at h
  · cases h
  · split at h
    · cases h
    · injection h with h
      rw [← h]

theorem isOpen_of_push {q r : BoundedQueue α} {item : α} (pushed : q.push item = .ok r) :
    r.isOpen = q.isOpen := by
  unfold push at pushed
  split at pushed
  · cases pushed
  · split at pushed
    · cases pushed
    · rw [← Except.ok.inj pushed]

end BoundedQueue

end RelayDevice
