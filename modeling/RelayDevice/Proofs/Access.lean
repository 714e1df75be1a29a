import RelayDevice.Bytes

/-!
# Guarded access

A reader that goes by positions takes octets at places that it works out from what it has read. Such
a reader can lose its footing: a place may lie behind the end, a stretch may end before it begins, a
difference may be negative, a loop may come back to where it was. Here each of these steps is
guarded, and one that goes wrong is a `Misstep`.

* `Guarded` — the outcome of a reader by positions: a value, a refusal or a misstep;
* `Guarded.octet`, `Guarded.word`, `Guarded.doubleWord`, `Guarded.stretch`, `Guarded.difference`,
  `Guarded.bit`, `Guarded.further` — the guarded steps, with the circumstances in which they go well;
* `Guarded.KeepsFooting` — what is to be shown of a reader by positions: it makes no misstep, and its
  outcome is that of a reader which takes its input apart and has no positions to go wrong with.
-/

namespace RelayDevice

/-- How a reader by positions loses its footing. -/
inductive Misstep
  | octetOutOfRange (position size : Nat)
  | stretchOutOfRange (start stop size : Nat)
  | negativeDifference (a b : Nat)
  | bitOutOfRange (position : Nat)
  | standstill (position : Nat)
deriving DecidableEq, Repr

/-- Why a reader by positions ends without a value. -/
inductive Halt (ε : Type)
  | refused (reason : ε)
  | astray (misstep : Misstep)
deriving DecidableEq, Repr

/-- The outcome of a reader by positions. -/
abbrev Guarded (ε α : Type) := Except (Halt ε) α

namespace Guarded

variable {ε α β : Type}

/-- The reader does not accept what it reads. -/
def refuse (reason : ε) : Guarded ε α := .error (.refused reason)

/-- The reader loses its footing. -/
def stumble (misstep : Misstep) : Guarded ε α := .error (.astray misstep)

@[simp] theorem ok_bind (a : α) (f : α → Guarded ε β) : (Except.ok a >>= f) = f a := rfl

@[simp] theorem pure_eq_ok (a : α) : (pure a : Guarded ε α) = .ok a := rfl

/-! ### Steps -/

/-- The octet at a position. -/
def octet (bs : Bytes) (position : Nat) : Guarded ε UInt8 :=
  match bs[position]? with
  | some b => .ok b
  | none => stumble (.octetOutOfRange position bs.length)

/-- The word whose high octet is at a position. -/
def word (bs : Bytes) (position : Nat) : Guarded ε UInt16 := do
  let high ← octet bs position
  let low ← octet bs (position + 1)
  return Bytes.toUInt16 high low

/-- The double word whose highest octet is at a position. -/
def doubleWord (bs : Bytes) (position : Nat) : Guarded ε UInt32 := do
  let a ← octet bs position
  let b ← octet bs (position + 1)
  let c ← octet bs (position + 2)
  let d ← octet bs (position + 3)
  return Bytes.toUInt32 a b c d

/-- The octets from a position up to another, if there are such. -/
def stretch? (bs : Bytes) (start stop : Nat) : Option Bytes :=
  if start ≤ stop ∧ stop ≤ bs.length then some ((bs.drop start).take (stop - start)) else none

/-- The octets from a position up to another. -/
def stretch (bs : Bytes) (start stop : Nat) : Guarded ε Bytes :=
  match stretch? bs start stop with
  | some part => .ok part
  | none => stumble (.stretchOutOfRange start stop bs.length)

/-- A difference of positions or sizes. -/
def difference (a b : Nat) : Guarded ε Nat :=
  if b ≤ a then .ok (a - b) else stumble (.negativeDifference a b)

/-- The bit of a mask at a position, counted from the lowest. -/
def bit (mask : UInt8) (position : Nat) : Guarded ε Bool :=
  if position < 8 then .ok (mask.toNat.testBit position) else stumble (.bitOutOfRange position)

/-- A loop that goes on from a later position than that from which it came. -/
def further (start next : Nat) : Guarded ε (PLift (start < next)) :=
  if ahead : start < next then .ok ⟨ahead⟩ else stumble (.standstill start)

/-! ### Steps that go well -/

section

variable {bs part : Bytes} {start stop offset : Nat} {b : UInt8}

theorem octet_eq_ok {position : Nat} (there : bs[position]? = some b) :
    (octet bs position : Guarded ε UInt8) = .ok b := by
  rw [octet, there]

/-- Words are looked up in what is left of the octets behind an offset. -/
theorem word_of_drop (i : Nat) {high low : UInt8} (left : bs.drop offset = part)
    (first : part[i]? = some high) (second : part[i + 1]? = some low) :
    (word bs (offset + i) : Guarded ε UInt16) = .ok (Bytes.toUInt16 high low) := by
  rw [← left, List.getElem?_drop] at first second
  rw [word, octet_eq_ok first]
  exact congrArg (· >>= fun low => pure (Bytes.toUInt16 high low)) (octet_eq_ok second)

theorem stretch?_of_le (size : Nat) (within : start + size ≤ bs.length) :
    stretch? bs start (start + size) = some ((bs.drop start).take size) := by
  rw [stretch?, if_pos ⟨Nat.le_add_right _ _, within⟩, Nat.add_sub_cancel_left]

theorem stretch?_of_lt (beyond : bs.length < stop) : stretch? bs start stop = none := by
  rw [stretch?, if_neg (by omega)]

theorem stretch_of_le (size : Nat) (within : start + size ≤ bs.length) :
    (stretch bs start (start + size) : Guarded ε Bytes) = .ok ((bs.drop start).take size) := by
  rw [stretch, stretch?_of_le size within]

theorem stretch_from_start (within : stop ≤ bs.length) :
    (stretch bs 0 stop : Guarded ε Bytes) = .ok (bs.take stop) := by
  rw [stretch, stretch?, if_pos ⟨Nat.zero_le _, within⟩]
  rfl

theorem stretch_to_end (within : start ≤ bs.length) :
    (stretch bs start bs.length : Guarded ε Bytes) = .ok (bs.drop start) := by
  have whole : (bs.drop start).take (bs.length - start) = bs.drop start :=
    List.take_of_length_le (Nat.le_of_eq List.length_drop)
  rw [stretch, stretch?, if_pos ⟨within, Nat.le_refl _⟩, whole]

theorem difference_of_le {a b : Nat} (fits : b ≤ a) :
    (difference a b : Guarded ε Nat) = .ok (a - b) :=
  if_pos fits

theorem bit_of_lt {mask : UInt8} {position : Nat} (inside : position < 8) :
    (bit mask position : Guarded ε Bool) = .ok (mask.toNat.testBit position) :=
  if_pos inside

theorem further_of_lt {next : Nat} (ahead : start < next) :
    (further start next : Guarded ε (PLift (start < next))) = .ok ⟨ahead⟩ :=
  dif_pos ahead

end

/-! ### Keeping one's footing -/

/-- The outcome of a reader that has no positions to go wrong with. -/
def steady : Except ε α → Guarded ε α
  | .ok a => .ok a
  | .error reason => refuse reason

@[simp] theorem steady_ok (a : α) : steady (.ok a : Except ε α) = .ok a := rfl

theorem steady_ne_stumble (outcome : Except ε α) (misstep : Misstep) :
    steady outcome ≠ stumble misstep := by
  cases outcome <;> exact nofun

@[simp] theorem steady_map (outcome : Except ε α) (f : α → β) :
    steady (outcome.map f) = (steady outcome).map f := by
  cases outcome <;> rfl

theorem steady_bind (outcome : Except ε α) (f : α → Except ε β) :
    steady (outcome >>= f) = steady outcome >>= fun a => steady (f a) := by
  cases outcome <;> rfl

/-- **A reader by positions keeps its footing**: it makes no misstep, and it ends as a reader does
that takes its input apart and has no positions. -/
structure KeepsFooting (guarded : Guarded ε α) (plain : Except ε α) : Prop where
  ne_stumble : ∀ misstep, guarded ≠ stumble misstep
  eq_steady : guarded = steady plain

theorem keepsFooting_of_eq {guarded : Guarded ε α} {plain : Except ε α}
    (same : guarded = steady plain) : KeepsFooting guarded plain where
  ne_stumble misstep := same ▸ steady_ne_stumble plain misstep
  eq_steady := same

end Guarded

end RelayDevice
