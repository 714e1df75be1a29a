import Mathlib.Algebra.Ring.Nat
import RelayDevice.Link.Backoff

/-!
# Where a schedule stands

A schedule keeps nothing but its current delay, which was doubled step by step and cut short at two
limits on the way. `Backoff.nth` is the delay that this comes to, without the steps: the first delay
times a power of two, cut short once. `Backoff.IsAt.next` is the crux, and says that one more step
leads from each of these delays to the following one, since what was cut short stays so when it is
doubled. The first delay must itself be a span that can be expressed.
-/

namespace RelayDevice

namespace Backoff

/-- **The delay that comes after `n` others.** -/
def nth (initial : Nanoseconds) (ceiling : Option Nanoseconds) (n : Nat) : Nanoseconds :=
  capped ceiling (min (initial * 2 ^ n) longest)

/-- The schedule has been asked for `n` delays since it began. -/
structure IsAt (b : Backoff) (initial : Nanoseconds) (ceiling : Option Nanoseconds) (n : Nat) :
    Prop where
  initial_eq : b.initial = initial
  ceiling_eq : b.ceiling = ceiling
  current_eq : b.current = nth initial ceiling n

variable {b : Backoff} {initial : Nanoseconds} {ceiling : Option Nanoseconds} {n : Nat}

theorem isAt_start (short : initial ≤ longest) : (start initial ceiling).IsAt initial ceiling 0 := by
  refine ⟨rfl, rfl, ?_⟩
  have first : min (initial * 2 ^ 0) longest = initial := by
    rw [Nat.pow_zero, Nat.mul_one]
    exact Nat.min_eq_left short
  rw [nth, first]
  rfl

/-- Doubling a delay that was cut short, and cutting it short again, is cutting short its double. -/
theorem capped_double (delay : Nanoseconds) :
    capped ceiling (min (capped ceiling (min delay longest) * 2) longest)
      = capped ceiling (min (delay * 2) longest) := by
  have below (x limit : Nat) : min (min x limit * 2) limit = min (x * 2) limit := by omega
  have below_both (x limit c : Nat) :
      min (min (min (min x limit) c * 2) limit) c = min (min (x * 2) limit) c := by omega
  cases ceiling with
  | none => exact below delay longest
  | some c => exact below_both delay longest c

/-- **One more delay.** -/
theorem IsAt.next (stands : b.IsAt initial ceiling n) :
    b.next.1 = nth initial ceiling n ∧ b.next.2.IsAt initial ceiling (n + 1) := by
  refine ⟨stands.current_eq, stands.initial_eq, stands.ceiling_eq, ?_⟩
  have doubled : initial * 2 ^ (n + 1) = initial * 2 ^ n * 2 := by
    rw [Nat.pow_succ, Nat.mul_assoc]
  rw [nth, doubled, ← capped_double, ← nth, Backoff.next, stands.ceiling_eq, stands.current_eq]

end Backoff

end RelayDevice
