import Mathlib.Data.List.Induction
import RelayDevice.Proofs.Link.Schedule

/-!
# Delays between two resets

A schedule is asked for delays and started over, in any order and any number of times
(`Backoff.Call`). Which delay it gives next depends on nothing but the number of delays that it gave
since it was started over (`Backoff.sinceReset`), and `Backoff.isAt_after` says so for every history
of calls. Each delay on the way was cut short by itself, and `IsAt.next` (Proofs/Link/Schedule) is
what makes the steps add up; here it meets with the step back to the first delay, `IsAt.reset`.

`Backoff.delays_double` is the schedule in closed form. The limit of all delays stands in it as
`capped ceiling longest`: the longest span, or the ceiling if that is lower.
-/

namespace RelayDevice

namespace Backoff

/-! ### Histories -/

/-- What a schedule can be asked. -/
inductive Call
  | next
  | reset
deriving DecidableEq

/-- The schedule after a call. -/
def call (b : Backoff) : Call → Backoff
  | .next => b.next.2
  | .reset => b.reset

/-- The schedule after several calls. -/
def after (b : Backoff) (calls : List Call) : Backoff := calls.foldl call b

/-- How many delays were asked for since the schedule was last started over, or began. -/
def sinceReset (calls : List Call) : Nat := (calls.reverse.takeWhile (· ≠ .reset)).length

variable {b : Backoff} {initial : Nanoseconds} {ceiling : Option Nanoseconds} {n : Nat}

theorem after_append_singleton (b : Backoff) (calls : List Call) (c : Call) :
    b.after (calls ++ [c]) = (b.after calls).call c := List.foldl_append

theorem sinceReset_append_next (calls : List Call) :
    sinceReset (calls ++ [.next]) = sinceReset calls + 1 := by
  simp [sinceReset]

theorem sinceReset_append_reset (calls : List Call) : sinceReset (calls ++ [.reset]) = 0 := by
  simp [sinceReset]

/-- Calls without a reset only add to the delays that were given. -/
theorem sinceReset_append_of_not_mem (calls : List Call) {later : List Call}
    (steady : .reset ∉ later) : sinceReset (calls ++ later) = sinceReset calls + later.length := by
  have kept : ∀ c ∈ later.reverse, decide (c ≠ .reset) = true := by
    intro c among
    exact decide_eq_true fun reset => steady (List.mem_reverse.1 (reset ▸ among))
  rw [sinceReset, List.reverse_append, List.takeWhile_append_of_pos kept, List.length_append,
    List.length_reverse, Nat.add_comm, sinceReset]

/-! ### The schedule after any history -/

theorem IsAt.reset (stands : b.IsAt initial ceiling n) (short : initial ≤ longest) :
    b.reset.IsAt initial ceiling 0 := by
  refine ⟨stands.initial_eq, stands.ceiling_eq, ?_⟩
  rw [Backoff.reset, stands.initial_eq, stands.ceiling_eq]
  exact (isAt_start short).current_eq

/-- **After any calls** the schedule stands where the delays since the last reset have brought it. -/
theorem isAt_after (short : initial ≤ longest) (ceiling : Option Nanoseconds) (calls : List Call) :
    ((start initial ceiling).after calls).IsAt initial ceiling (sinceReset calls) := by
  induction calls using List.reverseRecOn with
  | nil => exact isAt_start short
  | append_singleton calls c ih =>
    rw [after_append_singleton]
    cases c with
    | next =>
      rw [sinceReset_append_next]
      exact ih.next.2
    | reset =>
      rw [sinceReset_append_reset]
      exact ih.reset short

/-! ### The closed form -/

theorem nth_eq_min (initial : Nanoseconds) (ceiling : Option Nanoseconds) (n : Nat) :
    nth initial ceiling n = min (initial * 2 ^ n) (capped ceiling longest) := by
  cases ceiling with
  | none => rfl
  | some c => exact Nat.min_assoc _ _ _

theorem nth_le_nth (initial : Nanoseconds) (ceiling : Option Nanoseconds) {m n : Nat}
    (earlier : m ≤ n) : nth initial ceiling m ≤ nth initial ceiling n := by
  rw [nth_eq_min, nth_eq_min]
  have doubled : initial * 2 ^ m ≤ initial * 2 ^ n :=
    Nat.mul_le_mul_left initial (Nat.pow_le_pow_right Nat.two_pos earlier)
  exact Nat.le_min.2 ⟨Nat.le_trans (Nat.min_le_left ..) doubled, Nat.min_le_right ..⟩

theorem capped_le_self (ceiling : Option Nanoseconds) (delay : Nanoseconds) :
    capped ceiling delay ≤ delay := by
  cases ceiling with
  | none => exact Nat.le_refl delay
  | some c => exact Nat.min_le_left delay c

theorem capped_le {c : Nanoseconds} (limited : ceiling = some c) (delay : Nanoseconds) :
    capped ceiling delay ≤ c := by
  rw [limited]
  exact Nat.min_le_right delay c

/-- **Delays double until they are cut short.** After any calls, of which the last `n` since the
schedule began or was started over asked for delays, the next delay is the first one times `2 ^ n`,
unless the ceiling or the longest span is less. So delays only grow while the schedule is not started
over, and stay within both limits. -/
theorem delays_double (short : initial ≤ longest) (ceiling : Option Nanoseconds)
    (calls : List Call) :
    ((start initial ceiling).after calls).next.1
        = min (initial * 2 ^ sinceReset calls) (capped ceiling longest) ∧
      (∀ later, .reset ∉ later →
        ((start initial ceiling).after calls).next.1
          ≤ ((start initial ceiling).after (calls ++ later)).next.1) ∧
      (∀ c, ceiling = some c → ((start initial ceiling).after calls).next.1 ≤ c) ∧
      ((start initial ceiling).after calls).next.1 ≤ longest := by
  have given (calls : List Call) : ((start initial ceiling).after calls).next.1
      = nth initial ceiling (sinceReset calls) := (isAt_after short ceiling calls).next.1
  have limited : ((start initial ceiling).after calls).next.1 ≤ capped ceiling longest := by
    rw [given, nth_eq_min]
    exact Nat.min_le_right ..
  refine ⟨(given calls).trans (nth_eq_min ..), fun later steady => ?_,
    fun c lower => Nat.le_trans limited (capped_le lower longest),
    Nat.le_trans limited (capped_le_self ceiling longest)⟩
  rw [given, given, sinceReset_append_of_not_mem calls steady]
  exact nth_le_nth initial ceiling (Nat.le_add_right ..)

/-- A schedule of reconnections that was started over after its first delay, and then gave eight:
the ninth would be 25.6 seconds, and is 20. -/
theorem delays_double_reconnecting :
    let calls : List Call := [.next, .reset] ++ List.replicate 8 .next
    let b := start (.ofMillis 100) (some (.ofMillis 20000))
    Nanoseconds.ofMillis 100 ≤ longest ∧ sinceReset calls = 8 ∧
      (b.after calls).next.1 = .ofMillis 20000 ∧
      (b.after [.next, .reset]).next.1 ≤ (b.after calls).next.1 := by
  intro calls b
  have short : Nanoseconds.ofMillis 100 ≤ longest := by decide
  have eight : sinceReset calls = 8 := by decide
  have twenty : min (Nanoseconds.ofMillis 100 * 2 ^ 8) (capped (some (.ofMillis 20000)) longest)
      = .ofMillis 20000 := by decide
  obtain ⟨ninth, -⟩ := delays_double short (some (.ofMillis 20000)) calls
  obtain ⟨-, grow, -⟩ := delays_double short (some (.ofMillis 20000)) [.next, .reset]
  rw [eight, twenty] at ninth
  exact ⟨short, eight, ninth, grow (List.replicate 8 .next) (by decide)⟩

end Backoff

end RelayDevice
