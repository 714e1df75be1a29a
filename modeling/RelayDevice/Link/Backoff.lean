/-!
# Growing delays

A delay that doubles each time it is asked for, up to a ceiling. Delays are counted in nanoseconds
and never exceed `Backoff.longest`, the longest span that can be expressed.

* `Backoff.start` — a schedule with its first delay and an optional ceiling;
* `Backoff.next` — the current delay, and the schedule after it;
* `Backoff.reset` — starts the schedule over.
-/

namespace RelayDevice

/-- A span of time in nanoseconds. -/
abbrev Nanoseconds := Nat

namespace Nanoseconds

/-- Whole seconds as a span. -/
def ofSeconds (n : Nat) : Nanoseconds := n * 1000000000

/-- Whole milliseconds as a span. -/
def ofMillis (n : Nat) : Nanoseconds := n * 1000000

/-- The whole milliseconds of a span. -/
def millis (t : Nanoseconds) : Nat := t / 1000000

/-- The whole seconds of a span. -/
def seconds (t : Nanoseconds) : Nat := t / 1000000000

end Nanoseconds

/-- A schedule of doubling delays. -/
structure Backoff where
  /-- The delay that a schedule begins with. -/
  initial : Nanoseconds
  /-- The delay that comes next. -/
  current : Nanoseconds
  /-- The ceiling, if there is one. -/
  ceiling : Option Nanoseconds
deriving DecidableEq, Repr

namespace Backoff

/-- The longest span: 64 bits of seconds and all but one nanosecond of another. -/
def longest : Nanoseconds := 18446744073709551615 * 1000000000 + 999999999

/-- A delay kept under a ceiling. -/
def capped (ceiling : Option Nanoseconds) (delay : Nanoseconds) : Nanoseconds :=
  match ceiling with
  | some c => min delay c
  | none => delay

/-- A schedule from its first delay on. -/
def start (initial : Nanoseconds) (ceiling : Option Nanoseconds) : Backoff :=
  ⟨initial, capped ceiling initial, ceiling⟩

/-- The current delay, and the schedule with twice that delay. -/
def next (b : Backoff) : Nanoseconds × Backoff :=
  (b.current, { b with current := capped b.ceiling (min (b.current * 2) longest) })

/-- The schedule from its first delay on again. -/
def reset (b : Backoff) : Backoff :=
  { b with current := capped b.ceiling b.initial }

@[simp] theorem reset_start (initial : Nanoseconds) (ceiling : Option Nanoseconds) :
    (start initial ceiling).reset = start initial ceiling := rfl

end Backoff

end RelayDevice
