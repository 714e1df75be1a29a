import Mathlib.Tactic.Linarith
import RelayDevice.Settings.Basic

/-!
# The period of the main loop

The main loop runs a number of times per second, and its period is that part of a second in whole
nanoseconds. The second is first divided in floating point, which rounds, and the quotient is then
rounded again. `Nearest.IsNearest.rescale` says that this does no harm: if the first grid is fine
enough, what is nearest in the end is nearest to the exact quotient. Only where two whole numbers are
equally near does the first rounding decide between them, and so the frequency of two billion is
looked at by itself.

`Settings.period_pos_iff` is about settings that pass the check of `Settings.validate`. The check
asks for a frequency that is not zero. A period that is not zero takes more than that: there are
frequencies whose period is nearer to nothing than to a nanosecond (`Settings.period_zero_hurried`).
-/

namespace RelayDevice

namespace Nearest

/-- **A whole number nearest** to the quotient `n / d`: it is at most half a unit away. -/
structure IsNearest (t n d : Nat) : Prop where
  lower : 2 * n ≤ (2 * t + 1) * d
  upper : 2 * t * d ≤ 2 * n + d

theorem isNearest_quotient (n : Nat) {d : Nat} (hd : 0 < d) : IsNearest (quotient n d) n d :=
  ⟨(quotient_bounds n d hd).1, (quotient_bounds n d hd).2⟩

/-- **Rounding twice**: first a unit is divided in steps of `1 / scale`, and then as many of these as
there are in `n` units are rounded. On a fine grid the result is nearest to the exact quotient. -/
theorem IsNearest.rescale {q t n d scale : Nat} (fine : n * d < scale)
    (divided : IsNearest q scale d) (rounded : IsNearest t (q * n) scale) : IsNearest t n d := by
  -- a bound that is missed is missed by one at least, since all numbers are whole, and that is more
  -- than the first rounding can have cost
  constructor
  · by_contra! short
    have missed : ((2 * t + 1) * d + 1) * scale ≤ 2 * n * scale := Nat.mul_le_mul_right scale short
    have second := Nat.mul_le_mul_right d rounded.lower
    have first := Nat.mul_le_mul_right n divided.lower
    linarith
  · by_contra! long
    have missed : (2 * n + d + 1) * scale ≤ 2 * t * d * scale := Nat.mul_le_mul_right scale long
    have second := Nat.mul_le_mul_right d rounded.upper
    have first := Nat.mul_le_mul_right n divided.upper
    linarith

end Nearest

namespace SessionSettings

variable {s : SessionSettings}

theorem tickPeriod_eq (running : 0 < s.loopFrequency.toNat) :
    s.tickPeriod =
      Nearest.quotient
        (Nearest.quotient (2 ^ (s.loopFrequency.toNat.log2 + 53)) s.loopFrequency.toNat * 1000000000)
        (2 ^ (s.loopFrequency.toNat.log2 + 53)) := by
  rw [tickPeriod, Nat.max_eq_left running]
  rfl

/-- **The period is nearest** to the exact part of a second. -/
theorem isNearest_tickPeriod (running : 0 < s.loopFrequency.toNat) :
    Nearest.IsNearest s.tickPeriod 1000000000 s.loopFrequency.toNat := by
  have below : s.loopFrequency.toNat < 2 ^ (s.loopFrequency.toNat.log2 + 1) := Nat.lt_log2_self
  -- a quotient has 53 binary digits, and a billion has 30
  have fine : 1000000000 * s.loopFrequency.toNat < 2 ^ (s.loopFrequency.toNat.log2 + 53) := by
    have split : 2 ^ (s.loopFrequency.toNat.log2 + 53)
        = 2 ^ (s.loopFrequency.toNat.log2 + 1) * 2 ^ 52 := by rw [← Nat.pow_add]
    omega
  rw [tickPeriod_eq running]
  exact .rescale fine (Nearest.isNearest_quotient _ running)
    (Nearest.isNearest_quotient _ (Nat.two_pow_pos _))

theorem tickPeriod_of_two_billion (frequency : s.loopFrequency.toNat = 2000000000) :
    s.tickPeriod = 1 := by
  rw [tickPeriod, frequency]
  decide +kernel

/-- The period is a nanosecond at least, unless the frequency is above two billion. -/
theorem tickPeriod_pos_iff (running : 0 < s.loopFrequency.toNat) :
    0 < s.tickPeriod ↔ s.loopFrequency.toNat ≤ 2000000000 := by
  have near := isNearest_tickPeriod running
  rcases Nat.lt_trichotomy s.loopFrequency.toNat 2000000000 with slow | exact | fast
  · refine iff_of_true (Nat.pos_of_ne_zero fun zero => ?_) slow.le
    have := near.lower
    rw [zero] at this
    omega
  · rw [tickPeriod_of_two_billion exact, exact]
    decide
  · refine iff_of_false (fun pos => ?_) (Nat.not_le.2 fast)
    have once : 2 * 1 * s.loopFrequency.toNat ≤ 2 * s.tickPeriod * s.loopFrequency.toNat :=
      Nat.mul_le_mul_right _ (Nat.mul_le_mul_left 2 pos)
    have := near.upper
    omega

end SessionSettings

namespace Settings

/-- What settings that pass the check say about the main loop. -/
theorem loopFrequency_pos_of_validate {s : Settings} (valid : s.validate = .ok ()) :
    0 < s.session.loopFrequency.toNat := by
  refine Nat.pos_of_ne_zero fun zero => ?_
  have stopped : s.session.loopFrequency = 0 := UInt32.toNat_inj.1 zero
  unfold validate at valid
  rw [if_pos stopped] at valid
  split at valid
  · cases valid
  split at valid
  · cases valid
  split at valid
  · cases valid
  · cases valid

/-- **When the main loop has a period.** With settings that pass the check, the period is the number
of nanoseconds that is nearest to the exact part of a second, and it is not zero exactly if the
frequency is two billion at most. -/
theorem period_pos_iff {s : Settings} (valid : s.validate = .ok ()) :
    Nearest.IsNearest s.session.tickPeriod 1000000000 s.session.loopFrequency.toNat ∧
      (1 ≤ s.session.tickPeriod ↔ s.session.loopFrequency.toNat ≤ 2000000000) :=
  ⟨SessionSettings.isNearest_tickPeriod (loopFrequency_pos_of_validate valid),
    SessionSettings.tickPeriod_pos_iff (loopFrequency_pos_of_validate valid)⟩

/-- The settings of an oven with a main loop of a given frequency. -/
def ofFrequency (frequency : UInt32) : Settings :=
  { blank none with
    device := ⟨"oven", "u", "k", none, none⟩
    session := { SessionSettings.standard with loopFrequency := frequency } }

/-- A period of half a nanosecond just becomes a whole one. -/
theorem period_pos_brisk :
    (ofFrequency 2000000000).validate = .ok () ∧
      1 ≤ (ofFrequency 2000000000).session.tickPeriod := by
  have valid : (ofFrequency 2000000000).validate = .ok () := by decide +kernel
  exact ⟨valid, (period_pos_iff valid).2.2 (by decide)⟩

/-- The highest frequency passes the check, and has no period. -/
theorem period_zero_hurried :
    (ofFrequency 4294967295).validate = .ok () ∧
      (ofFrequency 4294967295).session.tickPeriod = 0 := by
  decide +kernel

end Settings

end RelayDevice
