/-!
# Rounding quotients

`Nearest.quotient` is the whole number nearest to a quotient; of two equally near ones it is the
even one.
-/

namespace RelayDevice

namespace Nearest

/-- The whole number nearest to `n / d`, and the even one of two. -/
def quotient (n d : Nat) : Nat :=
  if d < 2 * (n % d) ∨ (2 * (n % d) = d ∧ n / d % 2 = 1) then n / d + 1 else n / d

/-- The rounded quotient is at most half a unit away. -/
theorem quotient_bounds (n d : Nat) (hd : 0 < d) :
    2 * n ≤ (2 * quotient n d + 1) * d ∧ 2 * quotient n d * d ≤ 2 * n + d := by
  have hsplit := Nat.div_add_mod n d
  have hlt := Nat.mod_lt n hd
  rw [Nat.mul_comm] at hsplit
  unfold quotient
  split <;> constructor <;>
    simp only [Nat.add_mul, Nat.mul_add, Nat.one_mul, Nat.mul_assoc] <;> omega

end Nearest

end RelayDevice
