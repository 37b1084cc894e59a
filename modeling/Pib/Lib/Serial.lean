-- Serial numbers: counters kept modulo `2 * H` and ordered by the sign of
-- their difference. As long as two counters are less than `H` apart, the
-- wrapped difference is the real one.
import Mathlib.Tactic

namespace Serial

variable {H : Nat} {a b : Int}

/-- The signed difference of two serial numbers. -/
def sdiff (H : Nat) (a b : Int) : Int := Int.bmod (a - b) (2 * H)

theorem sdiff_congr {A B : Int} (ha : a % (2 * H : Nat) = A % (2 * H : Nat))
    (hb : b % (2 * H : Nat) = B % (2 * H : Nat)) : sdiff H a b = sdiff H A B := by
  unfold sdiff
  have h : (a - b) % (2 * H : Nat) = (A - B) % (2 * H : Nat) :=
    Int.ModEq.sub (n := (2 * H : Nat)) ha hb
  rw [← Int.emod_bmod (a - b), h, Int.emod_bmod]

theorem sdiff_small (h1 : -(H : Int) ≤ a - b) (h2 : a - b < H) :
    sdiff H a b = a - b := by
  unfold sdiff
  apply Int.bmod_eq_of_le
  · push_cast; omega
  · push_cast; omega

/-- Two counters that are less than `H` apart are compared as they are,
whatever representatives of them are at hand. -/
theorem sdiff_eq {A B : Int} (ha : a % (2 * H : Nat) = A % (2 * H : Nat))
    (hb : b % (2 * H : Nat) = B % (2 * H : Nat)) (h1 : -(H : Int) ≤ A - B) (h2 : A - B < H) :
    sdiff H a b = A - B := by
  rw [sdiff_congr ha hb, sdiff_small h1 h2]

theorem sdiff_bounds (hH : 0 < H) (a b : Int) :
    -(H : Int) ≤ sdiff H a b ∧ sdiff H a b < H := by
  unfold sdiff
  have h1 := Int.le_bmod (x := a - b) (m := 2 * H) (by omega)
  have h2 := Int.bmod_lt (x := a - b) (m := 2 * H) (by omega)
  push_cast at h1 h2
  omega

/-- The difference is right modulo `2 * H`, near or far. -/
theorem sdiff_emod (H : Nat) (a b : Int) :
    sdiff H a b % (2 * H : Nat) = (a - b) % (2 * H : Nat) := by
  unfold sdiff
  exact Int.bmod_emod

/-- The latest counter value below `r` that is written `p`. -/
def latestBelow (M r p : Nat) : Nat := r - 1 - (r - 1 + (M - p % M)) % M

end Serial
