import Mathlib.Algebra.GroupWithZero.Nat
import Mathlib.Tactic.Common

namespace backoff

/-- Doubling a delay up to a cap. -/
def next (cap delay : Nat) : Nat := min (delay * 2) cap

/-- The delay that follows `n` failures in a row; the first one is a single unit. -/
def after (cap : Nat) : Nat → Nat
  | 0 => 1
  | n + 1 => next cap (after cap n)

/-- A delay that pauses, is no longer than the cap or one unit, and can be doubled
below `limit`. -/
structure Bounded (limit cap delay : Nat) : Prop where
  pauses : 1 ≤ delay
  capped : delay ≤ max 1 cap
  doubles : delay * 2 < limit

variable {limit cap delay : Nat}

@[simp] theorem after_zero : after cap 0 = 1 := rfl

@[simp] theorem after_succ (n : Nat) : after cap (n + 1) = next cap (after cap n) := rfl

theorem Bounded.one (hlimit : 2 < limit) : Bounded limit cap 1 := by
  constructor <;> omega

/-- A cap of at least one unit that can be doubled keeps every delay bounded. -/
theorem Bounded.next (hcap : 1 ≤ cap) (hdouble : cap * 2 < limit) (h : Bounded limit cap delay) :
    Bounded limit cap (next cap delay) := by
  have hpauses := h.pauses
  constructor <;> rw [backoff.next] <;> omega

theorem after_eq_min (hcap : 1 ≤ cap) (n : Nat) : after cap n = min (2 ^ n) cap := by
  induction n with
  | zero =>
    rw [after_zero]
    omega
  | succ n ih =>
    rw [after_succ, ih, next, Nat.pow_succ]
    omega

/-- The cap is reached. -/
theorem after_cap (hcap : 1 ≤ cap) : after cap cap = cap := by
  have hlt := Nat.lt_two_pow_self (n := cap)
  rw [after_eq_min hcap]
  omega

/-- All delays after failures in a row are bounded exactly for such a cap. -/
theorem bounded_after_iff (hlimit : 2 < limit) :
    (∀ n, Bounded limit cap (after cap n)) ↔ 1 ≤ cap ∧ cap * 2 < limit := by
  constructor
  · intro hall
    have hcap : 1 ≤ cap := by
      have hsecond := (hall 1).pauses
      rw [after_succ, after_zero, next] at hsecond
      omega
    have hdouble := (hall cap).doubles
    rw [after_cap hcap] at hdouble
    exact ⟨hcap, hdouble⟩
  · rintro ⟨hcap, hdouble⟩ n
    induction n with
    | zero => exact .one hlimit
    | succ n ih => exact ih.next hcap hdouble

end backoff
