/-
  SleepSync.Lib.Drift

  Clocks whose rates are off by a bounded part.

  A clock is read in ticks, and `time` is when it reads them, by a common clock that
  no one reads.  Two such clocks that agree at a reading of each drift apart by at
  most twice the rate for each tick after it.
-/

import Mathlib.Algebra.Order.Ring.Abs
import Mathlib.Data.Nat.Cast.Order.Ring
import Mathlib.Tactic.Linarith
import Mathlib.Tactic.Ring

namespace Lib

universe u

/-- A tick of the clock is off by `ρ` at most. -/
structure DriftingClock (K : Type u) [CommRing K] [LinearOrder K] [IsStrictOrderedRing K]
    (ρ : K) where
  time : ℕ → K
  rate : ∀ x n : ℕ, |time (x + n) - time x - n| ≤ ρ * n

namespace DriftingClock

variable {K : Type u} [CommRing K] [LinearOrder K] [IsStrictOrderedRing K] {ρ : K}

theorem time_add_le (A : DriftingClock K ρ) (x n : ℕ) :
    A.time (x + n) ≤ A.time x + n + ρ * n := by
  have h_rate := (abs_le.1 (A.rate x n)).2
  linarith

theorem le_time_add (A : DriftingClock K ρ) (x n : ℕ) :
    A.time x + n - ρ * n ≤ A.time (x + n) := by
  have h_rate := (abs_le.1 (A.rate x n)).1
  linarith

theorem rate_nonneg (A : DriftingClock K ρ) : 0 ≤ ρ := by
  have h_rate := (abs_nonneg _).trans (A.rate 0 1)
  rwa [Nat.cast_one, mul_one] at h_rate

/-- A clock that loses less than all of its time goes on. -/
theorem time_le_iff (A : DriftingClock K ρ) (h_ρ : ρ < 1) {x y : ℕ} :
    A.time x ≤ A.time y ↔ x ≤ y := by
  refine ⟨fun h => ?_, fun h => ?_⟩
  · by_contra h_lt
    obtain ⟨n, rfl⟩ := Nat.exists_eq_add_of_lt (Nat.not_le.1 h_lt)
    have h_later := A.le_time_add y (n + 1)
    have h_ticks : (0 : K) < ((n + 1 : ℕ) : K) := Nat.cast_pos.2 (Nat.succ_pos n)
    have h_gain : 0 < (1 - ρ) * ((n + 1 : ℕ) : K) := mul_pos (sub_pos.2 h_ρ) h_ticks
    have h_le : A.time (y + (n + 1)) ≤ A.time y := h
    rw [sub_mul, one_mul] at h_gain
    linarith
  · obtain ⟨n, rfl⟩ := Nat.exists_eq_add_of_le h
    have h_later := A.le_time_add x n
    have h_gain : 0 ≤ (1 - ρ) * (n : K) := mul_nonneg (sub_nonneg.2 h_ρ.le) (Nat.cast_nonneg n)
    rw [sub_mul, one_mul] at h_gain
    linarith

/-- After the same number of ticks on both. -/
theorem apart_add (A B : DriftingClock K ρ) {x y : ℕ} {δ : K} (n : ℕ)
    (h : |A.time x - B.time y| ≤ δ) : |A.time (x + n) - B.time (y + n)| ≤ δ + 2 * (ρ * n) := by
  obtain ⟨h_above, h_below⟩ := abs_le.1 h
  have h_A := A.time_add_le x n
  have h_A' := A.le_time_add x n
  have h_B := B.time_add_le y n
  have h_B' := B.le_time_add y n
  exact abs_le.2 ⟨by linarith, by linarith⟩

/-- The clock that reads `start` at the beginning and whose ticks are long by `part`. -/
def steady (ρ : K) (start : ℕ) (part : K) (h : |part| ≤ ρ) : DriftingClock K ρ where
  time x := (1 + part) * ((x : K) - start)
  rate x n := by
    have h_off : (1 + part) * (((x + n : ℕ) : K) - start) - (1 + part) * ((x : K) - start) - n =
        part * n := by
      push_cast
      ring
    rw [h_off, abs_mul, Nat.abs_cast]
    exact mul_le_mul_of_nonneg_right h (Nat.cast_nonneg n)

theorem steady_add {start : ℕ} {part : K} (h : |part| ≤ ρ) (x n : ℕ) :
    (steady ρ start part h).time (x + n) = (steady ρ start part h).time x + (1 + part) * n := by
  unfold steady
  dsimp only
  push_cast
  ring

end DriftingClock

end Lib
