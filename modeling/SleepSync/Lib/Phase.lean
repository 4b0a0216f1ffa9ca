/-
  SleepSync.Lib.Phase

  Windows of time that recur: one in every period, at the same phase.  Whether
  a time is in such a window depends on phases only, so both the time and the
  start of the window may be moved by whole periods.
-/

import Mathlib.Data.Int.ModEq
import Mathlib.Tactic.Ring

namespace Lib

/-- `x` is in one of the windows of length `len` that start at `lo` and every
    `P` before and after. -/
def InWindow (P len lo x : ℤ) : Prop := (x - lo) % P ≤ len

namespace InWindow

variable {P len lo lo' x y r : ℤ}

instance : Decidable (InWindow P len lo x) := inferInstanceAs (Decidable (_ ≤ _))

/-- Only the phase of the time counts. -/
theorem congr (h : x ≡ y [ZMOD P]) : InWindow P len lo x ↔ InWindow P len lo y := by
  unfold InWindow
  rw [h.sub_right lo]

/-- Only the phase of the window counts. -/
theorem congr_start (h : lo ≡ lo' [ZMOD P]) : InWindow P len lo x ↔ InWindow P len lo' x := by
  unfold InWindow
  rw [h.sub_left x]

theorem add_periods (k : ℤ) : InWindow P len lo (x + P * k) ↔ InWindow P len lo x := by
  unfold InWindow
  rw [add_sub_right_comm, Int.add_mul_emod_self_left]

/-- In the window that starts at `lo` itself. -/
theorem of_mem (h_lo : lo ≤ x) (h_hi : x ≤ lo + len) (h_P : x < lo + P) :
    InWindow P len lo x := by
  have h_small : x - lo < P := by omega
  unfold InWindow
  rw [Int.emod_eq_of_lt (Int.sub_nonneg_of_le h_lo) h_small]
  omega

/-- What is in a window, and less than a period after the start of one, is in that one. -/
theorem le_of_mem (h : InWindow P len lo x) (h_lo : lo ≤ x) (h_P : x < lo + P) : x ≤ lo + len := by
  have h_small : x - lo < P := by omega
  unfold InWindow at h
  rw [Int.emod_eq_of_lt (Int.sub_nonneg_of_le h_lo) h_small] at h
  omega

/-- Relative to the start of the window. -/
theorem add_iff : InWindow P len lo (lo + r) ↔ r % P ≤ len := by
  unfold InWindow
  rw [add_sub_cancel_left]

end InWindow

end Lib
