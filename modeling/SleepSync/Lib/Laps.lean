/-
  SleepSync.Lib.Laps

  A position that moves on by a stride and returns to the start of its lap when
  another stride would end beyond the limit.

  From wherever it stands, each of the positions of a lap comes up within as many
  moves as the limit: at most the rest of the lap it is in, which it may have
  entered out of step, and one lap from the start.
-/

import Mathlib.Logic.Function.Iterate
import Mathlib.Tactic.Common

namespace Lib

/-- One move. -/
def lap (limit stride y : Nat) : Nat :=
  if limit < y + stride + stride then 0 else y + stride

namespace Laps

variable {limit stride y k : Nat}

@[simp] theorem lap_of_lt (h : limit < y + stride + stride) : lap limit stride y = 0 :=
  if_pos h

@[simp] theorem lap_of_le (h : y + stride + stride ≤ limit) :
    lap limit stride y = y + stride :=
  if_neg (Nat.not_lt_of_le h)

/-- Within a lap, each move is a stride. -/
theorem iterate_lap (k : Nat) (h : y + k * stride + stride ≤ limit) :
    (lap limit stride)^[k] y = y + k * stride := by
  induction k with
  | zero => simp
  | succ k ih =>
      rw [Nat.succ_mul] at h
      rw [Function.iterate_succ_apply', ih (by omega), lap_of_le (by omega), Nat.succ_mul]
      omega

/-- The lap a position is in ends, where it has not a stride left at once. -/
theorem exists_iterate_lap_eq_zero (h_stride : 0 < stride) (limit y : Nat) :
    ∃ n, 0 < n ∧ (n = 1 ∨ y + n * stride ≤ limit) ∧ (lap limit stride)^[n] y = 0 := by
  induction h : limit - y using Nat.strongRecOn generalizing y with
  | ind m ih =>
      by_cases h_end : limit < y + stride + stride
      · exact ⟨1, Nat.one_pos, Or.inl rfl, lap_of_lt h_end⟩
      · have h_le : y + stride + stride ≤ limit := Nat.le_of_not_lt h_end
        obtain ⟨n, h_pos, h_n, h_zero⟩ :=
          ih (limit - (y + stride)) (by omega) (y + stride) rfl
        refine ⟨n + 1, Nat.succ_pos n, Or.inr ?_, ?_⟩
        · rw [Nat.succ_mul]
          rcases h_n with rfl | h_n
          · omega
          · omega
        · rw [Function.iterate_succ_apply, lap_of_le h_le]
          exact h_zero

/-- The rest of a lap and another one. -/
theorem visits_after_zero (h_stride : 0 < stride) (h_k : k * stride + stride ≤ limit) (y : Nat) :
    ∃ n, 0 < n ∧ ((n + 1) * stride ≤ limit + stride ∨
      y + (n + 1) * stride ≤ limit + limit) ∧ (lap limit stride)^[n] y = k * stride := by
  obtain ⟨n, h_pos, h_n, h_zero⟩ := exists_iterate_lap_eq_zero h_stride limit y
  refine ⟨k + n, by omega, ?_, ?_⟩
  · rw [Nat.succ_mul, Nat.add_mul]
    rcases h_n with rfl | h_n
    · left
      omega
    · right
      omega
  · rw [Function.iterate_add_apply, h_zero, iterate_lap k (by omega), Nat.zero_add]

/-- Every position of a lap comes up within `limit` moves. -/
theorem visits (h_stride : 0 < stride) (h_k : k * stride + stride ≤ limit) (y : Nat) :
    ∃ n, 0 < n ∧ n ≤ limit ∧ (lap limit stride)^[n] y = k * stride := by
  rcases Nat.eq_or_lt_of_le (Nat.succ_le_of_lt h_stride) with h_one | h_two
  · -- with a stride of one no position is out of step, and one lap is enough
    subst h_one
    by_cases h_ahead : y < k
    · refine ⟨k - y, by omega, by omega, ?_⟩
      rw [iterate_lap _ (by omega)]
      omega
    · obtain ⟨n, h_pos, h_n, h_zero⟩ := exists_iterate_lap_eq_zero Nat.one_pos limit y
      refine ⟨k + n, by omega, by omega, ?_⟩
      rw [Function.iterate_add_apply, h_zero, iterate_lap k (by omega), Nat.zero_add]
  · obtain ⟨n, h_pos, h_n, h_eq⟩ := visits_after_zero h_stride h_k y
    refine ⟨n, h_pos, ?_, h_eq⟩
    have h_twice : (n + 1) * 2 ≤ (n + 1) * stride := Nat.mul_le_mul_left (n + 1) h_two
    rcases h_n with h_n | h_n
    · have h_room : stride ≤ limit := by omega
      have h_first : n * stride ≤ limit := by
        rw [Nat.succ_mul] at h_n
        omega
      exact Nat.le_trans (Nat.le_mul_of_pos_right n h_stride) h_first
    · omega

end Laps

end Lib
