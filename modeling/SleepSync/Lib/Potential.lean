/-
  SleepSync.Lib.Potential

  Counting the steps of a run by a potential.

  Some steps lower the potential, and those that may raise it are counted too.
  As it is bounded, what raises it pays for what lowers it: between two raises,
  and before the first, it is lowered at most as often as the bound says.

  The potential of use here counts what is of lesser rank (`below`).
-/

import Mathlib.Algebra.BigOperators.Group.Finset.Basic
import Mathlib.Algebra.Order.BigOperators.Group.Finset
import Mathlib.Combinatorics.Enumerative.DoubleCounting
import Mathlib.Data.Nat.Choose.Basic
import SleepSync.Lib.Watch

namespace Lib

universe u v w

-- ============================================================================
-- Steps that lower a potential
-- ============================================================================

namespace System

variable {σ : Type u} {ℓ : Type v} {ε : Type w} {M : System σ ℓ ε}

/-- The steps that lower the potential are paid for by those that raise it. -/
theorem Reachable.recorded_paid (potential : σ → Nat) {bound : Nat}
    {lowers raises : Move σ ℓ → Bool} {w : σ × List (Move σ ℓ)} (h : M.recorded.Reachable w)
    (h_bound : ∀ s, M.Reachable s → potential s ≤ bound)
    (h_lowers : ∀ t, M.Reachable t.before → M.enabled t.before t.label →
      M.step t.before t.label = .ok t.after → lowers t = true →
        potential t.after < potential t.before)
    (h_raises : ∀ t, M.Reachable t.before → M.enabled t.before t.label →
      M.step t.before t.label = .ok t.after → raises t = false →
        potential t.after ≤ potential t.before) :
    w.2.countP lowers + potential w.1 ≤ bound * (w.2.countP raises + 1) := by
  refine Reachable.watched_invariant (fun s moves =>
    moves.countP lowers + potential s ≤ bound * (moves.countP raises + 1)) h.guarded_true ?_ ?_
  · intro s h_init
    show 0 + potential s ≤ bound * (0 + 1)
    have h_s := h_bound s (Reachable.start h_init)
    omega
  · intro s moves l s' h_s h_moves h_en _ h_step
    have h_s' : potential s' ≤ bound := h_bound s' (h_s.next h_en h_step)
    have h_low := h_lowers ⟨s, l, s'⟩ h_s h_en h_step
    have h_same := h_raises ⟨s, l, s'⟩ h_s h_en h_step
    have h_more : bound * (moves.countP raises + 1 + 1) =
        bound * (moves.countP raises + 1) + bound := Nat.mul_succ _ _
    dsimp only at h_low h_same
    -- only a step that raises the potential and does not lower it needs the bound
    by_cases h_falls : lowers ⟨s, l, s'⟩ = true
    · have h_lt := h_low h_falls
      rw [List.countP_cons_of_pos h_falls]
      by_cases h_rises : raises ⟨s, l, s'⟩ = true
      · rw [List.countP_cons_of_pos h_rises]
        omega
      · rw [List.countP_cons_of_neg h_rises]
        omega
    · rw [List.countP_cons_of_neg h_falls]
      by_cases h_rises : raises ⟨s, l, s'⟩ = true
      · rw [List.countP_cons_of_pos h_rises]
        omega
      · have h_le := h_same (Bool.eq_false_of_not_eq_true h_rises)
        rw [List.countP_cons_of_neg h_rises]
        omega

end System

-- ============================================================================
-- What is of lesser rank
-- ============================================================================

section Below

variable {α : Type u} {β : Type v} [Fintype α] [LinearOrder β] {rank : α → β}

/-- How many are of a rank less than `b`. -/
def below (rank : α → β) (b : β) : Nat :=
  (Finset.univ.filter fun a => rank a < b).card

theorem below_mono {b b' : β} (h : b' ≤ b) : below rank b' ≤ below rank b := by
  refine Finset.card_le_card fun a h_a => ?_
  simp only [Finset.mem_filter, Finset.mem_univ, true_and] at h_a ⊢
  exact lt_of_lt_of_le h_a h

/-- What is itself of rank `b'` makes the difference. -/
theorem below_lt {b b' : β} (h : b' < b) (h_rank : ∃ a, b' = rank a) :
    below rank b' < below rank b := by
  obtain ⟨a, rfl⟩ := h_rank
  have h_sub : (Finset.univ.filter fun x => rank x < rank a) ⊆
      Finset.univ.filter fun x => rank x < b := by
    intro x h_x
    simp only [Finset.mem_filter, Finset.mem_univ, true_and] at h_x ⊢
    exact h_x.trans h
  have h_a : a ∈ Finset.univ.filter fun x => rank x < b := by simpa using h
  have h_not : a ∉ Finset.univ.filter fun x => rank x < rank a := by simp
  exact Finset.card_lt_card ((Finset.ssubset_iff_of_subset h_sub).2 ⟨a, h_a, h_not⟩)

/-- Of each two, one is below the other. -/
theorem sum_below (h_inj : Function.Injective rank) :
    ∑ a, below rank (rank a) = (Fintype.card α).choose 2 := by
  classical
  have h_swap : ∑ a, below rank (rank a) =
      ∑ a, (Finset.univ.filter fun b => rank a < rank b).card :=
    (Finset.sum_card_bipartiteAbove_eq_sum_card_bipartiteBelow fun a b => rank a < rank b).symm
  have h_others : ∀ a, below rank (rank a) +
      (Finset.univ.filter fun b => rank a < rank b).card = Fintype.card α - 1 := by
    intro a
    unfold below
    rw [← Finset.card_union_of_disjoint, ← Finset.filter_or]
    · have h_ne : (Finset.univ.filter fun b => rank b < rank a ∨ rank a < rank b) =
          Finset.univ.erase a := by
        ext b
        simp only [Finset.mem_filter, Finset.mem_univ, true_and, Finset.mem_erase, and_true]
        rw [← ne_iff_lt_or_gt]
        exact h_inj.ne_iff
      rw [h_ne, Finset.card_erase_of_mem (Finset.mem_univ a), Finset.card_univ]
    · refine Finset.disjoint_filter.2 fun b _ h_lt h_gt => ?_
      exact absurd h_lt (not_lt_of_gt h_gt)
  have h_twice : ∑ a, below rank (rank a) + ∑ a, below rank (rank a) =
      Fintype.card α * (Fintype.card α - 1) := by
    nth_rewrite 2 [h_swap]
    rw [← Finset.sum_add_distrib, Finset.sum_congr rfl fun a _ => h_others a,
      Finset.sum_const, Finset.card_univ, nsmul_eq_mul, Nat.cast_id]
  rw [Nat.choose_two_right]
  omega

end Below

end Lib
