/-
  SleepSync.Lib.Pointers

  Every node points to a node, and the rank of what it points to is not
  greater than its own.  If nodes of the same rank are the same node, following
  the pointers never returns to a node that was left, and ends at a node that
  points to itself.
-/

import Mathlib.Order.WellFounded
import Mathlib.Logic.Function.Iterate

namespace Lib

universe u v

/-- Pointers that never go up in a rank. -/
structure Descending {α : Type u} {β : Type v} [LinearOrder β] (rank : α → β)
    (pointer : α → α) : Prop where
  rank_injective : Function.Injective rank
  rank_le : ∀ a, rank (pointer a) ≤ rank a

namespace Descending

variable {α : Type u} {β : Type v} [LinearOrder β] {rank : α → β} {pointer : α → α}

/-- A node either points to itself or strictly down. -/
theorem fixed_or_lt (h : Descending rank pointer) (a : α) :
    pointer a = a ∨ rank (pointer a) < rank a := by
  rcases (h.rank_le a).eq_or_lt with h_eq | h_lt
  · exact Or.inl (h.rank_injective h_eq)
  · exact Or.inr h_lt

theorem rank_iterate_le (h : Descending rank pointer) (n : ℕ) (a : α) :
    rank (pointer^[n] a) ≤ rank a := by
  induction n with
  | zero => exact le_rfl
  | succ n ih =>
      rw [Function.iterate_succ_apply']
      exact (h.rank_le _).trans ih

/-- There is no cycle but a node that points to itself. -/
theorem fixed_of_iterate_eq (h : Descending rank pointer) {n : ℕ} {a : α}
    (h_cycle : pointer^[n + 1] a = a) : pointer a = a := by
  refine (h.fixed_or_lt a).resolve_right fun h_lt => ?_
  have h_back : rank (pointer^[n] (pointer a)) ≤ rank (pointer a) :=
    h.rank_iterate_le n (pointer a)
  rw [← Function.iterate_succ_apply, h_cycle] at h_back
  exact absurd h_lt (not_lt_of_ge h_back)

/-- Following the pointers ends. -/
theorem exists_fixed [WellFoundedLT β] (h : Descending rank pointer) (a : α) :
    ∃ n, pointer (pointer^[n] a) = pointer^[n] a := by
  induction h_rank : rank a using WellFoundedLT.induction generalizing a with
  | ind r ih =>
      rcases h.fixed_or_lt a with h_fixed | h_lt
      · exact ⟨0, h_fixed⟩
      · obtain ⟨n, h_n⟩ := ih _ (h_rank ▸ h_lt) (pointer a) rfl
        exact ⟨n + 1, by rwa [Function.iterate_succ_apply]⟩

/-- A node of the least rank points to itself. -/
theorem fixed_of_least (h : Descending rank pointer) {a : α}
    (h_least : ∀ b, rank a ≤ rank b) : pointer a = a :=
  (h.fixed_or_lt a).resolve_right (not_lt_of_ge (h_least (pointer a)))

end Descending

end Lib
