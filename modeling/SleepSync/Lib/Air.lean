/-
  SleepSync.Lib.Air

  Stations that transmit to each other over one medium.

  A station is a machine of its own, and what it has put on the air is part of
  its own state.  Nothing is taken off the air: a transmission may be received by
  any number of stations, again, or by none.  What restricts it is `arrives`, by
  which a label of the receiver can be tied to the transmission, for example by
  its time.

  Each station runs as it would alone (`air_station`).  What then holds of all
  of them together is proved one station at a time: it keeps its own invariant as
  long as what it receives is good, and transmits only what is good.
-/

import Mathlib.Data.Fintype.Basic
import SleepSync.Lib.Watch

namespace Lib

universe u w

structure Stations (ι σ ℓ μ : Type u) (ε : Type w) where
  station : ι → System σ ℓ ε
  /-- what a station has transmitted -/
  onAir : σ → List μ
  /-- the label receives nothing that a station transmits -/
  deaf : ℓ → Prop
  /-- `arrives j i m l`: transmission `m` of station `j` reaches station `i` as `l` -/
  arrives : ι → ι → μ → ℓ → Prop

namespace Stations

variable {ι σ ℓ μ : Type u} {ε : Type w} [DecidableEq ι]

/-- The stations, one step of one of them at a time. -/
def air (S : Stations ι σ ℓ μ ε) : System (ι → σ) (ι × ℓ) ε where
  init s := ∀ i, (S.station i).init (s i)
  enabled s l := (S.station l.1).enabled (s l.1) l.2 ∧
    (S.deaf l.2 ∨ ∃ j, ∃ m ∈ S.onAir (s j), S.arrives j l.1 m l.2)
  step s l := do
    let s' ← (S.station l.1).step (s l.1) l.2
    return Function.update s l.1 s'

instance [Fintype ι] (S : Stations ι σ ℓ μ ε) [h : ∀ i s l, Decidable ((S.station i).enabled s l)]
    [DecidablePred S.deaf] [∀ j i m l, Decidable (S.arrives j i m l)] (s : ι → σ) (l : ι × ℓ) :
    Decidable (S.air.enabled s l) :=
  inferInstanceAs (Decidable (_ ∧ (_ ∨ ∃ j, ∃ m ∈ S.onAir (s j), S.arrives j l.1 m l.2)))

instance (S : Stations ι σ ℓ μ ε) (ok : (ι → σ) → ι × ℓ → Prop)
    [∀ s l, Decidable (S.air.enabled s l)] [h : ∀ s l, Decidable (ok s l)] (s : ι → σ) (l : ι × ℓ) :
    Decidable ((S.air.guarded ok).enabled s l) :=
  inferInstanceAs (Decidable (_ ∧ _))

variable {S : Stations ι σ ℓ μ ε} {ok : (ι → σ) → ι × ℓ → Prop} {s s' : ι → σ}

theorem air_step {l : ι × ℓ} (h : S.air.step s l = .ok s') :
    (S.station l.1).step (s l.1) l.2 = .ok (s' l.1) ∧ ∀ i, i ≠ l.1 → s' i = s i := by
  obtain ⟨r, h_r, rfl⟩ := bind_return_eq_ok.1 h
  refine ⟨?_, fun i h_i => ?_⟩
  · rw [Function.update_self]
    exact h_r
  · rw [Function.update_of_ne h_i]

/-- What one station keeps in every step of its own. -/
theorem air_keeps {P : ι → σ → Prop} {l : ι × ℓ} (h_P : ∀ i, P i (s i))
    (h : S.air.step s l = .ok s') (h_own : P l.1 (s' l.1)) : ∀ i, P i (s' i) := by
  intro i
  by_cases h_i : i = l.1
  · rw [h_i]
    exact h_own
  · rw [(air_step h).2 i h_i]
    exact h_P i

/-- A station among others runs as it does alone, with the steps that it is
    allowed among them. -/
theorem air_station {alone : ι → σ → ℓ → Prop} (h_ok : ∀ s i l, ok s (i, l) → alone i (s i) l)
    (h : (S.air.guarded ok).Reachable s) :
    ∀ i, ((S.station i).guarded (alone i)).Reachable (s i) := by
  refine h.invariant (fun s => ∀ i, ((S.station i).guarded (alone i)).Reachable (s i)) ?_ ?_
  · intro s h_init i
    exact System.Reachable.start (h_init i)
  · rintro s ⟨i, l⟩ s' h_s ⟨⟨h_en, -⟩, h_l⟩ h_step
    exact air_keeps h_s h_step ((h_s i).next ⟨h_en, h_ok s i l h_l⟩ (air_step h_step).1)

/-- The rule for what holds of every station, and of all that is on the air, from
    a reachable state on. -/
theorem air_invariant (I : ι → σ → Prop) (J : ι → μ → Prop) {s₀ : ι → σ}
    (h_start : (S.air.guarded ok).Reachable s₀) (h_run : (S.air.guarded ok).Leads s₀ s)
    (h₀ : ∀ i, I i (s₀ i) ∧ ∀ m ∈ S.onAir (s₀ i), J i m)
    (h_step : ∀ s i l r, (S.air.guarded ok).Reachable s → I i (s i) →
      (∀ m ∈ S.onAir (s i), J i m) → (S.station i).enabled (s i) l → ok s (i, l) →
      (S.deaf l ∨ ∃ j m, J j m ∧ S.arrives j i m l) → (S.station i).step (s i) l = .ok r →
      I i r ∧ ∀ m ∈ S.onAir r, J i m) :
    ∀ i, I i (s i) ∧ ∀ m ∈ S.onAir (s i), J i m := by
  have h_both : (S.air.guarded ok).Reachable s ∧
      ∀ i, I i (s i) ∧ ∀ m ∈ S.onAir (s i), J i m := by
    induction h_run with
    | refl => exact ⟨h_start, h₀⟩
    | @tail s s' _ h_next ih =>
        obtain ⟨⟨i, l⟩, ⟨⟨h_en, h_heard⟩, h_ok⟩, h_s'⟩ := h_next
        obtain ⟨h_reach, h_I⟩ := ih
        refine ⟨h_reach.next ⟨⟨h_en, h_heard⟩, h_ok⟩ h_s', ?_⟩
        have h_good : S.deaf l ∨ ∃ j m, J j m ∧ S.arrives j i m l := by
          rcases h_heard with h_deaf | ⟨j, m, h_m, h_arrives⟩
          · exact Or.inl h_deaf
          · exact Or.inr ⟨j, m, (h_I j).2 m h_m, h_arrives⟩
        exact air_keeps (P := fun i s => I i s ∧ ∀ m ∈ S.onAir s, J i m) h_I h_s'
          (h_step s i l _ h_reach (h_I i).1 (h_I i).2 h_en h_ok h_good (air_step h_s').1)
  exact h_both.2

-- ============================================================================
-- The steps of one station
-- ============================================================================

/-- The step as one of station `i`, if it is. -/
def ownMove (i : ι) (t : Move (ι → σ) (ι × ℓ)) : Option (Move σ ℓ) :=
  if t.label.1 = i then some ⟨t.before i, t.label.2, t.after i⟩ else none

/-- What a station does among others is a run of its own. -/
theorem air_recorded_station {alone : ι → σ → ℓ → Prop}
    (h_ok : ∀ s i l, ok s (i, l) → alone i (s i) l) {w : (ι → σ) × List (Move (ι → σ) (ι × ℓ))}
    (h : (S.air.guarded ok).recorded.Reachable w) (i : ι) :
    ((S.station i).guarded (alone i)).recorded.Reachable (w.1 i, w.2.filterMap (ownMove i)) := by
  refine h.invariant (fun w => ((S.station i).guarded (alone i)).recorded.Reachable
    (w.1 i, w.2.filterMap (ownMove i))) ?_ ?_
  · rintro w ⟨h_init, h_none⟩
    rw [h_none]
    exact System.Reachable.start ⟨h_init i, rfl⟩
  · rintro ⟨s, moves⟩ ⟨j, l⟩ w' h_s ⟨⟨h_en, -⟩, h_l⟩ h_next
    have h_watched := System.watched_step_eq_ok.1 h_next
    have h_moves : w'.2 = ⟨s, (j, l), w'.1⟩ :: moves := h_watched.2
    obtain ⟨h_own, h_others⟩ := air_step (S := S) h_watched.1
    rw [h_moves]
    by_cases h_i : j = i
    · subst h_i
      have h_move : ownMove j ⟨s, (j, l), w'.1⟩ = some (⟨s j, l, w'.1 j⟩ : Move σ ℓ) := if_pos rfl
      rw [List.filterMap_cons_some h_move]
      exact h_s.next ⟨h_en, h_ok s j l h_l⟩ (System.watched_step_eq_ok.2 ⟨h_own, rfl⟩)
    · have h_move : ownMove i (⟨s, (j, l), w'.1⟩ : Move (ι → σ) (ι × ℓ)) = none := if_neg h_i
      rw [List.filterMap_cons_none h_move, h_others i (Ne.symm h_i)]
      exact h_s

end Stations

end Lib
