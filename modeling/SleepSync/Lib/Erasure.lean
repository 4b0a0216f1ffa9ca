/-
  SleepSync.Lib.Erasure

  Steps that can be left out of a run.

  `R s t` relates a state to the one reached without those steps, perhaps by a
  machine that does not have them.  An erased step leaves the other state where it
  is; any other one is possible in it too, with the same outcome.  Then a run
  without them exists, with all other labels in order.

  Stations among others: if what each has put on the air is not changed by what is
  erased, the others can do without it too.
-/

import SleepSync.Lib.Air

namespace Lib

universe u v w

variable {σ : Type u} {ℓ : Type v} {ε : Type w}

/-- `N` does what `M` does without the steps whose labels are `noise`. -/
structure Erases (M N : System σ ℓ ε) (noise : ℓ → Bool) (R : σ → σ → Prop) : Prop where
  init : ∀ s, M.init s → N.init s ∧ R s s
  erased : ∀ s t l s', R s t → M.enabled s l → M.step s l = .ok s' → noise l = true → R s' t
  enabled : ∀ s t l, R s t → M.enabled s l → noise l = false → N.enabled t l
  kept : ∀ s t l s', R s t → M.step s l = .ok s' → noise l = false →
    ∃ t', N.step t l = .ok t' ∧ R s' t'
  stops : ∀ s t l flt, R s t → M.step s l = .error flt → noise l = false →
    N.step t l = .error flt

namespace Erases

variable {M N : System σ ℓ ε} {noise : ℓ → Bool} {R : σ → σ → Prop}

/-- For every run there is one without the noise. -/
theorem recorded (h : Erases M N noise R) {w : σ × List (Move σ ℓ)}
    (h_run : M.recorded.Reachable w) :
    ∃ v, N.recorded.Reachable v ∧ R w.1 v.1 ∧
      v.2.map Move.label = (w.2.map Move.label).filter fun l => !noise l := by
  refine h_run.invariant (fun w => ∃ v, N.recorded.Reachable v ∧ R w.1 v.1 ∧
    v.2.map Move.label = (w.2.map Move.label).filter fun l => !noise l) ?_ ?_
  · rintro ⟨s, moves⟩ ⟨h_init, h_none⟩
    have h_moves : moves = [] := h_none
    subst h_moves
    obtain ⟨h_N, h_R⟩ := h.init s h_init
    exact ⟨(s, []), System.Reachable.start ⟨h_N, rfl⟩, h_R, rfl⟩
  · rintro ⟨s, moves⟩ l ⟨s', moves'⟩ ⟨⟨t, kept⟩, h_t, h_R, h_labels⟩ h_en h_next
    obtain ⟨h_step, h_moves⟩ := System.watched_step_eq_ok.1 h_next
    have h_cons : moves' = ⟨s, l, s'⟩ :: moves := h_moves
    subst h_cons
    cases h_noise : noise l with
    | true =>
        refine ⟨(t, kept), h_t, h.erased s t l s' h_R h_en h_step h_noise, ?_⟩
        rw [List.map_cons, List.filter_cons_of_neg (by simp [h_noise])]
        exact h_labels
    | false =>
        have h_en_t := h.enabled s t l h_R h_en h_noise
        obtain ⟨t', h_step_t, h_R'⟩ := h.kept s t l s' h_R h_step h_noise
        refine ⟨(t', ⟨t, l, t'⟩ :: kept),
          h_t.next h_en_t (System.watched_step_eq_ok.2 ⟨h_step_t, rfl⟩), h_R', ?_⟩
        rw [List.map_cons, List.map_cons, List.filter_cons_of_pos (by simp [h_noise])]
        exact congrArg (List.cons l) h_labels

end Erases

/-- What each station can do without, all of them can. -/
theorem Erases.air {ι σ ℓ μ : Type u} [DecidableEq ι] {S T : Stations ι σ ℓ μ ε}
    {noise : ℓ → Bool} {R : ι → σ → σ → Prop}
    (h : ∀ i, Erases (S.station i) (T.station i) noise (R i))
    (h_onAir : ∀ i s t, R i s t → S.onAir s = T.onAir t)
    (h_deaf : ∀ l, noise l = false → S.deaf l → T.deaf l)
    (h_arrives : ∀ j i m l, S.arrives j i m l → T.arrives j i m l) :
    Erases S.air T.air (fun l => noise l.2) fun s t => ∀ i, R i (s i) (t i) where
  init s h_init := forall_and.1 fun i => (h i).init (s i) (h_init i)
  erased s t l s' h_R h_en h_step h_noise := by
    obtain ⟨h_own, h_others⟩ := Stations.air_step h_step
    intro i
    by_cases h_i : i = l.1
    · subst h_i
      exact (h l.1).erased _ _ _ _ (h_R l.1) h_en.1 h_own h_noise
    · rw [h_others i h_i]
      exact h_R i
  enabled s t l h_R h_en h_noise := by
    refine ⟨(h l.1).enabled _ _ _ (h_R l.1) h_en.1 h_noise, ?_⟩
    rcases h_en.2 with h_hears | ⟨j, m, h_m, h_hears⟩
    · exact Or.inl (h_deaf _ h_noise h_hears)
    · rw [h_onAir j _ _ (h_R j)] at h_m
      exact Or.inr ⟨j, m, h_m, h_arrives _ _ _ _ h_hears⟩
  kept s t l s' h_R h_step h_noise := by
    obtain ⟨h_own, h_others⟩ := Stations.air_step h_step
    obtain ⟨r, h_r, h_R'⟩ := (h l.1).kept _ _ _ _ (h_R l.1) h_own h_noise
    refine ⟨Function.update t l.1 r, bind_return_eq_ok.2 ⟨r, h_r, rfl⟩, fun i => ?_⟩
    by_cases h_i : i = l.1
    · subst h_i
      rw [Function.update_self]
      exact h_R'
    · rw [Function.update_of_ne h_i, h_others i h_i]
      exact h_R i
  stops s t l flt h_R h_step h_noise :=
    bind_return_eq_error.2
      ((h l.1).stops _ _ _ _ (h_R l.1) (bind_return_eq_error.1 h_step) h_noise)

end Lib
