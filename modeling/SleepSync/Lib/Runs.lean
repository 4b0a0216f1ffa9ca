/-
  SleepSync.Lib.Runs

  Runs of a deterministic machine driven by labels: which labels are enabled
  in a state, and what a label does, which may be to stop at a fault.

  `Reachable` is membership in some run, whatever its length.  The rule is the
  invariant rule: one step lemma gives every reachable state, and the step may be
  known to start in one.  `play` executes a script of labels, so that a concrete
  run is a computation.
-/

import Mathlib.Logic.Relation
import SleepSync.Lib.Outcome

namespace Lib

universe u v w

/-- A machine: `step` gives the next state, or the fault the step stops at. -/
structure System (σ : Type u) (ℓ : Type v) (ε : Type w) where
  init : σ → Prop
  enabled : σ → ℓ → Prop
  step : σ → ℓ → Except ε σ

namespace System

variable {σ : Type u} {ℓ : Type v} {ε : Type w} (M : System σ ℓ ε)

/-- One completed step. -/
def Next (s s' : σ) : Prop :=
  ∃ l, M.enabled s l ∧ M.step s l = .ok s'

/-- `s'` is reached from `s` by completed steps. -/
def Leads (s s' : σ) : Prop :=
  Relation.ReflTransGen M.Next s s'

/-- `s` occurs in some run. -/
def Reachable (s : σ) : Prop :=
  ∃ s₀, M.init s₀ ∧ M.Leads s₀ s

/-- The same machine with every step restricted to those that meet `ok`. -/
def guarded (ok : σ → ℓ → Prop) : System σ ℓ ε where
  init := M.init
  enabled s l := M.enabled s l ∧ ok s l
  step := M.step

variable {M}

theorem Reachable.start {s : σ} (h : M.init s) : M.Reachable s :=
  ⟨s, h, Relation.ReflTransGen.refl⟩

theorem Reachable.next {s s' : σ} {l : ℓ} (h : M.Reachable s) (h_en : M.enabled s l)
    (h_step : M.step s l = .ok s') : M.Reachable s' := by
  obtain ⟨s₀, h_init, h_run⟩ := h
  exact ⟨s₀, h_init, h_run.tail ⟨l, h_en, h_step⟩⟩

theorem Reachable.leads {s s' : σ} (h : M.Reachable s) (h_run : M.Leads s s') :
    M.Reachable s' := by
  obtain ⟨s₀, h_init, h_pre⟩ := h
  exact ⟨s₀, h_init, h_pre.trans h_run⟩

/-- A weaker restriction allows the steps of a stronger one. -/
theorem Leads.guarded_mono {ok ok' : σ → ℓ → Prop} {s s' : σ}
    (h : (M.guarded ok).Leads s s') (h_ok : ∀ s l, ok s l → ok' s l) :
    (M.guarded ok').Leads s s' := by
  refine Relation.ReflTransGen.mono ?_ _ _ h
  rintro a b ⟨l, ⟨h_en, h_l⟩, h_step⟩
  exact ⟨l, ⟨h_en, h_ok a l h_l⟩, h_step⟩

theorem Leads.of_guarded {ok : σ → ℓ → Prop} {s s' : σ}
    (h : (M.guarded ok).Leads s s') : M.Leads s s' := by
  refine Relation.ReflTransGen.mono ?_ _ _ h
  rintro a b ⟨l, ⟨h_en, -⟩, h_step⟩
  exact ⟨l, h_en, h_step⟩

/-- Restricting the steps only removes runs. -/
theorem Reachable.of_guarded {ok : σ → ℓ → Prop} {s : σ}
    (h : (M.guarded ok).Reachable s) : M.Reachable s := by
  obtain ⟨s₀, h_init, h_run⟩ := h
  exact ⟨s₀, h_init, Leads.of_guarded h_run⟩

/-- Every run meets the condition that restricts nothing. -/
theorem Reachable.guarded_true {s : σ} (h : M.Reachable s) :
    (M.guarded (fun _ _ => True)).Reachable s := by
  obtain ⟨s₀, h_init, h_run⟩ := h
  refine ⟨s₀, h_init, Relation.ReflTransGen.mono ?_ _ _ h_run⟩
  rintro a b ⟨l, h_en, h_step⟩
  exact ⟨l, ⟨h_en, trivial⟩, h_step⟩

/-- A restriction that is met in every run of another one. -/
theorem Reachable.guarded_of_reachable {ok ok' : σ → ℓ → Prop} {s : σ}
    (h : (M.guarded ok).Reachable s)
    (h_ok : ∀ s l, (M.guarded ok).Reachable s → M.enabled s l → ok s l → ok' s l) :
    (M.guarded ok').Reachable s := by
  obtain ⟨s₀, h_init, h_run⟩ := h
  induction h_run with
  | refl => exact Reachable.start h_init
  | tail h_pre h_next ih =>
      obtain ⟨l, ⟨h_en, h_l⟩, h_step⟩ := h_next
      exact ih.next ⟨h_en, h_ok _ l ⟨s₀, h_init, h_pre⟩ h_en h_l⟩ h_step

-- ============================================================================
-- Invariants
-- ============================================================================

/-- `I` is kept by every completed step. -/
def Preserves (M : System σ ℓ ε) (I : σ → Prop) : Prop :=
  ∀ s l s', I s → M.enabled s l → M.step s l = .ok s' → I s'

theorem Preserves.leads {I : σ → Prop} (h : M.Preserves I) {s s' : σ}
    (h_run : M.Leads s s') (hs : I s) : I s' := by
  induction h_run with
  | refl => exact hs
  | tail _ h_next ih =>
      obtain ⟨l, h_en, h_step⟩ := h_next
      exact h _ l _ ih h_en h_step

/-- The invariant rule. -/
theorem Reachable.invariant (I : σ → Prop) {s : σ} (h : M.Reachable s)
    (h_init : ∀ s, M.init s → I s) (h_step : M.Preserves I) : I s := by
  obtain ⟨s₀, h₀, h_run⟩ := h
  exact h_step.leads h_run (h_init s₀ h₀)

/-- The invariant rule, where a step is known to start in a reachable state. -/
theorem Reachable.invariant_of_reachable (I : σ → Prop) {s : σ} (h : M.Reachable s)
    (h_init : ∀ s, M.init s → I s)
    (h_step : ∀ s l s', M.Reachable s → I s → M.enabled s l → M.step s l = .ok s' → I s') :
    I s := by
  refine (h.invariant (fun s => M.Reachable s ∧ I s) ?_ ?_).2
  · intro s₀ h₀
    exact ⟨Reachable.start h₀, h_init s₀ h₀⟩
  · rintro s₁ l s₂ ⟨h_reach, h_I⟩ h_en h_next
    exact ⟨h_reach.next h_en h_next, h_step s₁ l s₂ h_reach h_I h_en h_next⟩

-- ============================================================================
-- Concrete runs
-- ============================================================================

/-- Execute a script of labels; `none` if one is not enabled or stops at a
    fault. -/
def play (M : System σ ℓ ε) [∀ s l, Decidable (M.enabled s l)] (s : σ) :
    List ℓ → Option σ
  | [] => some s
  | l :: ls =>
      if M.enabled s l then
        match M.step s l with
        | .ok s' => M.play s' ls
        | .error _ => none
      else
        none

theorem play_leads [∀ s l, Decidable (M.enabled s l)] {ls : List ℓ} :
    ∀ {s s' : σ}, M.play s ls = some s' → M.Leads s s' := by
  induction ls with
  | nil =>
      intro s s' h
      cases h
      exact Relation.ReflTransGen.refl
  | cons l ls ih =>
      intro s s' h
      unfold play at h
      by_cases h_en : M.enabled s l
      · rw [if_pos h_en] at h
        cases h_step : M.step s l with
        | error e =>
            rw [h_step] at h
            cases h
        | ok s₁ =>
            rw [h_step] at h
            exact Relation.ReflTransGen.head ⟨l, h_en, h_step⟩ (ih h)
      · rw [if_neg h_en] at h
        cases h

/-- A script played from an initial state ends in a reachable one. -/
theorem Reachable.of_play [∀ s l, Decidable (M.enabled s l)] {ls : List ℓ} {s₀ s : σ}
    (h_init : M.init s₀) (h : M.play s₀ ls = some s) : M.Reachable s :=
  ⟨s₀, h_init, play_leads h⟩

/-- A script that ends in a state with `P` shows that such a state is led to. -/
theorem Leads.exists_of_play [∀ s l, Decidable (M.enabled s l)] {P : σ → Prop}
    (s₀ : σ) (ls : List ℓ) (h : ∃ s ∈ M.play s₀ ls, P s) : ∃ s, M.Leads s₀ s ∧ P s := by
  obtain ⟨s, h_play, h_P⟩ := h
  exact ⟨s, play_leads h_play, h_P⟩

/-- A script that ends in a state with `P` shows that such a state is reachable. -/
theorem Reachable.exists_of_play [∀ s l, Decidable (M.enabled s l)] {P : σ → Prop}
    (ls : List ℓ) {s₀ : σ} (h_init : M.init s₀) (h : ∃ s ∈ M.play s₀ ls, P s) :
    ∃ s, M.Reachable s ∧ P s := by
  obtain ⟨s, h_play, h_P⟩ := h
  exact ⟨s, Reachable.of_play h_init h_play, h_P⟩

/-- A script that ends in a state from which a label leads to one with `P`. -/
theorem Reachable.exists_step_of_play [∀ s l, Decidable (M.enabled s l)] {P : σ → σ → Prop}
    (ls : List ℓ) (l : ℓ) {s₀ : σ} (h_init : M.init s₀)
    (h : ∃ s ∈ M.play s₀ ls, M.enabled s l ∧ ∃ s' ∈ M.play s [l], P s s') :
    ∃ s s', M.Reachable s ∧ M.enabled s l ∧ M.step s l = .ok s' ∧ P s s' := by
  obtain ⟨s, h_play, h_en, s', h_last, h_P⟩ := h
  refine ⟨s, s', Reachable.of_play h_init h_play, h_en, ?_, h_P⟩
  rw [Option.mem_def] at h_last
  unfold play at h_last
  rw [if_pos h_en] at h_last
  cases h_step : M.step s l with
  | error e =>
      rw [h_step] at h_last
      cases h_last
  | ok s₁ =>
      rw [h_step] at h_last
      cases h_last
      rfl

end System

end Lib
