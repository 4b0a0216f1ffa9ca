/-
  SleepSync.Lib.Watch

  History variables.  What a property says about the past of a run, and the
  machine itself does not remember, is kept beside the state: the watched
  machine takes the same steps and notes each of them.

  No step depends on what is noted: the watched machine reaches states that the
  machine reaches, each with what was noted on the way.  What is noted can be more
  than the machine is told, where the labels are tagged with it.

  The recorded machine notes every step it takes.  A property of all the steps
  of a run is then one of the state it ends in.
-/

import SleepSync.Lib.Runs

namespace Lib

namespace System

universe u v w x

variable {σ : Type u} {ℓ : Type v} {ε : Type w} {γ : Type x}

/-- `note s l s' g` is what `g` becomes when `l` leads from `s` to `s'`. -/
def watched (M : System σ ℓ ε) (start : γ) (note : σ → ℓ → σ → γ → γ) :
    System (σ × γ) ℓ ε where
  init w := M.init w.1 ∧ w.2 = start
  enabled w l := M.enabled w.1 l
  step w l :=
    match M.step w.1 l with
    | .ok s' => .ok (s', note w.1 l s' w.2)
    | .error flt => .error flt

instance (M : System σ ℓ ε) (start : γ) (note : σ → ℓ → σ → γ → γ)
    [h : ∀ s l, Decidable (M.enabled s l)] (w : σ × γ) (l : ℓ) :
    Decidable ((M.watched start note).enabled w l) :=
  h w.1 l

variable {M : System σ ℓ ε} {start : γ} {note : σ → ℓ → σ → γ → γ}

theorem watched_step_eq_ok {w w' : σ × γ} {l : ℓ} :
    (M.watched start note).step w l = .ok w' ↔
      M.step w.1 l = .ok w'.1 ∧ w'.2 = note w.1 l w'.1 w.2 := by
  obtain ⟨s', g'⟩ := w'
  unfold watched
  dsimp only
  cases h : M.step w.1 l with
  | error flt =>
      refine ⟨fun h_eq => ?_, fun h_eq => ?_⟩
      · cases h_eq
      · cases h_eq.1
  | ok s =>
      dsimp only
      rw [Except.ok.injEq, Except.ok.injEq, Prod.mk.injEq]
      refine and_congr_right fun h_s => ?_
      rw [h_s]
      exact eq_comm

/-- Watching adds no runs. -/
theorem Reachable.unwatched {w : σ × γ} (h : (M.watched start note).Reachable w) :
    M.Reachable w.1 := by
  refine h.invariant (fun w => M.Reachable w.1) ?_ ?_
  · rintro w ⟨h_init, -⟩
    exact Reachable.start h_init
  · intro w l w' h_w h_en h_step
    exact h_w.next h_en (watched_step_eq_ok.1 h_step).1

/-- The invariant rule for a watched machine, whose states are known to be
    reachable ones of the machine. -/
theorem Reachable.watched_invariant (I : σ → γ → Prop) {ok : σ × γ → ℓ → Prop} {w : σ × γ}
    (h : ((M.watched start note).guarded ok).Reachable w) (h_init : ∀ s, M.init s → I s start)
    (h_step : ∀ s g l s', M.Reachable s → I s g → M.enabled s l → ok (s, g) l →
      M.step s l = .ok s' → I s' (note s l s' g)) : I w.1 w.2 := by
  refine h.invariant_of_reachable (fun w => I w.1 w.2) ?_ ?_
  · rintro ⟨s, g⟩ ⟨h_s, h_g⟩
    have h_start : g = start := h_g
    rw [h_start]
    exact h_init s h_s
  · rintro ⟨s, g⟩ l w' h_reach h_I ⟨h_en, h_ok⟩ h_next
    have h_watched : (M.watched start note).step (s, g) l = .ok w' := h_next
    obtain ⟨h_s', h_g'⟩ := watched_step_eq_ok.1 h_watched
    rw [h_g']
    exact h_step s g l w'.1 h_reach.of_guarded.unwatched h_I h_en h_ok h_s'

/-- The same from a given state on. -/
theorem Leads.watched_invariant (I : σ → γ → Prop) {ok : σ × γ → ℓ → Prop} {w₀ w : σ × γ}
    (h : ((M.watched start note).guarded ok).Leads w₀ w) (h_start : M.Reachable w₀.1)
    (h_I : I w₀.1 w₀.2)
    (h_step : ∀ s g l s', M.Reachable s → I s g → M.enabled s l → ok (s, g) l →
      M.step s l = .ok s' → I s' (note s l s' g)) : M.Reachable w.1 ∧ I w.1 w.2 := by
  refine System.Preserves.leads (I := fun w => M.Reachable w.1 ∧ I w.1 w.2) ?_ h ⟨h_start, h_I⟩
  rintro ⟨s, g⟩ l w' ⟨h_reach, h_g⟩ ⟨h_en, h_ok⟩ h_next
  have h_watched : (M.watched start note).step (s, g) l = .ok w' := h_next
  obtain ⟨h_s', h_g'⟩ := watched_step_eq_ok.1 h_watched
  refine ⟨h_reach.next h_en h_s', ?_⟩
  rw [h_g']
  exact h_step s g l w'.1 h_reach h_g h_en h_ok h_s'

-- ============================================================================
-- What labels do not say
-- ============================================================================

/-- The machine whose labels say more, which no step depends on: a history can note
    what the machine is not told. -/
def tagged (M : System σ ℓ ε) (τ : Type x) : System σ (τ × ℓ) ε where
  init := M.init
  enabled s l := M.enabled s l.2
  step s l := M.step s l.2

instance (M : System σ ℓ ε) (τ : Type x) [h : ∀ s l, Decidable (M.enabled s l)] (s : σ)
    (l : τ × ℓ) : Decidable ((M.tagged τ).enabled s l) :=
  h s l.2

/-- Tags add no runs. -/
theorem Reachable.untagged {τ : Type x} {s : σ} (h : (M.tagged τ).Reachable s) :
    M.Reachable s := by
  refine h.invariant M.Reachable (fun _ h_init => Reachable.start h_init) ?_
  intro s l s' h_s h_en h_step
  exact h_s.next h_en h_step

-- ============================================================================
-- The steps of a run
-- ============================================================================

end System

/-- One completed step. -/
structure Move (σ : Type u) (ℓ : Type v) where
  before : σ
  label : ℓ
  after : σ

namespace System

variable {M : System σ ℓ ε}

/-- The machine with the steps it has taken, latest first. -/
def recorded (M : System σ ℓ ε) : System (σ × List (Move σ ℓ)) ℓ ε :=
  M.watched [] fun s l s' moves => ⟨s, l, s'⟩ :: moves

instance (M : System σ ℓ ε) [h : ∀ s l, Decidable (M.enabled s l)] (w : σ × List (Move σ ℓ))
    (l : ℓ) : Decidable (M.recorded.enabled w l) :=
  h w.1 l

/-- Every recorded step was one of the machine, in a state that it reaches. -/
theorem Reachable.recorded_moves {w : σ × List (Move σ ℓ)} (h : M.recorded.Reachable w) :
    ∀ t ∈ w.2, M.Reachable t.before ∧ M.enabled t.before t.label ∧
      M.step t.before t.label = .ok t.after := by
  refine Reachable.watched_invariant (fun _ moves => ∀ t ∈ moves, M.Reachable t.before ∧
    M.enabled t.before t.label ∧ M.step t.before t.label = .ok t.after) h.guarded_true ?_ ?_
  · intro s _ t h_t
    cases h_t
  · intro s moves l s' h_s h_moves h_en _ h_step
    exact List.forall_mem_cons.2 ⟨⟨h_s, h_en, h_step⟩, h_moves⟩

/-- What is equivalent for each step is equivalent for all steps of a run. -/
theorem Reachable.recorded_congr {P Q : Move σ ℓ → Prop} {w : σ × List (Move σ ℓ)}
    (h : M.recorded.Reachable w)
    (h_iff : ∀ t, M.Reachable t.before → M.enabled t.before t.label →
      M.step t.before t.label = .ok t.after → (P t ↔ Q t)) :
    (∀ t ∈ w.2, P t) ↔ ∀ t ∈ w.2, Q t := by
  refine forall₂_congr fun t h_t => ?_
  obtain ⟨h_reach, h_en, h_step⟩ := h.recorded_moves t h_t
  exact h_iff t h_reach h_en h_step

/-- The steps of a run follow each other: each begins where another has ended, or
    at the start. -/
theorem Reachable.recorded_before {w : σ × List (Move σ ℓ)} (h : M.recorded.Reachable w) :
    ∀ t ∈ w.2, M.init t.before ∨ ∃ t' ∈ w.2, t'.after = t.before := by
  have h_chain : (M.init w.1 ∨ ∃ t' ∈ w.2, t'.after = w.1) ∧
      ∀ t ∈ w.2, M.init t.before ∨ ∃ t' ∈ w.2, t'.after = t.before := by
    refine Reachable.watched_invariant (fun s moves =>
      (M.init s ∨ ∃ t' ∈ moves, t'.after = s) ∧
        ∀ t ∈ moves, M.init t.before ∨ ∃ t' ∈ moves, t'.after = t.before) h.guarded_true ?_ ?_
    · intro s h_init
      refine ⟨Or.inl h_init, fun t h_t => ?_⟩
      cases h_t
    · rintro s moves l s' - ⟨h_s, h_moves⟩ - - -
      have h_grow : ∀ {r : σ}, (M.init r ∨ ∃ t' ∈ moves, t'.after = r) →
          M.init r ∨ ∃ t' ∈ (⟨s, l, s'⟩ : Move σ ℓ) :: moves, t'.after = r := by
        rintro r (h_init | ⟨t', h_t', h_after⟩)
        · exact Or.inl h_init
        · exact Or.inr ⟨t', List.mem_cons_of_mem _ h_t', h_after⟩
      refine ⟨Or.inr ⟨_, List.mem_cons_self, rfl⟩, ?_⟩
      exact List.forall_mem_cons.2 ⟨h_grow h_s, fun t h_t => h_grow (h_moves t h_t)⟩
  exact h_chain.2

/-- A run each of whose steps meets a condition is one of the machine with its
    steps restricted to that. -/
theorem Reachable.recorded_guarded (ok : σ → ℓ → Prop) {w : σ × List (Move σ ℓ)}
    (h : M.recorded.Reachable w) (h_ok : ∀ t ∈ w.2, ok t.before t.label) :
    (M.guarded ok).Reachable w.1 ∧ ∀ t ∈ w.2, (M.guarded ok).Reachable t.after := by
  have h_run : (∀ t ∈ w.2, ok t.before t.label) →
      (M.guarded ok).Reachable w.1 ∧ ∀ t ∈ w.2, (M.guarded ok).Reachable t.after := by
    refine Reachable.watched_invariant (fun s moves => (∀ t ∈ moves, ok t.before t.label) →
      (M.guarded ok).Reachable s ∧ ∀ t ∈ moves, (M.guarded ok).Reachable t.after)
      h.guarded_true ?_ ?_
    · intro s h_init _
      refine ⟨Reachable.start h_init, fun t h_t => ?_⟩
      cases h_t
    · intro s moves l s' _ h_moves h_en _ h_step h_all
      obtain ⟨h_last, h_before⟩ := List.forall_mem_cons.1 h_all
      obtain ⟨h_s, h_after⟩ := h_moves h_before
      have h_s' : (M.guarded ok).Reachable s' := h_s.next ⟨h_en, h_last⟩ h_step
      exact ⟨h_s', List.forall_mem_cons.2 ⟨h_s', h_after⟩⟩
  exact h_run h_ok

/-- What was recorded before a step is a run to the state that the step began in. -/
theorem Reachable.recorded_earlier {w : σ × List (Move σ ℓ)} (h : M.recorded.Reachable w)
    {later earlier : List (Move σ ℓ)} {t : Move σ ℓ} (h_t : w.2 = later ++ t :: earlier) :
    M.recorded.Reachable (t.before, earlier) := by
  have h_all : ∀ later t earlier, w.2 = later ++ t :: earlier →
      M.recorded.Reachable (t.before, earlier) := by
    refine h.invariant_of_reachable (fun w => ∀ later t earlier, w.2 = later ++ t :: earlier →
      M.recorded.Reachable (t.before, earlier)) ?_ ?_
    · rintro w ⟨-, h_none⟩ later t earlier h_split
      rw [h_none] at h_split
      cases later <;> cases h_split
    · rintro ⟨s, moves⟩ l w' h_reach h_before h_en h_next later t earlier h_split
      have h_moves : w'.2 = ⟨s, l, w'.1⟩ :: moves := (watched_step_eq_ok.1 h_next).2
      rw [h_moves] at h_split
      cases later with
      | nil =>
          obtain ⟨rfl, rfl⟩ := List.cons.inj h_split
          exact h_reach
      | cons t' later => exact h_before later t earlier (List.cons.inj h_split).2
  exact h_all later t earlier h_t

/-- What holds now, and not at the start, became true in some step. -/
theorem Reachable.recorded_became {w : σ × List (Move σ ℓ)} (h : M.recorded.Reachable w)
    (Q : σ → Prop) (h_init : ∀ s, M.init s → ¬ Q s) (h_now : Q w.1) :
    ∃ t ∈ w.2, ¬ Q t.before ∧ Q t.after := by
  have h_then : Q w.1 → ∃ t ∈ w.2, ¬ Q t.before ∧ Q t.after := by
    refine Reachable.watched_invariant
      (fun s moves => Q s → ∃ t ∈ moves, ¬ Q t.before ∧ Q t.after) h.guarded_true ?_ ?_
    · intro s h_s h_Q
      exact absurd h_Q (h_init s h_s)
    · intro s moves l s' _ h_moves _ _ _ h_Q
      by_cases h_s : Q s
      · obtain ⟨t, h_t, h_became⟩ := h_moves h_s
        exact ⟨t, List.mem_cons_of_mem _ h_t, h_became⟩
      · exact ⟨⟨s, l, s'⟩, List.mem_cons_self, h_s, h_Q⟩
  exact h_then h_now

end System

end Lib
