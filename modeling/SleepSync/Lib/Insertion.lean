/-
  SleepSync.Lib.Insertion

  Inputs that do not matter.  A handler takes one input after another, until one
  of them ends the handling or stops at a fault.  `view` is what is looked at of
  a state.

  If the handler respects the view, and an idle input neither changes the view
  nor ends the handling, then idle inputs may be inserted anywhere: the view of
  the outcome is the same with them as without.
-/

import SleepSync.Lib.Outcome

namespace Lib

universe u v w x y

variable {σ : Type u} {α : Type v} {ε : Type w} {ρ : Type u} {υ : Type u}

section Handling

variable (handle : σ → α → Except ε (ρ × σ)) (goesOn : ρ → Bool)

/-- The state after the inputs, as far as they are handled. -/
def handleAll (s : σ) : List α → Except ε σ
  | [] => .ok s
  | a :: as =>
      match handle s a with
      | .ok (r, s') => if goesOn r then handleAll s' as else .ok s'
      | .error flt => .error flt

/-- What the handler makes of the view depends on the view only. -/
def Respects (view : σ → υ) : Prop :=
  ∀ s t a, view s = view t →
    (handle s a).map (Prod.map id view) = (handle t a).map (Prod.map id view)

/-- `as'` is `as` with inputs inserted that are idle where they are handled, from
    `s` on. -/
inductive Inserted (idle : σ → α → Prop) : σ → List α → List α → Prop
  | nil {s : σ} : Inserted idle s [] []
  | handled {s : σ} {a : α} {as as' : List α}
      (h_rest : ∀ r s', handle s a = .ok (r, s') → Inserted idle s' as as') :
      Inserted idle s (a :: as) (a :: as')
  | idle {s : σ} {a : α} {as as' : List α} (h_idle : idle s a)
      (h_rest : ∀ r s', handle s a = .ok (r, s') → Inserted idle s' as as') :
      Inserted idle s as (a :: as')

variable {handle} {goesOn}

theorem handleAll_cons_ok {s s' : σ} {a : α} {as : List α} {r : ρ}
    (h : handle s a = .ok (r, s')) : handleAll handle goesOn s (a :: as) =
      if goesOn r then handleAll handle goesOn s' as else .ok s' := by
  rw [handleAll, h]

theorem handleAll_cons_error {s : σ} {a : α} {as : List α} {flt : ε}
    (h : handle s a = .error flt) : handleAll handle goesOn s (a :: as) = .error flt := by
  rw [handleAll, h]

/-- Two states of one view are handled alike. -/
theorem Respects.alike {view : σ → υ} (h : Respects handle view) {s t : σ} {a : α}
    (h_view : view s = view t) :
    (∃ flt, handle s a = .error flt ∧ handle t a = .error flt) ∨
      ∃ r s' t', handle s a = .ok (r, s') ∧ handle t a = .ok (r, t') ∧ view s' = view t' := by
  have h_eq := h s t a h_view
  rcases h_s : handle s a with flt | ⟨r, s'⟩
  · rcases h_t : handle t a with flt' | ⟨r', t'⟩
    · rw [h_s, h_t] at h_eq
      cases h_eq
      exact Or.inl ⟨flt, rfl, rfl⟩
    · rw [h_s, h_t] at h_eq
      cases h_eq
  · rcases h_t : handle t a with flt' | ⟨r', t'⟩
    · rw [h_s, h_t] at h_eq
      cases h_eq
    · rw [h_s, h_t] at h_eq
      have h_pair : (r, view s') = (r', view t') := Except.ok.inj h_eq
      obtain ⟨rfl, h_out⟩ := Prod.mk.inj h_pair
      exact Or.inr ⟨r, s', t', rfl, rfl, h_out⟩

/-- Idle inputs may be inserted anywhere. -/
theorem handleAll_inserted {view : σ → υ} {idle : σ → α → Prop} (h : Respects handle view)
    (h_idle : ∀ s a, idle s a →
      ∃ r s', handle s a = .ok (r, s') ∧ goesOn r = true ∧ view s' = view s)
    {s t : σ} {as as' : List α} (h_ins : Inserted handle idle s as as')
    (h_view : view s = view t) :
    (handleAll handle goesOn s as').map view = (handleAll handle goesOn t as).map view := by
  induction h_ins generalizing t with
  | nil =>
      show Except.ok (view _) = Except.ok (view t)
      rw [h_view]
  | @handled s a as as' _ ih =>
      rcases h.alike (a := a) h_view with ⟨flt, h_s, h_t⟩ | ⟨r, s', t', h_s, h_t, h_out⟩
      · rw [handleAll_cons_error h_s, handleAll_cons_error h_t]
      · rw [handleAll_cons_ok h_s, handleAll_cons_ok h_t]
        by_cases h_on : goesOn r = true
        · rw [if_pos h_on, if_pos h_on]
          exact ih r s' h_s h_out
        · rw [if_neg h_on, if_neg h_on]
          show Except.ok (view s') = Except.ok (view t')
          rw [h_out]
  | @idle s a as as' h_a _ ih =>
      obtain ⟨r, s', h_s, h_on, h_out⟩ := h_idle s a h_a
      rw [handleAll_cons_ok h_s, if_pos h_on]
      exact ih r s' h_s (h_out.trans h_view)

end Handling

end Lib
