/-
  SleepSync.Lib.Outcome

  Fallible programs: a value of `Except ε α` is a run that either delivers a
  result or stops at a failed assertion `e : ε`.

  `Outcome x Q E` is the triple for such a run: a delivered result satisfies
  `Q`, a fault satisfies `E`.  Taking `E` to be "not one of these faults" turns
  it into a safety statement, taking `E` to be `fun _ => True` into partial
  correctness; the composition rules below serve both.  The `_eq_ok` and
  `_eq_error` lemmas invert a run that is already known.
-/

import Mathlib.Data.Set.Basic

namespace Lib

universe u v

variable {ε : Type u} {α β : Type v}

/-- An assertion: go on if `p` holds, stop with fault `e` otherwise. -/
def require (p : Prop) [Decidable p] (e : ε) : Except ε PUnit.{v + 1} :=
  if p then .ok ⟨⟩ else .error e

-- ============================================================================
-- Inversion of known runs
-- ============================================================================

theorem require_eq_ok {p : Prop} [Decidable p] {e : ε} {r : PUnit.{v + 1}} :
    require p e = .ok r ↔ p := by
  unfold require
  by_cases h : p <;> simp [h]

theorem require_eq_error {p : Prop} [Decidable p] {e f : ε} :
    (require p e : Except ε PUnit.{v + 1}) = .error f ↔ ¬ p ∧ f = e := by
  unfold require
  by_cases h : p <;> simp [h, eq_comm]

theorem bind_eq_ok {x : Except ε α} {f : α → Except ε β} {b : β} :
    (x >>= f) = .ok b ↔ ∃ a, x = .ok a ∧ f a = .ok b := by
  cases x with
  | error e =>
      constructor
      · intro h
        cases h
      · rintro ⟨_, h, _⟩
        cases h
  | ok a =>
      constructor
      · intro h
        exact ⟨a, rfl, h⟩
      · rintro ⟨_, ha, h⟩
        cases ha
        exact h

theorem bind_eq_error {x : Except ε α} {f : α → Except ε β} {e : ε} :
    (x >>= f) = .error e ↔ x = .error e ∨ ∃ a, x = .ok a ∧ f a = .error e := by
  cases x with
  | error e' =>
      constructor
      · intro h
        cases h
        exact Or.inl rfl
      · rintro (h | ⟨_, h, _⟩)
        · cases h
          rfl
        · cases h
  | ok a =>
      constructor
      · intro h
        exact Or.inr ⟨a, rfl, h⟩
      · rintro (h | ⟨_, ha, h⟩)
        · cases h
        · cases ha
          exact h

/-- A program that ends by returning a value computed from one result. -/
theorem bind_return_eq_ok {x : Except ε α} {g : α → β} {b : β} :
    (x >>= fun a => Pure.pure (g a)) = .ok b ↔ ∃ a, x = .ok a ∧ b = g a := by
  rw [bind_eq_ok]
  refine exists_congr fun a => and_congr_right fun _ => ⟨fun h => ?_, fun h => ?_⟩
  · cases h
    rfl
  · rw [h]
    rfl

theorem bind_return_eq_error {x : Except ε α} {g : α → β} {e : ε} :
    (x >>= fun a => Pure.pure (g a)) = .error e ↔ x = .error e := by
  rw [bind_eq_error]
  refine ⟨fun h => ?_, Or.inl⟩
  rcases h with h | ⟨_, _, h⟩
  · exact h
  · cases h

/-- A program whose result is only translated. -/
theorem map_eq_ok {x : Except ε α} {g : α → β} {b : β} :
    g <$> x = .ok b ↔ ∃ a, x = .ok a ∧ b = g a := by
  rw [map_eq_pure_bind]
  exact bind_return_eq_ok

theorem map_eq_error {x : Except ε α} {g : α → β} {e : ε} : g <$> x = .error e ↔ x = .error e := by
  rw [map_eq_pure_bind]
  exact bind_return_eq_error

/-- An assertion in front of the rest of a program. -/
theorem require_bind_eq_ok {p : Prop} [Decidable p] {e : ε} {f : PUnit.{v + 1} → Except ε β}
    {b : β} : (require p e >>= f) = .ok b ↔ p ∧ f ⟨⟩ = .ok b := by
  rw [bind_eq_ok]
  refine ⟨fun ⟨_, h_req, h⟩ => ⟨require_eq_ok.1 h_req, h⟩, fun ⟨h_p, h⟩ => ?_⟩
  exact ⟨⟨⟩, require_eq_ok.2 h_p, h⟩

theorem require_bind_eq_error {p : Prop} [Decidable p] {e g : ε}
    {f : PUnit.{v + 1} → Except ε β} :
    (require p e >>= f) = .error g ↔ (¬ p ∧ g = e) ∨ (p ∧ f ⟨⟩ = .error g) := by
  rw [bind_eq_error, require_eq_error]
  refine or_congr_right ⟨fun ⟨_, h_req, h⟩ => ⟨require_eq_ok.1 h_req, h⟩, fun ⟨h_p, h⟩ => ?_⟩
  exact ⟨⟨⟩, require_eq_ok.2 h_p, h⟩

/-- A fault that is not the assertion's is of the rest of the program. -/
theorem require_bind_eq_error_of_ne {p : Prop} [Decidable p] {e g : ε}
    {f : PUnit.{v + 1} → Except ε β} (h : (require p e >>= f) = .error g) (h_ne : g ≠ e) :
    p ∧ f ⟨⟩ = .error g :=
  (require_bind_eq_error.1 h).resolve_left fun h_own => h_ne h_own.2

-- ============================================================================
-- Triples
-- ============================================================================

/-- A result of `x` satisfies `Q` and a fault of `x` satisfies `E`. -/
def Outcome (x : Except ε α) (Q : α → Prop) (E : ε → Prop) : Prop :=
  match x with
  | .ok a => Q a
  | .error e => E e

namespace Outcome

variable {x : Except ε α} {Q Q' : α → Prop} {E E' : ε → Prop}

theorem result {a : α} (h : Outcome x Q E) (hx : x = .ok a) : Q a := by
  subst hx
  exact h

theorem fault {e : ε} (h : Outcome x Q E) (hx : x = .error e) : E e := by
  subst hx
  exact h

/-- A triple from what is known of each run. -/
theorem intro (hok : ∀ a, x = .ok a → Q a) (herr : ∀ e, x = .error e → E e) :
    Outcome x Q E := by
  cases x with
  | ok a => exact hok a rfl
  | error e => exact herr e rfl

theorem ok {a : α} (h : Q a) : Outcome (.ok a) Q E := h

theorem pure {a : α} (h : Q a) : Outcome (Pure.pure a) Q E := h

theorem error {e : ε} (h : E e) : Outcome (.error e) Q E := h

/-- Consequence. -/
theorem mono (h : Outcome x Q E) (hQ : ∀ a, Q a → Q' a) (hE : ∀ e, E e → E' e) :
    Outcome x Q' E' :=
  intro (fun a hx => hQ a (h.result hx)) (fun e hx => hE e (h.fault hx))

/-- Sequential composition. -/
theorem bind {f : α → Except ε β} {R : β → Prop} (hx : Outcome x Q E)
    (hf : ∀ a, x = .ok a → Q a → Outcome (f a) R E) : Outcome (x >>= f) R E := by
  cases x with
  | error e => exact hx
  | ok a => exact hf a rfl hx

/-- An assertion that holds falls through. -/
theorem require_bind {p : Prop} [Decidable p] {e : ε} {f : PUnit.{v + 1} → Except ε β}
    {R : β → Prop} (hp : ¬ p → E e) (hf : p → Outcome (f ⟨⟩) R E) :
    Outcome (Lib.require p e >>= f) R E := by
  unfold Lib.require
  by_cases h : p
  · rw [if_pos h]
    exact hf h
  · rw [if_neg h]
    exact hp h

/-- A branch. -/
theorem ite {p : Prop} [Decidable p] {y : Except ε α}
    (ht : p → Outcome x Q E) (he : ¬ p → Outcome y Q E) :
    Outcome (if p then x else y) Q E := by
  by_cases h : p
  · rw [if_pos h]
    exact ht h
  · rw [if_neg h]
    exact he h

end Outcome

end Lib
