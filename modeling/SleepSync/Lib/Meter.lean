/-
  SleepSync.Lib.Meter

  How long something is on, in the runs of a machine with a clock.

  A meter adds up the time between steps in whose first state it is on: over the
  whole run, and since the last label that marks the start of a span.

  The rule for an upper bound is a quota: in each state there is a limit for the
  span so far, and a time by which the next step is due.  Where the meter is on,
  what is left until then must be within the limit too; so the limit still holds
  when the step is taken, whenever that is.
-/

import SleepSync.Lib.Watch

namespace Lib

universe u v w

/-- What is metered, and by which clock. -/
structure Meter (σ : Type u) (ℓ : Type v) where
  /-- when the state was entered -/
  clock : σ → Nat
  /-- when the step is taken -/
  time : ℓ → Nat
  isOn : σ → Bool
  marks : ℓ → Bool

/-- The time since the last mark, and the time since the start. -/
structure Reading where
  span : Nat
  total : Nat
  deriving DecidableEq

/-- How much the span may be in a state, and when the next step is due there. -/
structure Quota (σ : Type u) where
  limit : σ → Nat
  due : σ → Nat

namespace Meter

variable {σ : Type u} {ℓ : Type v} {ε : Type w} (m : Meter σ ℓ) (q : Quota σ)

/-- The time until the step, if the meter is on. -/
def elapsed (s : σ) (l : ℓ) : Nat :=
  if m.isOn s then m.time l - m.clock s else 0

def note (s : σ) (l : ℓ) (_ : σ) (r : Reading) : Reading where
  span := if m.marks l then 0 else r.span + m.elapsed s l
  total := r.total + m.elapsed s l

/-- The machine with its meter. -/
def metered (M : System σ ℓ ε) (m : Meter σ ℓ) : System (σ × Reading) ℓ ε :=
  M.watched ⟨0, 0⟩ m.note

instance (M : System σ ℓ ε) (m : Meter σ ℓ) [h : ∀ s l, Decidable (M.enabled s l)]
    (w : σ × Reading) (l : ℓ) : Decidable ((metered M m).enabled w l) :=
  h w.1 l

instance (M : System σ ℓ ε) (m : Meter σ ℓ) (ok : σ × Reading → ℓ → Prop)
    [∀ s l, Decidable (M.enabled s l)] [∀ w l, Decidable (ok w l)] (w : σ × Reading) (l : ℓ) :
    Decidable (((metered M m).guarded ok).enabled w l) :=
  inferInstanceAs (Decidable (_ ∧ _))

/-- The span is within its quota, also until the next step is due. -/
structure Within (s : σ) (span : Nat) : Prop where
  limit : span ≤ q.limit s
  due : m.isOn s = true → span + q.due s ≤ m.clock s + q.limit s

variable {m q} {s s' : σ} {l : ℓ} {span : Nat}

@[simp] theorem elapsed_of_off (h : m.isOn s = false) : m.elapsed s l = 0 := by
  simp [elapsed, h]

@[simp] theorem elapsed_of_on (h : m.isOn s = true) : m.elapsed s l = m.time l - m.clock s := by
  simp [elapsed, h]

/-- A step that is not overdue is taken within the quota. -/
theorem Within.elapsed (h : m.Within q s span) (h_due : m.time l ≤ q.due s) :
    span + m.elapsed s l ≤ q.limit s := by
  have h_limit := h.limit
  cases h_on : m.isOn s with
  | false =>
      rw [elapsed_of_off h_on]
      exact h_limit
  | true =>
      have h_left := h.due h_on
      rw [elapsed_of_on h_on]
      omega

theorem Within.of_off (h_off : m.isOn s = false) (h_limit : span ≤ q.limit s) :
    m.Within q s span where
  limit := h_limit
  due h_on := by
    rw [h_off] at h_on
    cases h_on

/-- Until the next step is due, the limit is kept. -/
theorem Within.of_due (h_clock : m.clock s ≤ q.due s)
    (h_due : span + q.due s ≤ m.clock s + q.limit s) : m.Within q s span where
  limit := by omega
  due _ := h_due

/-- Where the next step remains due as before. -/
theorem Within.continues (h : m.Within q s span) (h_on : m.isOn s = true)
    (h_time : m.clock s ≤ m.time l) (h_clock : m.clock s' = m.time l)
    (h_step : m.time l ≤ q.due s) (h_same : q.due s' = q.due s)
    (h_limit : q.limit s' = q.limit s) : m.Within q s' (span + m.elapsed s l) where
  limit := by
    rw [h_limit]
    exact h.elapsed h_step
  due _ := by
    have h_left := h.due h_on
    rw [elapsed_of_on h_on]
    omega

-- ============================================================================
-- All spans
-- ============================================================================

/-- The spans that have ended took `limit` each at most, and `period` at least has
    passed for each, from `start` to `now`. -/
def Paid (limit period start now : Nat) (r : Reading) : Prop :=
  r.total * period + limit * start ≤ r.span * period + limit * now

variable {limit period start now now' : Nat} {r : Reading}

theorem Paid.of_none (h : r.total = 0) (h_now : start ≤ now) : Paid limit period start now r := by
  have h_mul : limit * start ≤ limit * now := Nat.mul_le_mul_left limit h_now
  unfold Paid
  rw [h]
  omega

theorem Paid.unmarked (h : Paid limit period start now r) (h_l : m.marks l = false)
    (h_now : now ≤ now') : Paid limit period start now' (m.note s l s' r) := by
  have h_mul : limit * now ≤ limit * now' := Nat.mul_le_mul_left limit h_now
  unfold Paid at h ⊢
  simp only [note, h_l, Bool.false_eq_true, if_false, Nat.add_mul]
  omega

theorem Paid.marked (h : Paid limit period start now r) (h_l : m.marks l = true)
    (h_limit : r.span + m.elapsed s l ≤ limit) (h_now : now + period ≤ now') :
    Paid limit period start now' (m.note s l s' r) := by
  have h_mul : limit * (now + period) ≤ limit * now' := Nat.mul_le_mul_left limit h_now
  have h_span : (r.span + m.elapsed s l) * period ≤ limit * period :=
    Nat.mul_le_mul_right period h_limit
  rw [Nat.mul_add] at h_mul
  rw [Nat.add_mul] at h_span
  unfold Paid at h ⊢
  simp only [note, h_l, if_true, Nat.add_mul]
  omega

/-- What is metered in all, of all the time. -/
theorem Paid.total_le (h : Paid limit period start now r) (h_limit : r.span ≤ limit)
    (h_now : start ≤ now) : r.total * period ≤ limit * (period + (now - start)) := by
  have h_span : r.span * period ≤ limit * period := Nat.mul_le_mul_right period h_limit
  have h_mul : limit * start ≤ limit * now := Nat.mul_le_mul_left limit h_now
  unfold Paid at h
  rw [Nat.mul_add, Nat.mul_sub]
  omega

end Meter

end Lib
