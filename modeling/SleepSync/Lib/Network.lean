/-
  SleepSync.Lib.Network

  Parties that act one at a time and hear what was sent before.  A message is
  never taken out of the network: it may be heard by any number of parties, any
  number of times, in any order and however late, or by none.

  The rule is about one party at a time: an invariant of the parties together
  with a property of the messages holds in the whole network if each party
  keeps the one as long as it hears only messages with the other, and sends
  only such messages.
-/

import Mathlib.Logic.Function.Basic
import Mathlib.Data.Option.Basic
import SleepSync.Lib.Runs

namespace Lib

universe u w

/-- One machine for each index, with what its labels hear and what it sends. -/
structure Parties (ι σ ℓ κ μ : Type u) (ε : Type w) where
  init : ι → σ → Prop
  step : ι → σ → ℓ → Except ε σ
  heard : ℓ → Option μ
  send : ι → σ → κ → Except ε μ

structure Network (ι σ μ : Type u) where
  party : ι → σ
  sent : List μ

inductive NetworkEvent (ι ℓ κ : Type u)
  | act (i : ι) (l : ℓ)
  | send (i : ι) (k : κ)

namespace Parties

variable {ι σ ℓ κ μ : Type u} {ε : Type w} [DecidableEq ι]

/-- The network of the parties. -/
def network (P : Parties ι σ ℓ κ μ ε) :
    System (Network ι σ μ) (NetworkEvent ι ℓ κ) ε where
  init w := (∀ i, P.init i (w.party i)) ∧ w.sent = []
  enabled w
    | .act _ l => ∀ m ∈ P.heard l, m ∈ w.sent
    | .send _ _ => True
  step w
    | .act i l => do
        let s ← P.step i (w.party i) l
        return { w with party := Function.update w.party i s }
    | .send i k => do
        let m ← P.send i (w.party i) k
        return { w with sent := m :: w.sent }

instance [DecidableEq μ] (P : Parties ι σ ℓ κ μ ε) (w : Network ι σ μ) :
    (l : NetworkEvent ι ℓ κ) → Decidable (P.network.enabled w l)
  | .act _ l => inferInstanceAs (Decidable (∀ m ∈ P.heard l, m ∈ w.sent))
  | .send _ _ => .isTrue trivial

variable {P : Parties ι σ ℓ κ μ ε} {w w' : Network ι σ μ}

/-- A step is the step of one party, or one more message. -/
theorem network_step {l : NetworkEvent ι ℓ κ} (h_en : P.network.enabled w l)
    (h : P.network.step w l = .ok w') :
    (∃ i l' s, (∀ m ∈ P.heard l', m ∈ w.sent) ∧ P.step i (w.party i) l' = .ok s ∧
        w' = { w with party := Function.update w.party i s }) ∨
      ∃ i k m, P.send i (w.party i) k = .ok m ∧ w' = { w with sent := m :: w.sent } := by
  cases l with
  | act i l' =>
      obtain ⟨s, h_s, rfl⟩ := bind_return_eq_ok.1 h
      exact Or.inl ⟨i, l', s, h_en, h_s, rfl⟩
  | send i k =>
      obtain ⟨m, h_m, rfl⟩ := bind_return_eq_ok.1 h
      exact Or.inr ⟨i, k, m, h_m, rfl⟩

/-- The invariant rule of networks. -/
theorem network_invariant (I : ι → σ → Prop) (J : μ → Prop)
    (h_init : ∀ i s, P.init i s → I i s)
    (h_step : ∀ i s l s', I i s → (∀ m ∈ P.heard l, J m) → P.step i s l = .ok s' → I i s')
    (h_send : ∀ i s k m, I i s → P.send i s k = .ok m → J m)
    (h : P.network.Reachable w) : (∀ i, I i (w.party i)) ∧ ∀ m ∈ w.sent, J m := by
  refine h.invariant (fun w => (∀ i, I i (w.party i)) ∧ ∀ m ∈ w.sent, J m) ?_ ?_
  · rintro w ⟨h_party, h_sent⟩
    refine ⟨fun i => h_init i _ (h_party i), fun m h_m => ?_⟩
    rw [h_sent] at h_m
    exact absurd h_m List.not_mem_nil
  · rintro w l w' ⟨h_I, h_J⟩ h_en h_next
    rcases network_step h_en h_next with
      ⟨i, l', s, h_heard, h_s, rfl⟩ | ⟨i, k, m, h_m, rfl⟩
    · refine ⟨fun j => ?_, h_J⟩
      dsimp only
      by_cases h_ij : j = i
      · rw [h_ij, Function.update_self]
        exact h_step i _ l' s (h_I i) (fun m h_m => h_J m (h_heard m h_m)) h_s
      · rw [Function.update_of_ne h_ij]
        exact h_I j
    · refine ⟨h_I, fun m' h_m' => ?_⟩
      rcases List.mem_cons.1 h_m' with rfl | h_old
      · exact h_send i _ k m' (h_I i) h_m
      · exact h_J m' h_old

end Parties

end Lib
