/-
  SleepSync.MergeEpisode

  How many messages a merger sends before its role is over.

  The count of sent messages is a static of the policy, not of the role.  It is
  restarted where a merger has sent its last message, but not where the role is
  lost with the power to fish, nor where it begins; and the message that brings
  it to the limit is not the last one.  So an episode that is not cut short sends
  one message more than the limit, less those that were left in the count when it
  began: as many as it should exactly if it began with one.
-/

import SleepSync.MergeRank

namespace SleepSync

open Lib Protocol

-- ============================================================================
-- What is remembered of an episode
-- ============================================================================

/-- The count that the episode began with, and the messages sent in it. -/
structure MergeEpisode where
  start : Nat
  sent : Nat
  deriving DecidableEq

/-- An episode begins where the unit becomes a merger. -/
def noteMerging (p : Protocol) (l : Env × ProtocolEvent) (p' : Protocol) (g : MergeEpisode) :
    MergeEpisode :=
  if p.role ≠ .merger ∧ p'.role = .merger then
    { start := p'.countSentMergeSyncs, sent := 0 }
  else if p.role = .merger ∧ l.2 = .mergeSyncSent then
    { g with sent := g.sent + 1 }
  else
    g

/-- A unit with its present or last merge episode. -/
def mergingSystem (c : Config) : System (Protocol × MergeEpisode) (Env × ProtocolEvent) Fault :=
  (protocolSystem c).watched { start := 0, sent := 0 } noteMerging

abbrev MergingMove := Move (Protocol × MergeEpisode) (Env × ProtocolEvent)

/-- The step is the end of an episode that is not cut short: a message is sent, and
    the role is over. -/
def CompletesMerging (t : MergingMove) : Prop :=
  t.before.1.role = .merger ∧ t.label.2 = .mergeSyncSent ∧ t.after.1.role ≠ .merger

instance (t : MergingMove) : Decidable (CompletesMerging t) :=
  inferInstanceAs (Decidable (_ ∧ _))

-- ============================================================================
-- The count
-- ============================================================================

/-- The count of a merger is that of the start of the episode and of the messages
    sent in it. -/
structure MergingCounted (p : Protocol) (g : MergeEpisode) : Prop where
  le : p.countSentMergeSyncs ≤ Policy.countSyncsPerMerger
  eq : p.role = .merger → p.countSentMergeSyncs = g.start + g.sent

section Count

variable {c : Config} {e : Env} {p p' : Protocol} {ev : ProtocolEvent} {g : MergeEpisode}

/-- Only a sent message changes the count. -/
theorem stepProtocol_countSentMergeSyncs (h_step : stepProtocol c p e ev = .ok p')
    (h_ev : ev ≠ .mergeSyncSent) : p'.countSentMergeSyncs = p.countSentMergeSyncs := by
  cases stepProtocol_done h_step with
  | heard h_heard => cases h_heard <;> rfl
  | fished h_fished => cases h_fished <;> rfl
  | listened h_ended => cases h_ended <;> rfl
  | checked h_checked => cases h_checked <;> rfl
  | sent => exact absurd rfl h_ev
  | completed => exact absurd rfl h_ev
  | _ => rfl

/-- A sent message is the last one exactly if the count is at the limit. -/
theorem mergeSyncSent_role (h_role : p.role = .merger) (h_sent : p.mergeSyncSent = .ok p') :
    (p'.role = .merger ∧ p.countSentMergeSyncs < Policy.countSyncsPerMerger ∧
        p'.countSentMergeSyncs = p.countSentMergeSyncs + 1) ∨
      (p'.role ≠ .merger ∧ p.countSentMergeSyncs = Policy.countSyncsPerMerger ∧
        p'.countSentMergeSyncs = 0) := by
  obtain ⟨-, ⟨h_lt, rfl⟩ | ⟨h_eq, rfl⟩⟩ := mergeSyncSent_eq_ok h_sent
  · exact Or.inl ⟨h_role, h_lt, rfl⟩
  · exact Or.inr ⟨fisher_ne_merger, h_eq, rfl⟩

theorem stepProtocol_countSentMergeSyncs_le (h_step : stepProtocol c p e ev = .ok p')
    (h_le : p.countSentMergeSyncs ≤ Policy.countSyncsPerMerger) :
    p'.countSentMergeSyncs ≤ Policy.countSyncsPerMerger := by
  by_cases h_ev : ev = .mergeSyncSent
  · subst h_ev
    obtain ⟨-, ⟨h_lt, rfl⟩ | ⟨-, rfl⟩⟩ := mergeSyncSent_eq_ok h_step
    · exact h_lt
    · exact Nat.zero_le _
  · rw [stepProtocol_countSentMergeSyncs h_step h_ev]
    exact h_le

theorem mergingCounted_step (h_step : stepProtocol c p e ev = .ok p')
    (h : MergingCounted p g) : MergingCounted p' (noteMerging p (e, ev) p' g) := by
  refine ⟨stepProtocol_countSentMergeSyncs_le h_step h.le, fun h_role' => ?_⟩
  unfold noteMerging
  by_cases h_role : p.role = .merger
  · have h_eq := h.eq h_role
    by_cases h_ev : ev = .mergeSyncSent
    · subst h_ev
      rcases mergeSyncSent_role h_role h_step with ⟨-, -, h_count⟩ | ⟨h_over, -⟩
      · simp only [h_role, ne_eq, not_true_eq_false, false_and, if_false, true_and, if_true]
        omega
      · exact absurd h_role' h_over
    · simp only [h_role, h_ev, ne_eq, not_true_eq_false, false_and, and_false, if_false]
      rw [stepProtocol_countSentMergeSyncs h_step h_ev]
      exact h_eq
  · simp [h_role, h_role']

theorem protocolSystem_mergingCounted {w : Protocol × MergeEpisode}
    (h : (mergingSystem c).Reachable w) : MergingCounted w.1 w.2 := by
  refine System.Reachable.watched_invariant MergingCounted h.guarded_true ?_ ?_
  · rintro p ⟨initTime, loopTime, rfl⟩
    exact ⟨Nat.zero_le _, nofun⟩
  · rintro p g ⟨e, ev⟩ p' - h_g - - h_step
    exact mergingCounted_step h_step h_g

end Count

-- ============================================================================
-- Runs
-- ============================================================================

/-- In every run, an episode that is not cut short sends as many messages as it
    should exactly if the count was one when it began; it always sends one more
    than the limit, less that count. -/
theorem merge_episode_length_iff {c : Config}
    {w : (Protocol × MergeEpisode) × List MergingMove}
    (h : (mergingSystem c).recorded.Reachable w) :
    (∀ t ∈ w.2, CompletesMerging t →
      t.after.2.start = t.before.2.start ∧
      t.after.2.sent = Policy.countSyncsPerMerger + 1 - t.before.2.start ∧
      (t.after.2.sent = Policy.countSyncsPerMerger ↔ t.before.2.start = 1)) ∧
    (w.1.1.role = .merger → w.1.2.start + w.1.2.sent ≤ Policy.countSyncsPerMerger) := by
  refine ⟨?_, ?_⟩
  · rintro ⟨⟨p, g⟩, ⟨e, ev⟩, ⟨p', g'⟩⟩ h_t ⟨h_role, h_ev, h_over⟩
    obtain ⟨h_reach, -, h_next⟩ := h.recorded_moves _ h_t
    obtain ⟨h_step, h_g'⟩ := System.watched_step_eq_ok.1 h_next
    dsimp only at h_role h_ev h_over h_step h_g' ⊢
    subst h_ev
    have h_sent : g' = { g with sent := g.sent + 1 } := by
      rw [h_g', noteMerging, if_neg (fun h_new => h_new.1 h_role), if_pos ⟨h_role, rfl⟩]
    have h_eq := (protocolSystem_mergingCounted h_reach).eq h_role
    have h_limit : Policy.countSyncsPerMerger = 6 := rfl
    rcases mergeSyncSent_role h_role h_step with ⟨h_goes, -⟩ | ⟨-, h_count, -⟩
    · exact absurd h_goes h_over
    · rw [h_sent]
      dsimp only at h_eq ⊢
      omega
  · intro h_role
    have h_counted := protocolSystem_mergingCounted h.unwatched
    have h_eq := h_counted.eq h_role
    have h_le := h_counted.le
    omega

-- ============================================================================
-- Seven messages, and six
-- ============================================================================

/-- The events of a period from `start` in which the coin is for merging. -/
def mergingPeriod (start : Nat) : List (Env × ProtocolEvent) :=
  [(Env.quiet start, .bookkeepingAtPreludeToSyncSlot),
    (Env.quiet start, .rollPeriodForward),
    (Env.quiet start, .dispatchSyncSlotKind),
    (Env.quiet (start + 50), .endListen),
    (Env.quiet (start + 50), .preFishing),
    (Env.quiet (start + 160), .mergeSyncSent)]

def mergingPeriods (n start : Nat) : List (Env × ProtocolEvent) :=
  (List.range n).flatMap fun i => mergingPeriod (start + 80000 * i)

/-- In the period from 160000 the power for fishing is lost, and found again. -/
def losesPower : List (Env × ProtocolEvent) :=
  [({ Env.quiet 160000 with isPowerAboveMedium := false }, .bookkeepingAtPreludeToSyncSlot),
    (Env.quiet 160000, .rollPeriodForward),
    (Env.quiet 240000, .bookkeepingAtPreludeToSyncSlot),
    (Env.quiet 240000, .rollPeriodForward)]

/-- Unit five catches nine, sends one message, loses the power to fish, catches nine
    again and merges to the end. -/
def mergesAgain : List (Env × ProtocolEvent) :=
  becomesFisher ++ caughtNine :: mergingPeriod 80000 ++ losesPower ++
    (arriving 280000, .hearInFishSlot (masterSyncFrom 9 (.ofTicks 79975))) ::
    mergingPeriods 6 320000

theorem bootedFive_merging_init : (mergingSystem unitFive).recorded.init
    ((bootedFive, { start := 0, sent := 0 }), []) :=
  ⟨⟨⟨0, 0, rfl⟩, rfl⟩, rfl⟩

instance (c : Config) (w : (Protocol × MergeEpisode) × List MergingMove)
    (l : Env × ProtocolEvent) : Decidable ((mergingSystem c).recorded.enabled w l) :=
  inferInstanceAs (Decidable (l.2.Timely w.1.1 l.1))

/-- The episode that was cut short has left one message in the count. -/
theorem merge_episode_length_iff_mergesAgain :
    ∃ w, (mergingSystem unitFive).recorded.Reachable w ∧
      ∃ t ∈ w.2, CompletesMerging t ∧ t.after.2.sent = Policy.countSyncsPerMerger := by
  obtain ⟨w, h, t, h_t, h_completes, h_start⟩ :=
    System.Reachable.exists_of_play (M := (mergingSystem unitFive).recorded)
      (P := fun w => ∃ t ∈ w.2, CompletesMerging t ∧ t.before.2.start = 1)
      mergesAgain bootedFive_merging_init (by decide +kernel)
  exact ⟨w, h, t, h_t, h_completes,
    ((merge_episode_length_iff h).1 t h_t h_completes).2.2.2 h_start⟩

/-- The first episode of unit five is not cut short and sends seven. -/
theorem merge_episode_sends_seven :
    ∃ w, (mergingSystem unitFive).recorded.Reachable w ∧
      ∃ t ∈ w.2, CompletesMerging t ∧ t.after.2.sent = 7 ∧
        t.after.2.sent ≠ Policy.countSyncsPerMerger :=
  System.Reachable.exists_of_play (M := (mergingSystem unitFive).recorded)
    (P := fun w => ∃ t ∈ w.2, CompletesMerging t ∧ t.after.2.sent = 7 ∧
      t.after.2.sent ≠ Policy.countSyncsPerMerger)
    (becomesFisher ++ caughtNine :: mergingPeriods 7 80000) bootedFive_merging_init
    (by decide +kernel)

end SleepSync
