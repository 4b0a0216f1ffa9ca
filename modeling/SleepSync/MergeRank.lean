/-
  SleepSync.MergeRank

  The two cliques of a merger: the superior one that its messages send the
  members of the inferior one to.

  A trolling unit merges its own clique into a better one it catches, and any
  other clique into its own.  The second branch takes the equal clique too, which
  a unit can hear although it cannot hear itself: a message carries the clique's
  master and not the sender, and a member that has drifted is heard in the fish
  slot.  So the cliques of a merger are ranked exactly if the message is of
  another clique, and they are for every merger of a run in which every catch
  is.
-/

import SleepSync.MergeAim
import SleepSync.MergerRole
import SleepSync.TaskRuns

namespace SleepSync

open Lib Protocol

-- ============================================================================
-- What is recorded of a catch
-- ============================================================================

/-- The superior clique is strictly better, and only a strictly worse catch is
    merged into the own clique: the least ID is the better one. -/
def RanksCliques (p : Protocol) (msg : SyncMessage) (p' : Protocol) : Prop :=
  p'.cliqueMerger.superiorMasterID < p'.cliqueMerger.inferiorMasterID ∧
    (p'.cliqueMerger.kindOfMerger = .mergeOther → p.masterID < msg.masterID)

/-- The sync message that the event is the catch of, in trolling mode. -/
def Protocol.fishedTrolling (p : Protocol) : ProtocolEvent → Option SyncMessage
  | .hearInFishSlot msg =>
      if p.fishing.mode = .trolling ∧ (msg.type = .masterSync ∨ msg.type = .workSync) then
        some msg
      else
        none
  | _ => none

def RanksCatch (t : ProtocolMove) : Prop :=
  ∀ msg ∈ t.before.fishedTrolling t.label.2, RanksCliques t.before msg t.after

def CatchesOther (t : ProtocolMove) : Prop :=
  ∀ msg ∈ t.before.fishedTrolling t.label.2, msg.masterID ≠ t.before.masterID

instance (p : Protocol) (msg : SyncMessage) (p' : Protocol) : Decidable (RanksCliques p msg p') :=
  inferInstanceAs (Decidable (_ ∧ _))

instance (t : ProtocolMove) : Decidable (CatchesOther t) :=
  inferInstanceAs (Decidable (∀ msg ∈ t.before.fishedTrolling t.label.2, _))

-- ============================================================================
-- One catch
-- ============================================================================

section Catch

variable {c : Config} {e : Env} {p p' : Protocol} {msg : SyncMessage} {ev : ProtocolEvent}

theorem kindOfDepart_ne_mergeOther (c : Config) (p : Protocol) :
    kindOfDepart c p ≠ .mergeOther := by
  unfold kindOfDepart
  split <;> simp

/-- What is recorded of the cliques, by whether the caught one is better. -/
theorem initFromMsg_cliques (h : p.initFromMsg c e msg = .ok p') :
    (msg.masterID < p.masterID ∧ p'.cliqueMerger.superiorMasterID = msg.masterID ∧
        p'.cliqueMerger.inferiorMasterID = p.masterID ∧
        p'.cliqueMerger.kindOfMerger = kindOfDepart c p) ∨
      (p.masterID ≤ msg.masterID ∧ p'.cliqueMerger.superiorMasterID = p.masterID ∧
        p'.cliqueMerger.inferiorMasterID = msg.masterID ∧
        p'.cliqueMerger.kindOfMerger = .mergeOther) := by
  unfold initFromMsg at h
  obtain ⟨-, h⟩ := require_bind_eq_ok.1 h
  obtain ⟨-, h⟩ := require_bind_eq_ok.1 h
  obtain ⟨p₁, h_merge, rfl⟩ := bind_return_eq_ok.1 h
  split at h_merge
  · rename_i h_better
    obtain ⟨s, -, -, -, h_p₁⟩ := initMergeMyClique_eq_ok h_merge
    rw [h_p₁]
    exact Or.inl ⟨of_decide_eq_true h_better, rfl, rfl, rfl⟩
  · rename_i h_not
    obtain ⟨-, h_p₁⟩ := initMergeOtherClique_eq_ok h_merge
    rw [h_p₁]
    have h_le : ¬ msg.masterID < p.masterID := fun h_lt => h_not (decide_eq_true h_lt)
    exact Or.inr ⟨Nat.le_of_not_lt h_le, rfl, rfl, rfl⟩

/-- A completed catch ranks the cliques exactly if there are two of them. -/
theorem initFromMsg_ranks (h : p.initFromMsg c e msg = .ok p') :
    RanksCliques p msg p' ↔ msg.masterID ≠ p.masterID := by
  unfold RanksCliques
  rcases initFromMsg_cliques h with
    ⟨h_better, h_sup, h_inf, h_kind⟩ | ⟨h_worse, h_sup, h_inf, h_kind⟩
  · rw [h_sup, h_inf, h_kind]
    have h_not := kindOfDepart_ne_mergeOther c p
    simp only [h_not, false_implies, and_true, ne_eq]
    omega
  · rw [h_sup, h_inf, h_kind]
    simp only [true_implies, and_self, ne_eq]
    omega

/-- Nothing stops a merge of the other clique, which here is the own one. -/
theorem initFromMsg_own (h_mode : p.fishing.mode = .trolling)
    (h_carries : msg.type.doesCarrySync = true) (h_own : msg.masterID = p.masterID) :
    ∃ p', p.initFromMsg c e msg = .ok p' := by
  refine initFromMsg_ok h_mode h_carries fun h_better => ?_
  simp [isOtherCliqueBetter, h_own] at h_better

theorem fishedTrolling_eq_some : p.fishedTrolling ev = some msg ↔
    ev = .hearInFishSlot msg ∧ p.fishing.mode = .trolling ∧
      (msg.type = .masterSync ∨ msg.type = .workSync) := by
  cases ev with
  | hearInFishSlot msg' =>
      by_cases h_catch : p.fishing.mode = .trolling ∧
          (msg'.type = .masterSync ∨ msg'.type = .workSync)
      · rw [fishedTrolling, if_pos h_catch, Option.some_inj, ProtocolEvent.hearInFishSlot.injEq]
        refine ⟨fun h => ?_, fun h => h.1⟩
        exact ⟨h, h ▸ h_catch⟩
      · rw [fishedTrolling, if_neg h_catch]
        refine iff_of_false nofun ?_
        rintro ⟨h_ev, h_mode, h_type⟩
        cases h_ev
        exact h_catch ⟨h_mode, h_type⟩
  | _ => exact iff_of_false nofun (fun h => nomatch h.1)

/-- The catch is what a completed event in the fish slot does. -/
theorem fishedTrolling_catches (h_fished : p.fishedTrolling ev = some msg)
    (h_step : stepProtocol c p e ev = .ok p') : p.toMergerFromFisher c e msg = .ok p' := by
  obtain ⟨rfl, h_mode, h_type⟩ := fishedTrolling_eq_some.1 h_fished
  obtain ⟨⟨r, p₁⟩, h_handle, rfl⟩ := bind_return_eq_ok.1 h_step
  exact FishSlot.handle_catches h_mode h_type h_handle

theorem toMergerFromFisher_ranks (h : p.toMergerFromFisher c e msg = .ok p') :
    RanksCliques p msg p' ↔ msg.masterID ≠ p.masterID := by
  unfold toMergerFromFisher at h
  obtain ⟨-, h⟩ := require_bind_eq_ok.1 h
  obtain ⟨-, h⟩ := require_bind_eq_ok.1 h
  exact initFromMsg_ranks (p := { p with role := .merger }) h

/-- A unit becomes a merger by a catch only. -/
theorem becomes_merger (h_step : stepProtocol c p e ev = .ok p') (h_was : p.role ≠ .merger)
    (h_is : p'.role = .merger) : ∃ msg, p.fishedTrolling ev = some msg := by
  cases stepProtocol_merger h_step with
  | kept h_role =>
      rw [h_role] at h_is
      exact absurd h_is h_was
  | left h_role => exact absurd h_is h_role
  | @became msg h_heard _ h_mode =>
      cases ev with
      | hearInSyncSlot msg' =>
          obtain ⟨⟨r, p₁⟩, h_handle, rfl⟩ := bind_return_eq_ok.1 h_step
          rw [(SyncSlot.handle_heard h_handle).merger.1] at h_is
          exact absurd h_is h_was
      | hearInFishSlot msg' =>
          obtain ⟨⟨r, p₁⟩, h_handle, rfl⟩ := bind_return_eq_ok.1 h_step
          have h_fished : (msg'.type = .masterSync ∨ msg'.type = .workSync) →
              p.fishedTrolling (.hearInFishSlot msg') = some msg' :=
            fun h_type => fishedTrolling_eq_some.2 ⟨rfl, h_mode, h_type⟩
          cases FishSlot.handle_heard h_handle with
          | mergesMy _ _ h_adopts => exact ⟨msg', h_fished (adoptsInFishSlot_iff.1 h_adopts).1⟩
          | mergesOther _ _ h_type => exact ⟨msg', h_fished h_type⟩
          | caughtDeep => exact absurd h_is h_was
          | kept => exact absurd h_is h_was
      | _ => cases h_heard

/-- A merger that is one after the step has ranked cliques if it had, and if the
    step catches no member of the unit's own clique. -/
theorem ranked_step (h_step : stepProtocol c p e ev = .ok p')
    (h_other : ∀ msg ∈ p.fishedTrolling ev, msg.masterID ≠ p.masterID)
    (h_ranked : p.role = .merger →
      p.cliqueMerger.superiorMasterID < p.cliqueMerger.inferiorMasterID)
    (h_is : p'.role = .merger) :
    p'.cliqueMerger.superiorMasterID < p'.cliqueMerger.inferiorMasterID := by
  by_cases h_was : p.role = .merger
  · cases stepProtocol_merger h_step with
    | kept _ h_merger =>
        rw [h_merger]
        exact h_ranked h_was
    | left h_role => exact absurd h_is h_role
    | became _ h_fisher =>
        rw [h_was] at h_fisher
        cases h_fisher
  · obtain ⟨msg, h_fished⟩ := becomes_merger h_step h_was h_is
    have h_catch := fishedTrolling_catches h_fished h_step
    exact ((toMergerFromFisher_ranks h_catch).2 (h_other msg h_fished)).1

end Catch

-- ============================================================================
-- Runs
-- ============================================================================

/-- In every state of every run a catch by trolling ranks the two cliques exactly
    if it is of another clique, so a run ranks all its catches exactly if all are,
    and then all its mergers are ranked. -/
theorem ranks_cliques_iff {c : Config} {w : Protocol × List ProtocolMove}
    (h : (protocolSystem c).recorded.Reachable w) :
    (∀ e msg, w.1.fishing.mode = .trolling →
      (msg.type = .masterSync ∨ msg.type = .workSync) →
      ((∀ p', w.1.initFromMsg c e msg = .ok p' → RanksCliques w.1 msg p') ↔
        msg.masterID ≠ w.1.masterID)) ∧
    ((∀ t ∈ w.2, RanksCatch t) ↔ ∀ t ∈ w.2, CatchesOther t) ∧
    ((∀ t ∈ w.2, CatchesOther t) → w.1.role = .merger →
      w.1.cliqueMerger.superiorMasterID < w.1.cliqueMerger.inferiorMasterID) := by
  refine ⟨?_, ?_, ?_⟩
  · intro e msg h_mode h_type
    refine ⟨fun h_ranks h_own => ?_, fun h_other p' h_init => ?_⟩
    · obtain ⟨p', h_init⟩ :=
        initFromMsg_own (c := c) (e := e) h_mode (doesCarrySync_of_type h_type) h_own
      exact (initFromMsg_ranks h_init).1 (h_ranks p' h_init) h_own
    · exact (initFromMsg_ranks h_init).2 h_other
  · refine h.recorded_congr fun t _ _ h_step => forall₂_congr fun msg h_fished => ?_
    exact toMergerFromFisher_ranks (fishedTrolling_catches h_fished h_step)
  · intro h_other
    have h_run := (h.recorded_guarded (fun (p : Protocol) (l : Env × ProtocolEvent) =>
      ∀ msg ∈ p.fishedTrolling l.2, msg.masterID ≠ p.masterID) h_other).1
    refine h_run.invariant (fun p => p.role = .merger →
      p.cliqueMerger.superiorMasterID < p.cliqueMerger.inferiorMasterID) ?_ ?_
    · rintro p ⟨initTime, loopTime, rfl⟩ h_role
      cases h_role
    · rintro p ⟨e, ev⟩ p' h_ranked ⟨-, h_ok⟩ h_step
      exact ranked_step h_step h_ok h_ranked

-- ============================================================================
-- A member that has drifted
-- ============================================================================

/-- Unit five catches clique nine. -/
theorem ranks_cliques_iff_caughtNine :
    ∃ w, (protocolSystem unitFive).recorded.Reachable w ∧ w.1.role = .merger ∧
      w.1.cliqueMerger.superiorMasterID < w.1.cliqueMerger.inferiorMasterID := by
  obtain ⟨w, h, h_role, h_other⟩ :=
    System.Reachable.exists_of_play (M := (protocolSystem unitFive).recorded)
      (P := fun w => w.1.role = .merger ∧ ∀ t ∈ w.2, CatchesOther t)
      (becomesFisher ++ [caughtNine])
      (show (protocolSystem unitFive).recorded.init (bootedFive, []) from ⟨⟨0, 0, rfl⟩, rfl⟩)
      (by decide +kernel)
  exact ⟨w, h, h_role, (ranks_cliques_iff h).2.2 h_other h_role⟩

/-- The work of a member of clique five that has drifted into a fish slot. -/
def driftedWorkSync : SyncMessage :=
  { masterSyncFrom 5 (.ofTicks 79975) with type := .workSync }

/-- Unit five merges its own clique into its own clique. -/
theorem merges_own_clique :
    ∃ a a', (agentSystem unitFive).Reachable a ∧ a.protocol.fishing.mode = .trolling ∧
      a.protocol.masterID = 5 ∧
      stepAgent unitFive a (arriving 80120) (.packet (some (bufferOf driftedWorkSync))) =
        .ok a' ∧
      a'.protocol.role = .merger ∧ a'.protocol.cliqueMerger.kindOfMerger = .mergeOther ∧
      ¬ RanksCliques a.protocol driftedWorkSync a'.protocol := by
  obtain ⟨a, a', h, -, h_step, h_mode, h_master, h_role, h_kind, h_not⟩ :=
    System.Reachable.exists_step_of_play (M := agentSystem unitFive)
      (P := fun a a' => a.protocol.fishing.mode = .trolling ∧ a.protocol.masterID = 5 ∧
        a'.protocol.role = .merger ∧ a'.protocol.cliqueMerger.kindOfMerger = .mergeOther ∧
        ¬ RanksCliques a.protocol driftedWorkSync a'.protocol)
      untilFishing (arrives 80120 driftedWorkSync) ⟨0, 0, Nat.le_refl 0, rfl⟩
      (by decide +kernel)
  exact ⟨a, a', h, h_mode, h_master, h_step, h_role, h_kind, h_not⟩

end SleepSync
