/-
  SleepSync.AirConvergence

  How often the election on the air can change.

  A unit joins a clique when its master becomes a better one, and leaves when it
  becomes a worse one, which is then the unit itself: it has dropped out, has not
  recovered the master that departed, or heard that its master abandons or that
  its clique scatters.  Between two leaves, each join is to one of fewer units.
  So in a run of `n` units in which nobody leaves, there are at most as many
  joins as there are pairs of units, whatever is received, lost or repeated.
-/

import SleepSync.AirElection
import SleepSync.Lib.Potential
import SleepSync.RoleStability

namespace SleepSync

open Lib Protocol

-- ============================================================================
-- Who leaves a clique
-- ============================================================================

namespace Protocol

/-- The events in which a unit goes from a clique to its own. -/
inductive Leaves (p : Protocol) : ProtocolEvent → Prop
  | droppedOut (h_count : p.countSyncSlotsWithoutSyncMsg = Policy.maxMissingSyncsPerDropout) :
      Leaves p .endListen
  | notRecovered (h_fails : p.failsToRecover = true) : Leaves p .checkFishingDone
  | abandoned {msg : SyncMessage} (h_type : msg.type = .abandonMastership) :
      Leaves p (.hearInSyncSlot msg)
  | scattered {msg : SyncMessage} (h_type : msg.type = .controlScatterClique)
      (h_mine : p.isMsgFromMyClique msg.masterID = true) : Leaves p (.hearInSyncSlot msg)

variable {c : Config} {e : Env} {p p' : Protocol} {ev : ProtocolEvent}

/-- Any other event leaves the master, or improves it. -/
theorem leaves_of_worse (h : stepProtocol c p e ev = .ok p')
    (h_worse : p.masterID < p'.masterID) : p.Leaves ev := by
  have h_same : p'.masterID = p.masterID → p.Leaves ev := by
    intro h_eq
    omega
  cases stepProtocol_done h with
  | @heard msg _ h_heard =>
      cases h_heard with
      | joined h_adopts =>
          have h_from := masterID_le_of_keeps (adoptsInSyncSlot_iff.1 h_adopts).2
          exact absurd h_worse (Nat.not_lt.2 h_from)
      | scattered h_type h_mine => exact Leaves.scattered h_type h_mine
      | assumed h_type => exact Leaves.abandoned h_type
      | enticed => exact h_same rfl
      | other => exact h_same rfl
  | @fished msg _ h_fished =>
      have h_joined : p.adoptsInFishSlot msg = true → p'.masterID = msg.masterID →
          p.Leaves (.hearInFishSlot msg) := by
        intro h_adopts h_master
        have h_from := masterID_le_of_keeps (Or.inr (adoptsInFishSlot_iff.1 h_adopts).2)
        omega
      cases h_fished with
      | mergesMy _ _ h_adopts => exact h_joined h_adopts rfl
      | caughtDeep _ h_adopts => exact h_joined h_adopts rfl
      | mergesOther => exact h_same rfl
      | kept => exact h_same rfl
  | scattered h_master =>
      have h_own : p.masterID = c.id := of_decide_eq_true h_master
      exact h_same h_own.symm
  | listened h_ended =>
      cases h_ended with
      | asMaster => exact h_same rfl
      | missed => exact h_same rfl
      | grabbed _ h_count => exact Leaves.droppedOut h_count
      | reverted _ h_count => exact Leaves.droppedOut h_count
  | checked h_checked =>
      cases h_checked with
      | goesOn => exact h_same rfl
      | @finished callback h_mode h_count h_callback =>
          cases callback with
          | endWithNoAction => exact h_same rfl
          | endWithRecoverMaster =>
              exact Leaves.notRecovered (decide_eq_true ⟨h_mode, h_count, h_callback⟩)
  | _ => exact h_same rfl

end Protocol

namespace Agent

/-- The same for the events of the task machine. -/
inductive Leaves (a : Agent) : AgentEvent → Prop
  | listened {x : Nat} (h_leaves : a.protocol.Leaves .endListen) :
      Leaves a (.timer .endSyncSlotListen x)
  | fished {x : Nat} (h_leaves : a.protocol.Leaves .checkFishingDone) :
      Leaves a (.timer .fishSlotEnd x)
  | heard {packet : Option RadioBuffer} {msg : SyncMessage} {handler : MessageHandler}
      (h_radio : a.radio = some handler) (h_msg : messageOf packet = some msg)
      (h_leaves : a.protocol.Leaves (hears handler msg)) : Leaves a (.packet packet)

variable {c : Config} {e : Env} {a a' : Agent} {ev : AgentEvent} {t : Task} {x : Nat}

theorem TaskRan.leaves (h : TaskRan c e a t a')
    (h_worse : a.protocol.masterID < a'.protocol.masterID) : a.Leaves (.timer t x) := by
  have h_same : a'.protocol.masterID = a.protocol.masterID → a.Leaves (.timer t x) := by
    intro h_eq
    omega
  have h_book : ∀ {p : Protocol}, a.protocol.bookkeepingAtPreludeToSyncSlot c e = .ok p →
      p.masterID = a.protocol.masterID := by
    intro p h_p
    obtain ⟨m, r, k, n, f, l, rfl⟩ := Protocol.bookkeeping_frame h_p
    rfl
  have h_dispatch : ∀ {p : Protocol},
      stepProtocol c a.protocol.preludeToSyncPeriod e .dispatchSyncSlotKind = .ok p →
        ¬ a.protocol.masterID < p.masterID := by
    intro p h_step h_lt
    cases Protocol.leaves_of_worse h_step h_lt
  have h_fish : ∀ {p p' : Protocol}, p.preFishing = .ok p' → p'.masterID = p.masterID := by
    intro p p' h_p'
    obtain ⟨f, -, rfl⟩ := bind_return_eq_ok.1 h_p'
    rfl
  cases h with
  | maintained _ _ h_p =>
      have h_master := h_book h_p
      exact h_same h_master
  | resumed _ _ h_p =>
      have h_master := h_book h_p
      exact h_same h_master
  | preludesSync h_p =>
      have h_master := h_book h_p
      exact h_same h_master
  | sends _ _ _ _ _ _ h_step => exact absurd h_worse (h_dispatch h_step)
  | listens _ _ _ _ _ h_step => exact absurd h_worse (h_dispatch h_step)
  | @listened p _ _ _ h_end h_p h_next =>
      have h_step : stepProtocol c a.protocol e .endListen = .ok p := h_end
      refine Leaves.listened (Protocol.leaves_of_worse h_step ?_)
      rw [h_next.masterID] at h_worse
      exact Nat.lt_of_lt_of_eq h_worse (h_fish h_p)
  | sentOver _ h_p h_next => exact h_same (h_next.masterID.trans (h_fish h_p))
  | @fished p _ _ h_check h_next =>
      have h_step : stepProtocol c a.protocol e .checkFishingDone = .ok p := h_check
      refine Leaves.fished (Protocol.leaves_of_worse h_step ?_)
      rw [h_next.protocol] at h_worse
      exact h_worse
  | @merged msg p _ _ h_sent h_next =>
      refine h_same ?_
      rw [h_next.protocol]
      rcases (mergeSyncSent_eq_ok h_sent).2 with ⟨-, rfl⟩ | ⟨-, rfl⟩ <;> rfl
  | failsToProvision _ _ h_next => exact h_same (congrArg Protocol.masterID h_next.protocol)
  | provisioned h_next => exact h_same (congrArg Protocol.masterID h_next.protocol)
  | _ => exact h_same rfl

/-- Where the master of a unit becomes a worse one, the unit leaves. -/
theorem AgentStep.leaves (h : AgentStep c e a ev a')
    (h_worse : a.protocol.masterID < a'.protocol.masterID) : a.Leaves ev := by
  cases h with
  | @ran t x _ _ _ _ _ h_ran =>
      cases h_ran.leaves (x := x) h_worse with
      | listened h_leaves => exact Leaves.listened h_leaves
      | fished h_leaves => exact Leaves.fished h_leaves
  | heard h_radio _ _ h_taken =>
      cases h_taken with
      | ignored => exact absurd h_worse (Nat.lt_irrefl _)
      | goesOn h_msg h_step =>
          exact Leaves.heard h_radio h_msg (Protocol.leaves_of_worse h_step h_worse)
      | ends h_msg h_step =>
          exact Leaves.heard h_radio h_msg (Protocol.leaves_of_worse h_step h_worse)
  | succeeded _ _ h_p =>
      obtain ⟨i, l, rfl⟩ := provisionSucceed_eq_ok h_p
      exact absurd h_worse (Nat.lt_irrefl _)
  | failed => exact absurd h_worse (Nat.lt_irrefl _)

end Agent

-- ============================================================================
-- Joins and leaves in a run
-- ============================================================================

namespace Units

variable {ι : Type} {u : Units ι} {zero : ι → ℤ}

/-- In the step, unit `i` goes to a better clique. -/
def joins (i : ι) (t : AirMove ι) : Bool :=
  (t.after i).protocol.masterID < (t.before i).protocol.masterID

/-- In the step, unit `i` goes to a worse clique. -/
def leaves (i : ι) (t : AirMove ι) : Bool :=
  (t.before i).protocol.masterID < (t.after i).protocol.masterID

variable [DecidableEq ι] {w : ι → Agent} {moves : List (AirMove ι)}

/-- A unit that goes to a worse clique has one of the causes, and is its own master
    then. -/
theorem air_leaves {i : ι} {t : AirMove ι} (h_reach : (u.stations zero).air.Reachable t.before)
    (h_en : (u.stations zero).air.enabled t.before t.label)
    (h_next : (u.stations zero).air.step t.before t.label = .ok t.after)
    (h_leaves : leaves i t = true) :
    t.label.1 = i ∧ (t.before i).Leaves t.label.2.2 ∧
      (t.after i).protocol.isSelfMaster (u.config i) = true := by
  have h_worse : (t.before i).protocol.masterID < (t.after i).protocol.masterID :=
    of_decide_eq_true h_leaves
  have h_run := h_reach.guarded_true
  obtain ⟨h_own, h_frame⟩ := Stations.air_step h_next
  have h_i : i = t.label.1 := by
    by_contra h_ne
    rw [h_frame i h_ne] at h_worse
    exact Nat.lt_irrefl _ h_worse
  refine ⟨h_i.symm, ?_, ?_⟩
  · subst h_i
    have h_one := agentSystem_oneTask (air_agent h_run t.label.1).guarded_true
    have h_step := Agent.stepAgent_step h_one h_en.1.2 h_own
    exact h_step.leaves h_worse
  · rcases air_step_masterID h_run h_en h_next i with h_same | h_better | h_self
    · omega
    · have h_lt := of_decide_eq_true h_better
      omega
    · exact decide_eq_true h_self

variable [Fintype ι]

/-- How many units are better than `id`. -/
def betterThan (u : Units ι) (id : Nat) : Nat := below (fun i => (u.config i).id) id

/-- Of a unit, what it has left pays for what it has joined. -/
theorem air_joins_paid (h : (u.stations zero).air.recorded.Reachable (w, moves)) (i : ι) :
    moves.countP (joins i) + u.betterThan (w i).protocol.masterID ≤
      u.betterThan (u.config i).id * (moves.countP (leaves i) + 1) := by
  refine h.recorded_paid (fun s => u.betterThan (s i).protocol.masterID) ?_ ?_ ?_
  · intro s h_s
    exact below_mono (air_follows h_s.guarded_true i).1.masterID_le
  · intro t h_s h_en h_next h_joins
    refine below_lt (of_decide_eq_true h_joins) ?_
    exact (air_follows (h_s.next h_en h_next).guarded_true i).1.masterID_mem
  · intro t _ _ _ h_stays
    exact below_mono (Nat.not_lt.1 (of_decide_eq_false h_stays))

/-- The election on the air settles.  In any run, a unit goes to a worse clique only
    to be its own master, for one of the causes, and between two such steps it goes
    to a better clique at most as often as there are better units.  So if no unit
    leaves more than `n` times, all units together join at most `n + 1` times as
    often as there are pairs of units. -/
theorem air_election_settles (h : (u.stations zero).air.recorded.Reachable (w, moves)) :
    (∀ t ∈ moves, ∀ i, leaves i t = true → t.label.1 = i ∧ (t.before i).Leaves t.label.2.2 ∧
      (t.after i).protocol.isSelfMaster (u.config i) = true) ∧
    (∀ i, moves.countP (joins i) + u.betterThan (w i).protocol.masterID ≤
      u.betterThan (u.config i).id * (moves.countP (leaves i) + 1)) ∧
    ∀ n, (∀ i, moves.countP (leaves i) ≤ n) →
      ∑ i, moves.countP (joins i) ≤ (Fintype.card ι).choose 2 * (n + 1) := by
  refine ⟨?_, air_joins_paid h, ?_⟩
  · intro t h_t i h_leaves
    obtain ⟨h_reach, h_en, h_next⟩ := h.recorded_moves t h_t
    exact air_leaves h_reach h_en h_next h_leaves
  · intro n h_n
    calc ∑ i, moves.countP (joins i)
        ≤ ∑ i, u.betterThan (u.config i).id * (n + 1) := by
          refine Finset.sum_le_sum fun i _ => ?_
          have h_paid := air_joins_paid h i
          have h_more : u.betterThan (u.config i).id * (moves.countP (leaves i) + 1) ≤
              u.betterThan (u.config i).id * (n + 1) :=
            Nat.mul_le_mul_left _ (Nat.succ_le_succ (h_n i))
          omega
      _ = (∑ i, u.betterThan (u.config i).id) * (n + 1) := (Finset.sum_mul _ _ _).symm
      _ = (Fintype.card ι).choose 2 * (n + 1) := by
          have h_pairs : ∑ i, u.betterThan (u.config i).id = (Fintype.card ι).choose 2 :=
            sum_below u.id_injective
          rw [h_pairs]

/-- Unit five joins unit three: the one pair there is. -/
theorem air_election_settles_fiveHearsThree :
    ∃ w, (fiveAndThree.stations 0).air.recorded.Reachable w ∧ w.2.countP (joins 0) = 1 ∧
      ∑ i, w.2.countP (joins i) ≤ Nat.choose 2 2 * 1 := by
  obtain ⟨w, h, h_joins, h_none⟩ :=
    System.Reachable.exists_of_play (M := (fiveAndThree.stations 0).air.recorded)
      (P := fun w => w.2.countP (joins 0) = 1 ∧ ∀ i, w.2.countP (leaves i) ≤ 0) fiveHearsThree
      (show (fiveAndThree.stations 0).air.recorded.init
        (fun i => Agent.boot (fiveAndThree.config i) 0 0, []) from
          ⟨fun i => ⟨0, 0, Nat.le_refl _, rfl⟩, rfl⟩)
      (by decide +kernel)
  exact ⟨w, h, h_joins, (air_election_settles h).2.2 0 h_none⟩

end Units

end SleepSync
