/-
  SleepSync.StopsInRuns

  Where an assertion of the protocol can stop a unit in a run of its tasks.

  Every such assertion is in an event of the protocol, in a state that events of
  the protocol reach, or in one of a few places beside the events: the building of
  messages, and the start of a merge slot.  So an assertion that no event fails, in
  no reachable state, does not fail in a run of the tasks either, up to these
  places.  The bookkeeping of the prelude, which the loader does once before there
  is a period, fails no assertion at all.
-/

import SleepSync.RoleConsistency

namespace SleepSync

open Lib ScheduleParameters FishingParameters

-- ============================================================================
-- The bookkeeping
-- ============================================================================

section Bookkeeping

variable {c : Config} {e : Env} {p : Protocol} {flt : Fault}

/-- The manager restarts the policy only with a duration that it may have, whatever
    the duration was. -/
theorem Fishing.manage_ok (f : Fishing) (vcc : Bool) :
    ∃ f', f.manage vcc = .ok f' := by
  unfold Fishing.manage
  cases vcc with
  | false => exact ⟨_, rfl⟩
  | true =>
      cases h_max : f.isMaxFishing with
      | true => exact ⟨f, rfl⟩
      | false =>
          by_cases h_fits : maxTrollingRealFishSessionDurationSlots <
              f.session.durationInSlots + 20
          · exact ⟨_, bind_return_eq_ok.2 ⟨f, if_pos h_fits, rfl⟩⟩
          · have h_longer : Fishing.SessionBounded { f with session :=
                { durationInSlots := f.session.durationInSlots + 20
                  durationInTicks := (f.session.durationInSlots + 20) *
                    minTrollingFishSessionDurationTicks } } := Nat.le_of_not_lt h_fits
            obtain ⟨f', h_f'⟩ := h_longer.restart
            exact ⟨_, bind_return_eq_ok.2 ⟨f', (if_neg h_fits).trans h_f', rfl⟩⟩

theorem bookkeeping_ne_error :
    stepProtocol c p e .bookkeepingAtPreludeToSyncSlot ≠ .error flt := by
  intro h
  have h_manage := bind_return_eq_error.1 h
  obtain ⟨f', h_ok⟩ := Fishing.manage_ok
    ((p.callApp .onSyncPoint).checkPowerAndTryModeTransitions c e).fishing e.isVccAbove2_7V
  cases h_ok.symm.trans h_manage

end Bookkeeping

/-- How a step of a run stops at an assertion of the protocol. -/
inductive RunStops (c : Config) (e : Env) (flt : Fault) : Prop
  | event {p : Protocol} {ev : ProtocolEvent} (h_reach : (protocolSystem c).Reachable p)
      (h_step : stepProtocol c p e ev = .error flt) : RunStops c e flt
  /-- a sync message that is built, or a packet that is read -/
  | message (h_flt : flt = .doesNotCarrySync ∨ flt = .deltaSyncRange) : RunStops c e flt
  | mergeStart {p : Protocol} (h_reach : (protocolSystem c).Reachable p)
      (h_role : p.role = .merger) (h_start : p.deltaToThisMergeStart c e = .error flt) :
      RunStops c e flt
  | mergeMsg {p : Protocol} (h_reach : (protocolSystem c).Reachable p)
      (h_msg : p.makeMergeMsg c e = .error flt) : RunStops c e flt

/-- The assertions of the messages that are built or read. -/
def messageAssertions : List Fault := [.doesNotCarrySync, .deltaSyncRange, .mergerNotActive]

section RunStops

variable {c : Config} {e : Env} {flt bad : Fault}

/-- An assertion of no message, that neither an event fails nor the start of a merge
    slot, does not stop a run. -/
theorem RunStops.ne (h : RunStops c e flt) (h_message : bad ∉ messageAssertions)
    (h_event : ∀ p ev, (protocolSystem c).Reachable p → stepProtocol c p e ev ≠ .error bad)
    (h_mergeStart : ∀ p, (protocolSystem c).Reachable p → p.role = .merger →
      p.deltaToThisMergeStart c e ≠ .error bad) : flt ≠ bad := by
  rintro rfl
  cases h with
  | event h_reach h_step => exact h_event _ _ h_reach h_step
  | message h_flt => rcases h_flt with rfl | rfl <;> exact h_message (by decide)
  | mergeStart h_reach h_role h_start => exact h_mergeStart _ h_reach h_role h_start
  | mergeMsg _ h_msg =>
      rcases Protocol.makeMergeMsg_eq_error h_msg with ⟨rfl, -⟩ | ⟨rfl, -⟩ <;>
        exact h_message (by decide)

/-- The start of a merge slot has one assertion of its own. -/
theorem RunStops.ne_of_events (h : RunStops c e flt)
    (h_bad : bad ∉ .mergeStartTooLate :: messageAssertions)
    (h_event : ∀ p ev, (protocolSystem c).Reachable p → stepProtocol c p e ev ≠ .error bad) :
    flt ≠ bad := by
  obtain ⟨h_late, h_message⟩ := List.ne_and_not_mem_of_not_mem_cons h_bad
  refine h.ne h_message h_event fun p _ _ h_start => ?_
  obtain ⟨-, h_pure⟩ := require_bind_eq_error_of_ne (bind_return_eq_error.1 h_start) h_late
  cases h_pure

end RunStops

namespace Agent

variable {c : Config} {e : Env} {a : Agent} {ev : AgentEvent} {t : Task} {flt : Fault}

-- ============================================================================
-- The end of the sync slot
-- ============================================================================

theorem tryFishOrMerge_inRun (h_reach : (protocolSystem c).Reachable a.protocol)
    (h : a.tryFishOrMerge c e = .error (.protocol flt)) : RunStops c e flt := by
  have h_omit : ∀ {b : Agent}, b.omitNonsyncSlot c e ≠ .error (.protocol flt) := by
    intro b h_b
    obtain ⟨h_flt, -⟩ := (undo_syncSlotAfterSyncSlot_outcome c e b.undo rfl).fault h_b
    cases h_flt
  unfold tryFishOrMerge at h
  split at h
  case h_1 h_role =>
    split at h
    · obtain ⟨f, h_f, h_start⟩ := ofProtocol_eq_error.1 (bind_return_eq_error.1 h)
      cases h_f
      exact RunStops.mergeStart h_reach h_role h_start
    · exact absurd h h_omit
  case h_2 =>
    split at h
    · obtain ⟨h_flt, -⟩ := (fishing_outcome c e _).fault h
      cases h_flt
    · exact absurd h h_omit
  case h_3 => exact absurd h h_omit

/-- The radio prelude stops at no assertion of the protocol. -/
theorem tryUndoAfterSyncing_ne_error : a.tryUndoAfterSyncing ≠ .error (.protocol flt) := by
  intro h
  have h_should := bind_return_eq_error.1 h
  unfold shouldUndoAfterSyncing at h_should
  rcases require_bind_eq_error.1 h_should with ⟨-, h_flt⟩ | ⟨-, h_should⟩
  · cases h_flt
  · split at h_should
    · cases h_should
    · split at h_should <;> cases h_should
    · cases h_should
    · cases h_should

theorem scheduleNonSyncTask_inRun (h_reach : (protocolSystem c).Reachable a.protocol)
    (h_start : a.protocol.schedule.startTimeOfSyncPeriod ≤ e.now)
    (h : a.scheduleNonSyncTask c e = .error (.protocol flt)) : RunStops c e flt := by
  unfold scheduleNonSyncTask at h
  rcases bind_eq_error.1 h with h_fish | ⟨p, h_fish, h⟩
  · obtain ⟨f, h_f, h_fish⟩ := ofProtocol_eq_error.1 h_fish
    cases h_f
    have h_step : stepProtocol c a.protocol e .preFishing = .error flt := h_fish
    exact RunStops.event h_reach h_step
  have h_step : stepProtocol c a.protocol e .preFishing = .ok p := ofProtocol_eq_ok.1 h_fish
  have h_p : (protocolSystem c).Reachable p :=
    h_reach.leads (leads_of_stepProtocol rfl h_start h_step)
  rcases bind_eq_error.1 h with h_undo | ⟨a₁, h_undo, h⟩
  · exact absurd h_undo tryUndoAfterSyncing_ne_error
  obtain ⟨-, h_a₁⟩ := (tryUndoAfterSyncing_outcome _).result h_undo
  have h_same : a₁.protocol = p := by
    rw [h_a₁]
    split <;> rfl
  split at h
  case h_1 =>
    rcases require_bind_eq_error.1 h with ⟨-, h_flt⟩ | ⟨-, h⟩
    · cases h_flt
    · obtain ⟨h_flt, -⟩ := (radioPreludeTaskWSync_outcome c e a₁).fault h
      cases h_flt
  case h_2 => exact tryFishOrMerge_inRun (h_same ▸ h_p) h
  case h_3 => split at h <;> cases h
  case h_4 => cases h

-- ============================================================================
-- Tasks
-- ============================================================================

/-- The tasks that do not end a sync slot are of one state. -/
theorem TaskStops.inRun (h : TaskStops c e a t (.protocol flt))
    (h_reach : (protocolSystem c).Reachable a.protocol)
    (h_start : a.protocol.schedule.startTimeOfSyncPeriod ≤ e.now) (h_t : ¬ endsSyncSlot t) :
    RunStops c e flt := by
  cases h with
  | handOver h_flt => cases h_flt
  | bookkeeping h_step => exact RunStops.event h_reach h_step
  | dispatch _ h_step => exact RunStops.event (h_reach.leads (leads_rolled h_start)) h_step
  | send h_msg => exact RunStops.message (syncSlotMessage_stops h_msg)
  | endListen => exact absurd (Or.inl rfl) h_t
  | preFishing h_ends => exact absurd h_ends h_t
  | mergeStart h_ends => exact absurd h_ends h_t
  | checkFishingDone h_step => exact RunStops.event h_reach h_step
  | makeMergeMsg h_msg => exact RunStops.mergeMsg h_reach h_msg
  | mergeSyncSent h_step => exact RunStops.event h_reach h_step

theorem runTask_inRun (h_reach : (protocolSystem c).Reachable a.protocol)
    (h_start : a.protocol.schedule.startTimeOfSyncPeriod ≤ e.now)
    (h : a.runTask c e t = .error (.protocol flt)) : RunStops c e flt := by
  by_cases h_t : endsSyncSlot t
  · rcases h_t with rfl | rfl
    · -- the dropout is before the fish slot is chosen
      rcases bind_eq_error.1 h with h_listen | ⟨a₁, h_listen, h⟩
      · obtain ⟨f, h_f, h_end⟩ := ofProtocol_eq_error.1 (bind_return_eq_error.1 h_listen)
        cases h_f
        have h_step : stepProtocol c a.protocol e .endListen = .error flt := h_end
        exact RunStops.event h_reach h_step
      · obtain ⟨p, h_end, rfl⟩ := bind_return_eq_ok.1 h_listen
        have h_step : stepProtocol c a.protocol e .endListen = .ok p := ofProtocol_eq_ok.1 h_end
        refine scheduleNonSyncTask_inRun ?_ ?_ h
        · exact h_reach.leads (leads_of_stepProtocol rfl h_start h_step)
        · exact (Protocol.stepProtocol_start ProtocolEvent.noConfusion h_step).trans_le h_start
    · rcases require_bind_eq_error.1 h with ⟨-, h_flt⟩ | ⟨-, h⟩
      · cases h_flt
      · exact scheduleNonSyncTask_inRun h_reach h_start h
  · exact (runTask_stops h).inRun h_reach h_start h_t

/-- The loader's first task stops at none. -/
theorem startSyncPeriodMaintain_ne_error :
    a.runTask c e .startSyncPeriodMaintain ≠ .error (.protocol flt) := by
  intro h
  cases runTask_stops h with
  | handOver h_flt => cases h_flt
  | bookkeeping h_step => exact bookkeeping_ne_error h_step
  | dispatch h_t => rcases h_t with h_t | h_t <;> cases h_t
  | preFishing h_t => rcases h_t with h_t | h_t <;> cases h_t
  | mergeStart h_t => rcases h_t with h_t | h_t <;> cases h_t

end Agent

-- ============================================================================
-- Catches
-- ============================================================================

/-- The assertions of a catch that are not about the schedule. -/
def catchAssertions : List Fault :=
  [.doesNotCarrySync, .notFisher, .mergeFromDeep, .stillSelfMaster]

/-- A catch can stop at `flt`: the range of the merge slot is not among them. -/
def Fault.InCatch (flt : Fault) : Prop := flt.isAdjust = true ∨ flt ∈ catchAssertions

section Catches

variable {c : Config} {e : Env} {p : Protocol} {msg : SyncMessage} {flt : Fault}

theorem updateBySyncMessage_inCatch (h : p.updateBySyncMessage e msg = .error flt) :
    flt.InCatch := by
  by_cases h_carries : msg.type.doesCarrySync = true
  · have h_adjust := Protocol.updateBySyncMessage_eq_error h_carries h
    exact Or.inl (Schedule.adjustBySyncMsg_isAdjust h_adjust)
  · rcases require_bind_eq_error.1 h with ⟨-, rfl⟩ | ⟨h_yes, -⟩
    · exact Or.inr (by decide)
    · exact absurd h_yes h_carries

theorem initFromMsg_inCatch (h : p.initFromMsg c e msg = .error flt) : flt.InCatch := by
  unfold Protocol.initFromMsg at h
  rcases require_bind_eq_error.1 h with ⟨-, rfl⟩ | ⟨-, h⟩
  · exact Or.inr (by decide)
  rcases require_bind_eq_error.1 h with ⟨-, rfl⟩ | ⟨-, h⟩
  · exact Or.inr (by decide)
  have h_merge := bind_return_eq_error.1 h
  split at h_merge
  · unfold Protocol.initMergeMyClique at h_merge
    rcases bind_eq_error.1 h_merge with h_t | ⟨t, -, h_merge⟩
    · have h_le := Protocol.periodTimeToMergeMyClique_le c p.schedule e.timeOfArrival
      cases (Protocol.periodTimeSet_eq_ok.2 ⟨h_le, rfl⟩).symm.trans h_t
    rcases bind_eq_error.1 h_merge with h_upd | ⟨p₁, -, h_merge⟩
    · exact updateBySyncMessage_inCatch h_upd
    · rcases require_bind_eq_error.1 h_merge with ⟨-, rfl⟩ | ⟨-, h_pure⟩
      · exact Or.inr (by decide)
      · cases h_pure
  · obtain ⟨p', h_ok⟩ := Protocol.initMergeOtherClique_ok c e p msg
    cases h_ok.symm.trans h_merge

theorem doFishedSyncMsg_inCatch (h : p.doFishedSyncMsg c e msg = .error flt) : flt.InCatch := by
  unfold Protocol.doFishedSyncMsg at h
  split at h
  case h_1 =>
    have h_catch := bind_return_eq_error.1 h
    unfold Protocol.toMergerFromFisher at h_catch
    rcases require_bind_eq_error.1 h_catch with ⟨-, rfl⟩ | ⟨-, h_catch⟩
    · exact Or.inr (by decide)
    rcases require_bind_eq_error.1 h_catch with ⟨-, rfl⟩ | ⟨-, h_catch⟩
    · exact Or.inr (by decide)
    exact initFromMsg_inCatch h_catch
  case h_2 =>
    unfold Protocol.handleCatchFromDeepFishing at h
    rcases require_bind_eq_error.1 h with ⟨-, rfl⟩ | ⟨-, h⟩
    · exact Or.inr (by decide)
    · split at h
      · exact updateBySyncMessage_inCatch (bind_return_eq_error.1 h)
      · cases h

theorem hearInFishSlot_inCatch
    (h : stepProtocol c p e (.hearInFishSlot msg) = .error flt) : flt.InCatch := by
  have h_handle := bind_return_eq_error.1 h
  unfold Protocol.FishSlot.handle at h_handle
  split at h_handle
  case h_1 => exact doFishedSyncMsg_inCatch h_handle
  case h_2 => exact doFishedSyncMsg_inCatch (bind_return_eq_error.1 h_handle)
  all_goals cases h_handle

end Catches

-- ============================================================================
-- Runs
-- ============================================================================

/-- Every step of a run: where it stops at an assertion of the protocol. -/
theorem agentSystem_stops {c : Config} {a : Agent} {e : Env} {ev : AgentEvent} {flt : Fault}
    (h : (agentSystem c).Reachable a) (h_en : (agentSystem c).enabled a (e, ev))
    (h_step : (agentSystem c).step a (e, ev) = .error (.protocol flt)) : RunStops c e flt := by
  have h_one := agentSystem_oneTask h.guarded_true
  have h_kept := agentSystem_periodKept h
  obtain ⟨h_clock, h_possible⟩ := h_en
  have h_stop : stepAgent c a e ev = .error (.protocol flt) := h_step
  cases ev with
  | timer t x =>
      obtain ⟨h_mem, -⟩ := h_possible
      have h_pending := h_one.pending_eq h_mem
      have h_run : (a.dequeued e t x).runTask c e t = .error (.protocol flt) := h_step
      by_cases h_t : t = .startSyncPeriodMaintain
      · subst h_t
        exact absurd h_run Agent.startSyncPeriodMaintain_ne_error
      · have h_start := (h_kept.waiting t x h_pending).start
        have h_reach : (protocolSystem c).Reachable a.protocol := by
          refine agentSystem_reaches h fun y h_first => ?_
          rw [h_first] at h_pending
          cases h_pending
          exact h_t rfl
        exact Agent.runTask_inRun (a := a.dequeued e t x) h_reach
          (Nat.le_trans h_start h_clock) h_run
  | packet received =>
      cases Agent.stepAgent_stops h_stop with
      | garbled h_flt => exact RunStops.message (Or.inr h_flt)
      | heard h_radio _ h_heard => exact RunStops.event (agentSystem_listening h h_radio) h_heard
  | provisionerSucceed provision =>
      have h_idle := h_one.isProvisioning h_possible
      cases Agent.stepAgent_stops h_stop with
      | provisioned h_prov =>
          refine RunStops.event (agentSystem_reaches h fun x h_first => ?_) h_prov
          rw [h_first] at h_idle
          cases h_idle
  | provisionerFail => cases h_stop

end SleepSync
