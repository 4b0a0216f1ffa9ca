/-
  SleepSync.TaskAssertions

  Where a step can stop, said once as `TaskRan` says what it leaves: for each
  event of the protocol the assertions it can fail, with what is then the case
  (`EventStops`), and for each task the events it is made of (`TaskStops`).

  An assertion that is missing here never fails, from any state.
-/

import SleepSync.TaskRuns

namespace SleepSync

open Lib ScheduleParameters

-- ============================================================================
-- Events of the protocol
-- ============================================================================

/-- When an event stops at an assertion.  Nothing is said of those that are about
    the schedule or the fish session. -/
inductive EventStops (c : Config) (e : Env) (p : Protocol) : ProtocolEvent → Fault → Prop
  | adjusts {ev : ProtocolEvent} {flt : Fault} (h_flt : flt.isAdjust = true) :
      EventStops c e p ev flt
  | session {ev : ProtocolEvent} : EventStops c e p ev .fishSessionRange
  | notFisher {msg : SyncMessage} (h_mode : p.fishing.mode = .trolling)
      (h_role : p.role ≠ .fisher) : EventStops c e p (.hearInFishSlot msg) .notFisher
  | periodTime {msg : SyncMessage} : EventStops c e p (.hearInFishSlot msg) .periodTimeRange
  | stillSelfMaster {msg : SyncMessage} (h_better : p.isOtherCliqueBetter msg.masterID = true)
      (h_self : msg.masterID = c.id) : EventStops c e p (.hearInFishSlot msg) .stillSelfMaster
  | notSelfMaster (h_sends : (p.decideKind c e).1 = .sendControlSync)
      (h_done : Policy.countRepeatsPerControlSync ≤ p.intraClique.repeater.counter)
      (h_callback : p.intraClique.repeater.onDoneCallback ≠ .onDoneRepeatingUpstream)
      (h_slave : p.isSelfMaster c = false) :
      EventStops c e p .dispatchSyncSlotKind .notSelfMaster
  | notSelfSlave (h_sends : (p.decideKind c e).1 = .sendControlSync)
      (h_done : Policy.countRepeatsPerControlSync ≤ p.intraClique.repeater.counter)
      (h_callback : p.intraClique.repeater.onDoneCallback = .onDoneRepeatingUpstream)
      (h_master : p.isSelfMaster c = true) :
      EventStops c e p .dispatchSyncSlotKind .notSelfSlave
  | dropoutCount (h_count : Policy.maxMissingSyncsPerDropout < p.countSyncSlotsWithoutSyncMsg) :
      EventStops c e p .endListen .dropoutCount
  | noFormerClique (h_slave : p.isSelfMaster c = false)
      (h_index : p.history.currentCliqueIndex = 0) : EventStops c e p .endListen .noFormerClique
  | noDoneCallback (h_none : p.fishing.deep.fishPolicyDoneCallback = none) :
      EventStops c e p .checkFishingDone .noDoneCallback
  | notRestarted (h_count : Policy.countSyncsPerMerger < p.countSentMergeSyncs) :
      EventStops c e p .mergeSyncSent .mergePolicyNotRestarted
  | unknownProperty {provision : ProvisionedValue} :
      EventStops c e p (.provisionSucceed provision) .unknownProperty

section Events

variable {c : Config} {e : Env} {p p' : Protocol} {ev : ProtocolEvent} {flt : Fault}

theorem Schedule.adjust_isAdjust {s : Schedule} {newEndTime : Nat}
    (h : s.adjust newEndTime = .error flt) : flt.isAdjust = true := by
  rcases Schedule.adjust_eq_error h with ⟨h_flt, -⟩ | ⟨h_flt, -⟩
  · rw [h_flt]
    rfl
  · rw [h_flt]
    rfl

theorem Schedule.adjustBySyncMsg_isAdjust {s : Schedule} {msg : SyncMessage} {toa : Nat}
    (h : s.adjustBySyncMsg msg toa = .error flt) : flt.isAdjust = true := by
  unfold Schedule.adjustBySyncMsg Schedule.adjustedSyncPeriodEndTimeFromMsg at h
  rcases bind_eq_error.1 h with h_end | ⟨t, -, h_adjust⟩
  · rcases require_bind_eq_error.1 h_end with ⟨-, h_flt⟩ | ⟨-, h_pure⟩
    · rw [h_flt]
      rfl
    · cases h_pure
  · exact Schedule.adjust_isAdjust h_adjust

theorem scatterSync_stops (h : p.scatterSync c e = .error flt) : EventStops c e p' ev flt := by
  rcases Protocol.scatterSync_eq_error h with rfl | h_adjust
  · exact EventStops.session
  · exact EventStops.adjusts (Schedule.adjust_isAdjust h_adjust)

theorem hearInSyncSlot_stops {msg : SyncMessage}
    (h : Protocol.SyncSlot.handle c e p msg = .error flt) :
    EventStops c e p (.hearInSyncSlot msg) flt := by
  rcases Protocol.SyncSlot.handle_eq_error h with ⟨-, h_adjust⟩ | ⟨-, h_scatter⟩
  · exact EventStops.adjusts (Schedule.adjustBySyncMsg_isAdjust h_adjust)
  · unfold Protocol.handleScatterMessage at h_scatter
    split at h_scatter
    · split at h_scatter
      · cases h_scatter
      · exact scatterSync_stops h_scatter
    · cases h_scatter

/-- A catch by trolling stops where the unit is not a fisher, and where the better
    clique is its own. -/
theorem toMergerFromFisher_stops {msg : SyncMessage} (h_carries : msg.type.doesCarrySync = true)
    (h_mode : p.fishing.mode = .trolling) (h : p.toMergerFromFisher c e msg = .error flt) :
    EventStops c e p (.hearInFishSlot msg) flt := by
  unfold Protocol.toMergerFromFisher Protocol.initFromMsg at h
  rcases require_bind_eq_error.1 h with ⟨h_not, -⟩ | ⟨-, h⟩
  · exact absurd h_carries h_not
  rcases require_bind_eq_error.1 h with ⟨h_role, rfl⟩ | ⟨-, h⟩
  · exact EventStops.notFisher h_mode h_role
  rcases require_bind_eq_error.1 h with ⟨h_not, -⟩ | ⟨-, h⟩
  · exact absurd h_mode h_not
  rcases require_bind_eq_error.1 h with ⟨h_not, -⟩ | ⟨-, h⟩
  · exact absurd h_carries h_not
  have h_merge := bind_return_eq_error.1 h
  split at h_merge
  · rename_i h_better
    unfold Protocol.initMergeMyClique at h_merge
    rcases bind_eq_error.1 h_merge with h_t | ⟨t, -, h_merge⟩
    · rw [Protocol.periodTimeSet_eq_error h_t]
      exact EventStops.periodTime
    rcases bind_eq_error.1 h_merge with h_upd | ⟨p₁, h_upd, h_merge⟩
    · have h_adjust := Protocol.updateBySyncMessage_eq_error h_carries h_upd
      exact EventStops.adjusts (Schedule.adjustBySyncMsg_isAdjust h_adjust)
    rcases require_bind_eq_error.1 h_merge with ⟨h_master, rfl⟩ | ⟨-, h_pure⟩
    · obtain ⟨-, s, -, rfl⟩ := Protocol.updateBySyncMessage_eq_ok.1 h_upd
      refine EventStops.stillSelfMaster h_better ?_
      by_contra h_ne
      refine h_master ?_
      rw [Bool.not_eq_true']
      exact decide_eq_false h_ne
    · cases h_pure
  · rw [Protocol.periodTimeSet_eq_error (bind_return_eq_error.1 h_merge)]
    exact EventStops.periodTime

theorem hearInFishSlot_stops {msg : SyncMessage}
    (h : Protocol.FishSlot.handle c e p msg = .error flt) :
    EventStops c e p (.hearInFishSlot msg) flt := by
  have h_fished : (msg.type = .masterSync ∨ msg.type = .workSync) →
      p.doFishedSyncMsg c e msg = .error flt → EventStops c e p (.hearInFishSlot msg) flt := by
    intro h_type h_catch
    have h_carries := Protocol.doesCarrySync_of_type h_type
    unfold Protocol.doFishedSyncMsg at h_catch
    split at h_catch
    case h_1 h_mode =>
      exact toMergerFromFisher_stops h_carries h_mode (bind_return_eq_error.1 h_catch)
    case h_2 =>
      unfold Protocol.handleCatchFromDeepFishing at h_catch
      rcases require_bind_eq_error.1 h_catch with ⟨h_not, -⟩ | ⟨-, h_catch⟩
      · exact absurd h_carries h_not
      · split at h_catch
        · have h_adjust :=
            Protocol.updateBySyncMessage_eq_error h_carries (bind_return_eq_error.1 h_catch)
          exact EventStops.adjusts (Schedule.adjustBySyncMsg_isAdjust h_adjust)
        · cases h_catch
  unfold Protocol.FishSlot.handle at h
  split at h
  case h_1 h_t => exact h_fished (Or.inl h_t) h
  case h_2 h_t => exact h_fished (Or.inr h_t) (bind_return_eq_error.1 h)
  all_goals cases h

/-- The repeater is active whenever a control message is sent, so it is only the
    callback that can stop. -/
theorem dispatchSyncSlotKind_stops
    (h : stepProtocol c p e .dispatchSyncSlotKind = .error flt) :
    EventStops c e p .dispatchSyncSlotKind flt := by
  unfold stepProtocol at h
  dsimp only at h
  split at h
  case isFalse => cases h
  case isTrue h_sends =>
    obtain ⟨h_active, h_counted⟩ := Protocol.decideKind_control h_sends
    rw [h_counted] at h
    unfold Protocol.checkDoneAndEnactControl SendRepeater.checkDone at h
    dsimp only at h
    rcases bind_eq_error.1 h with h_check | ⟨⟨done, r⟩, h_check, h⟩
    · rcases require_bind_eq_error.1 h_check with ⟨h_not, -⟩ | ⟨-, h_rest⟩
      · exact absurd h_active h_not
      · split at h_rest <;> cases h_rest
    · obtain ⟨-, h_check⟩ := require_bind_eq_ok.1 h_check
      split at h_check
      · rename_i h_count
        have h_done := Nat.le_of_lt_succ h_count
        cases h_check
        dsimp only at h
        unfold Protocol.onDone at h
        split at h
        case h_1 h_callback =>
          rcases require_bind_eq_error.1 h with ⟨h_slave, rfl⟩ | ⟨-, h_pure⟩
          · refine EventStops.notSelfMaster h_sends h_done ?_ (eq_false_of_ne_true h_slave)
            rw [h_callback]
            exact OnDoneCallback.noConfusion
          · cases h_pure
        case h_2 h_callback =>
          rcases require_bind_eq_error.1 h with ⟨h_master, rfl⟩ | ⟨-, h_pure⟩
          · refine EventStops.notSelfSlave h_sends h_done h_callback ?_
            rw [Protocol.isSelfSlave, Bool.not_eq_true', Bool.not_eq_false] at h_master
            exact h_master
          · cases h_pure
        case h_3 h_callback =>
          rcases require_bind_eq_error.1 h with ⟨h_slave, rfl⟩ | ⟨-, h_scatter⟩
          · refine EventStops.notSelfMaster h_sends h_done ?_ (eq_false_of_ne_true h_slave)
            rw [h_callback]
            exact OnDoneCallback.noConfusion
          · exact scatterSync_stops h_scatter
      · cases h_check
        cases h

theorem endListen_stops (h : p.endListen c e = .error flt) :
    EventStops c e p .endListen flt := by
  unfold Protocol.endListen at h
  split at h
  case isFalse => cases h
  case isTrue h_slave =>
    have h_not : p.isSelfMaster c = false := by
      rw [Protocol.isSelfSlave, Bool.not_eq_true'] at h_slave
      exact h_slave
    unfold Protocol.checkMasterDroppedOut at h
    rcases bind_eq_error.1 h with h_drop | ⟨⟨b, p₁⟩, h_drop, h⟩
    · unfold Protocol.isDropout at h_drop
      rcases require_bind_eq_error.1 h_drop with ⟨h_count, rfl⟩ | ⟨-, h_pure⟩
      · exact EventStops.dropoutCount (Nat.lt_of_not_le h_count)
      · cases h_pure
    · obtain ⟨-, -, rfl⟩ := Protocol.isDropout_eq_ok.1 h_drop
      cases b with
      | false => cases h
      | true =>
          have h_revert : Protocol.revertByCliqueHistory c e
              { p with countSyncSlotsWithoutSyncMsg := 0 } = .error flt := h
          unfold Protocol.revertByCliqueHistory at h_revert
          rcases bind_eq_error.1 h_revert with h_pop | ⟨hist, -, h_rest⟩
          · unfold CliqueHistory.setCurrentCliqueRecordToFormerClique at h_pop
            rcases require_bind_eq_error.1 h_pop with ⟨h_index, rfl⟩ | ⟨-, h_pure⟩
            · exact EventStops.noFormerClique h_not (Nat.eq_zero_of_not_pos h_index)
            · cases h_pure
          · split at h_rest
            · rw [Protocol.grabMastership_eq_error h_rest]
              exact EventStops.session
            · rcases Protocol.revertToFormerMaster_eq_error h_rest with rfl | h_adjust
              · exact EventStops.session
              · exact EventStops.adjusts (Schedule.adjust_isAdjust h_adjust)

theorem checkFishingDone_stops (h : p.checkFishingDone c = .error flt) :
    EventStops c e p .checkFishingDone flt := by
  unfold Protocol.checkFishingDone at h
  split at h
  · cases h
  · rcases bind_eq_error.1 h with h_done | ⟨done, -, h⟩
    · unfold DeepFishingPolicy.checkDone at h_done
      split at h_done
      · split at h_done
        · rename_i h_none
          cases h_done
          exact EventStops.noDoneCallback h_none
        · cases h_done
      · cases h_done
    · rcases done with _ | callback <;> cases h

theorem mergeSyncSent_stops (h : p.mergeSyncSent = .error flt) :
    EventStops c e p .mergeSyncSent flt := by
  have h_check := bind_return_eq_error.1 h
  unfold Protocol.checkCompletionOfMergerRole at h_check
  rcases require_bind_eq_error.1 h_check with ⟨h_count, rfl⟩ | ⟨-, h_pure⟩
  · exact EventStops.notRestarted (Nat.lt_of_not_le h_count)
  · cases h_pure

/-- Every event: where it stops. -/
theorem stepProtocol_stops (h : stepProtocol c p e ev = .error flt) : EventStops c e p ev flt := by
  cases ev with
  | rollPeriodForward => cases h
  | hearInSyncSlot msg => exact hearInSyncSlot_stops (bind_return_eq_error.1 h)
  | hearInFishSlot msg => exact hearInFishSlot_stops (bind_return_eq_error.1 h)
  | dispatchSyncSlotKind => exact dispatchSyncSlotKind_stops h
  | endListen => exact endListen_stops h
  | preFishing =>
      rw [Fishing.preFishing_eq_error (bind_return_eq_error.1 h)]
      exact EventStops.session
  | setStartAndEndTimes => cases h
  | checkFishingDone => exact checkFishingDone_stops h
  | mergeSyncSent => exact mergeSyncSent_stops h
  | bookkeepingAtPreludeToSyncSlot =>
      rw [Protocol.bookkeepingAtPreludeToSyncSlot_eq_error h]
      exact EventStops.session
  | provisionSucceed provision =>
      rw [Protocol.provisionSucceed_eq_error h]
      exact EventStops.unknownProperty

end Events

-- ============================================================================
-- Tasks
-- ============================================================================

namespace Agent

/-- The tasks that end a sync slot. -/
def endsSyncSlot (task : Task) : Prop :=
  task = .endSyncSlotListen ∨ task = .endSyncSlotSend

/-- When a task stops. -/
inductive TaskStops (c : Config) (e : Env) (a : Agent) : Task → TaskFault → Prop
  /-- these are the matter of `TaskFails` -/
  | handOver {t : Task} {flt : TaskFault} (h_flt : isHandOver flt = true) : TaskStops c e a t flt
  | radioInUse {t : Task} (h_t : t = .startSyncPeriodMaintain ∨ startsSyncSlot t)
      (h_radio : a.radio ≠ none) : TaskStops c e a t .radioInUse
  | bookkeeping {t : Task} {flt : Fault}
      (h_step : stepProtocol c a.protocol e .bookkeepingAtPreludeToSyncSlot = .error flt) :
      TaskStops c e a t (.protocol flt)
  | dispatch {t : Task} {flt : Fault} (h_t : startsSyncSlot t)
      (h_step : stepProtocol c a.protocol.preludeToSyncPeriod e .dispatchSyncSlotKind =
        .error flt) :
      TaskStops c e a t (.protocol flt)
  | send {flt : TaskFault} (h_msg : a.syncSlotMessage c e = .error flt) :
      TaskStops c e a .sendSync flt
  | endListen {flt : Fault} (h_step : stepProtocol c a.protocol e .endListen = .error flt) :
      TaskStops c e a .endSyncSlotListen (.protocol flt)
  | preFishing {t : Task} {p : Protocol} {flt : Fault} (h_t : endsSyncSlot t)
      (h_step : stepProtocol c p e .preFishing = .error flt) : TaskStops c e a t (.protocol flt)
  | maintainMode {t : Task} (h_t : endsSyncSlot t) : TaskStops c e a t .maintainMode
  | mergeStart {t : Task} (h_t : endsSyncSlot t) :
      TaskStops c e a t (.protocol .mergeStartTooLate)
  | checkFishingDone {flt : Fault}
      (h_step : stepProtocol c a.protocol e .checkFishingDone = .error flt) :
      TaskStops c e a .fishSlotEnd (.protocol flt)
  | makeMergeMsg {flt : Fault} (h_msg : a.protocol.makeMergeMsg c e = .error flt) :
      TaskStops c e a .mergerStartAndEnd (.protocol flt)
  | mergeSyncSent {flt : Fault}
      (h_step : stepProtocol c a.protocol e .mergeSyncSent = .error flt) :
      TaskStops c e a .mergerStartAndEnd (.protocol flt)

variable {c : Config} {e : Env} {a a' : Agent} {ev : AgentEvent} {t : Task} {flt : TaskFault}

/-- What the next task is does not matter to where a sleep is computed. -/
theorem syncSlotAfterNonsyncSlot_stops {u : Bool}
    (h : a'.syncSlotAfterNonsyncSlot c e u = .error flt) : TaskStops c e a t flt := by
  obtain ⟨rfl, -, -⟩ := (syncSlotAfterNonsyncSlot_outcome c e a' u).fault h
  exact TaskStops.handOver rfl

theorem radioPreludeTaskWSync_stops (h : a'.radioPreludeTaskWSync c e = .error flt) :
    TaskStops c e a t flt := by
  obtain ⟨rfl, -⟩ := (radioPreludeTaskWSync_outcome c e a').fault h
  exact TaskStops.handOver rfl

theorem bookkeepingAtPreludeToSyncSlot_stops
    (h : a.bookkeepingAtPreludeToSyncSlot c e = .error flt) : TaskStops c e a t flt := by
  obtain ⟨f, rfl, h_f⟩ := ofProtocol_eq_error.1 (bind_return_eq_error.1 h)
  exact TaskStops.bookkeeping h_f

/-- Another roll, and the assertion that the radio is off. -/
theorem bookkeepingAtStartSyncSlot_stops
    (h_t : t = .startSyncPeriodMaintain ∨ startsSyncSlot t) (h_radio : a'.radio = a.radio)
    (h : a'.bookkeepingAtStartSyncSlot e t = .error flt) : TaskStops c e a t flt := by
  unfold bookkeepingAtStartSyncSlot at h
  rcases require_bind_eq_error.1 h with ⟨h_on, rfl⟩ | ⟨-, h_pure⟩
  · refine TaskStops.radioInUse h_t fun h_off => h_on ?_
    show a'.radio.isNone = true
    rw [h_radio, h_off]
    rfl
  · cases h_pure

theorem startSyncPeriodMaintain_stops (h : a.startSyncPeriodMaintain c e = .error flt) :
    TaskStops c e a .startSyncPeriodMaintain flt := by
  unfold startSyncPeriodMaintain at h
  rcases require_bind_eq_error.1 h with ⟨-, rfl⟩ | ⟨-, h⟩
  · exact TaskStops.handOver rfl
  rcases bind_eq_error.1 h with h_book | ⟨a₁, h_book, h⟩
  · exact bookkeepingAtPreludeToSyncSlot_stops h_book
  obtain ⟨p, -, rfl⟩ := bind_return_eq_ok.1 h_book
  rcases bind_eq_error.1 h with h_roll | ⟨a₂, -, h⟩
  · have h_radio : (a.bookkept e p).radio = a.radio := rfl
    exact bookkeepingAtStartSyncSlot_stops (Or.inl rfl) h_radio h_roll
  · split at h
    · cases h
    · exact radioPreludeTaskWSync_stops h

theorem dispatchSyncSlotKind_taskStops (h_t : startsSyncSlot t)
    (h : (a.rolled e t).dispatchSyncSlotKind c e = .error flt) : TaskStops c e a t flt := by
  unfold dispatchSyncSlotKind at h
  rcases h_decide : (a.rolled e t).protocol.decideKind c e with ⟨k, p⟩
  rw [h_decide] at h
  cases k with
  | sendControlSync =>
      dsimp only at h
      obtain ⟨f, rfl, h_f⟩ := ofProtocol_eq_error.1 (bind_return_eq_error.1 h)
      have h_step : stepProtocol c (a.rolled e t).protocol e .dispatchSyncSlotKind = .error f := by
        rw [stepProtocol_dispatchSyncSlotKind, h_decide]
        exact h_f
      exact TaskStops.dispatch h_t h_step
  | sendWorkSync => cases h
  | sendSync => cases h
  | listen => cases h

theorem startSyncSlot_stops (h_t : startsSyncSlot t) (h : a.startSyncSlot c e t = .error flt) :
    TaskStops c e a t flt := by
  unfold startSyncSlot at h
  rcases require_bind_eq_error.1 h with ⟨-, rfl⟩ | ⟨-, h⟩
  · exact TaskStops.handOver rfl
  rcases bind_eq_error.1 h with h_roll | ⟨a₁, h_roll, h⟩
  · exact bookkeepingAtStartSyncSlot_stops (Or.inr h_t) rfl h_roll
  obtain ⟨-, rfl⟩ := (bookkeepingAtStartSyncSlot_outcome e a t).result h_roll
  split at h
  · cases h
  · exact dispatchSyncSlotKind_taskStops h_t h

theorem tryFishOrMerge_stops (h_t : endsSyncSlot t) (h : a'.tryFishOrMerge c e = .error flt) :
    TaskStops c e a t flt := by
  have h_omit : ∀ {b : Agent}, b.omitNonsyncSlot c e = .error flt → TaskStops c e a t flt := by
    intro b h_b
    obtain ⟨rfl, -⟩ := (undo_syncSlotAfterSyncSlot_outcome c e b.undo rfl).fault h_b
    exact TaskStops.handOver rfl
  unfold tryFishOrMerge at h
  split at h
  · split at h
    · obtain ⟨f, rfl, h_f⟩ := ofProtocol_eq_error.1 (bind_return_eq_error.1 h)
      have h_late := bind_return_eq_error.1 h_f
      rcases require_bind_eq_error.1 h_late with ⟨-, rfl⟩ | ⟨-, h_pure⟩
      · exact TaskStops.mergeStart h_t
      · cases h_pure
    · exact h_omit h
  · split at h
    · obtain ⟨rfl, -, -⟩ := (fishing_outcome c e _).fault h
      exact TaskStops.handOver rfl
    · exact h_omit h
  · exact h_omit h

theorem scheduleNonSyncTask_stops (h_t : endsSyncSlot t)
    (h : a'.scheduleNonSyncTask c e = .error flt) : TaskStops c e a t flt := by
  unfold scheduleNonSyncTask at h
  rcases bind_eq_error.1 h with h_fish | ⟨p, -, h⟩
  · obtain ⟨f, rfl, h_f⟩ := ofProtocol_eq_error.1 h_fish
    exact TaskStops.preFishing h_t h_f
  rcases bind_eq_error.1 h with h_undo | ⟨a₁, h_undo, h⟩
  · have h_should := bind_return_eq_error.1 h_undo
    unfold shouldUndoAfterSyncing at h_should
    rcases require_bind_eq_error.1 h_should with ⟨-, rfl⟩ | ⟨-, h_should⟩
    · exact TaskStops.handOver rfl
    · split at h_should
      · cases h_should
        exact TaskStops.maintainMode h_t
      · split at h_should <;> cases h_should
      · cases h_should
      · cases h_should
  · split at h
    · unfold syncSlotAfterSyncSlot at h
      rcases require_bind_eq_error.1 h with ⟨-, rfl⟩ | ⟨-, h⟩
      · exact TaskStops.handOver rfl
      · exact radioPreludeTaskWSync_stops h
    · exact tryFishOrMerge_stops h_t h
    · split at h <;> cases h
    · cases h
      exact TaskStops.maintainMode h_t

/-- Every task: where it stops. -/
theorem runTask_stops (h : a.runTask c e t = .error flt) : TaskStops c e a t flt := by
  cases t with
  | startSyncPeriodMaintain => exact startSyncPeriodMaintain_stops h
  | theRadioPreludeTaskWSync =>
      have h_book := bind_return_eq_error.1 h
      obtain ⟨f, rfl, h_f⟩ := ofProtocol_eq_error.1 h_book
      exact TaskStops.bookkeeping h_f
  | theRadioPreludeTaskWFish => cases h
  | startSyncSlotAfterPrelude => exact startSyncSlot_stops (Or.inl rfl) h
  | startSyncSlotWithoutScheduledPrelude => exact startSyncSlot_stops (Or.inr rfl) h
  | sendSync => exact TaskStops.send (bind_return_eq_error.1 h)
  | endSyncSlotListen =>
      rcases bind_eq_error.1 h with h_listen | ⟨a₁, -, h⟩
      · obtain ⟨f, rfl, h_f⟩ := ofProtocol_eq_error.1 (bind_return_eq_error.1 h_listen)
        exact TaskStops.endListen h_f
      · exact scheduleNonSyncTask_stops (Or.inl rfl) h
  | endSyncSlotSend =>
      rcases require_bind_eq_error.1 h with ⟨-, rfl⟩ | ⟨-, h⟩
      · exact TaskStops.handOver rfl
      · exact scheduleNonSyncTask_stops (Or.inr rfl) h
  | fishSlotStart =>
      rcases require_bind_eq_error.1 h with ⟨-, rfl⟩ | ⟨-, h⟩
      · exact TaskStops.handOver rfl
      · cases h
  | fishSlotEnd =>
      rcases require_bind_eq_error.1 h with ⟨-, rfl⟩ | ⟨-, h⟩
      · exact TaskStops.handOver rfl
      rcases bind_eq_error.1 h with h_check | ⟨p, -, h⟩
      · obtain ⟨f, rfl, h_f⟩ := ofProtocol_eq_error.1 h_check
        exact TaskStops.checkFishingDone h_f
      · exact syncSlotAfterNonsyncSlot_stops h
  | mergerStartAndEnd =>
      rcases bind_eq_error.1 h with h_make | ⟨msg, -, h⟩
      · obtain ⟨f, rfl, h_f⟩ := ofProtocol_eq_error.1 h_make
        exact TaskStops.makeMergeMsg h_f
      rcases bind_eq_error.1 h with h_sent | ⟨p, -, h⟩
      · obtain ⟨f, rfl, h_f⟩ := ofProtocol_eq_error.1 h_sent
        exact TaskStops.mergeSyncSent h_f
      · exact syncSlotAfterNonsyncSlot_stops h
  | provisionStart =>
      rcases require_bind_eq_error.1 h with ⟨-, rfl⟩ | ⟨-, h⟩
      · exact TaskStops.handOver rfl
      · split at h
        · cases h
        · exact syncSlotAfterNonsyncSlot_stops h
  | provisionEnd => exact syncSlotAfterNonsyncSlot_stops h

/-- When a step of the task machine stops. -/
inductive AgentStops (c : Config) (e : Env) (a : Agent) : AgentEvent → TaskFault → Prop
  | ran {t : Task} {expiry : Nat} {flt : TaskFault}
      (h_stops : TaskStops c e (a.dequeued e t expiry) t flt) :
      AgentStops c e a (.timer t expiry) flt
  | garbled {packet : Option RadioBuffer} {flt : Fault} (h_flt : flt = .deltaSyncRange) :
      AgentStops c e a (.packet packet) (.protocol flt)
  | heard {packet : Option RadioBuffer} {handler : MessageHandler} {msg : SyncMessage}
      {flt : Fault} (h_radio : a.radio = some handler) (h_msg : messageOf packet = some msg)
      (h_step : stepProtocol c a.protocol e (hears handler msg) = .error flt) :
      AgentStops c e a (.packet packet) (.protocol flt)
  | provisioned {provision : ProvisionedValue} {flt : Fault}
      (h_step : stepProtocol c a.protocol e (.provisionSucceed provision) = .error flt) :
      AgentStops c e a (.provisionerSucceed provision) (.protocol flt)

theorem dispatch_stops {handler : MessageHandler} {packet : Option RadioBuffer}
    (h_radio : a.radio = some handler)
    (h : (a.received e).dispatch c e handler packet = .error flt) :
    AgentStops c e a (.packet packet) flt := by
  cases packet with
  | none => cases h
  | some buffer =>
      unfold dispatch at h
      rcases bind_eq_error.1 h with h_read | ⟨m, h_read, h⟩
      · obtain ⟨f, rfl, h_f⟩ := ofProtocol_eq_error.1 h_read
        refine AgentStops.garbled ?_
        unfold Serializer.unserialize at h_f
        dsimp only at h_f
        split at h_f
        · split at h_f <;> cases h_f
          rfl
        · cases h_f
      · have h_m := ofProtocol_eq_ok.1 h_read
        cases m with
        | none => cases h
        | some msg =>
            have h_msg : messageOf (some buffer) = some msg := by
              unfold messageOf
              dsimp only
              rw [h_m]
            unfold handleValidMessageAndSetContinuation at h
            rcases bind_eq_error.1 h with h_handle | ⟨⟨r, p⟩, -, h⟩
            · obtain ⟨f, rfl, h_f⟩ := ofProtocol_eq_error.1 h_handle
              refine AgentStops.heard h_radio h_msg ?_
              cases handler with
              | syncSlot => exact bind_return_eq_error.2 h_f
              | fishSlot => exact bind_return_eq_error.2 h_f
            · dsimp only at h
              split at h
              · cases h
              · -- the receiver is off since the packet arrived
                rcases require_bind_eq_error.1 h with ⟨h_on, -⟩ | ⟨-, h_pure⟩
                · exact absurd rfl h_on
                · cases h_pure

/-- Every step of the task machine: where it stops. -/
theorem stepAgent_stops (h : stepAgent c a e ev = .error flt) : AgentStops c e a ev flt := by
  cases ev with
  | timer t expiry => exact AgentStops.ran (runTask_stops h)
  | packet received =>
      unfold stepAgent at h
      dsimp only at h
      split at h
      · cases h
      · rename_i handler h_radio
        exact dispatch_stops h_radio h
  | provisionerSucceed provision =>
      obtain ⟨f, rfl, h_f⟩ := ofProtocol_eq_error.1 (bind_return_eq_error.1 h)
      exact AgentStops.provisioned h_f
  | provisionerFail => cases h

end Agent

end SleepSync
