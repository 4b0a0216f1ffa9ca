/-
  SleepSync.TrollingSessions

  The session of trolling, in every run: its two durations, its ordinals, and the
  times of its slot.

  The power manager changes the duration at each prelude and restarts the policy
  only where it raises it, so counters and session keep values of another duration
  for a while.  But a unit chooses the next session at the end of each sync slot,
  with the duration in force, from counters that are in the sleeping slots
  whatever the durations were.  Nothing changes the duration from there to the end
  of the fish slot: so what is scheduled is a session of whole slots that ends with
  its last one, in the unadjusted period.
-/

import SleepSync.FishSessions
import SleepSync.StopsInRuns

namespace SleepSync

open Lib ScheduleParameters FishingParameters

-- ============================================================================
-- The range of a session
-- ============================================================================

/-- Where a session is out of range. -/
inductive Fishing.OutOfRange (f : Fishing) : Prop
  | restarts (h_stop : f.restartTrollingMode = .error .fishSessionRange) : OutOfRange f
  | chooses (h_stop : f.preFishing = .error .fishSessionRange) : OutOfRange f

section Range

variable {c : Config} {e : Env} {f : Fishing} {p : Protocol} {ev : ProtocolEvent}
  {msg : SyncMessage}

theorem grabMastership_outOfRange (h : p.grabMastership c = .error .fishSessionRange) :
    p.fishing.OutOfRange :=
  Fishing.OutOfRange.restarts (bind_return_eq_error.1 h)

theorem scatterSync_outOfRange (h : p.scatterSync c e = .error .fishSessionRange) :
    p.fishing.OutOfRange := by
  unfold Protocol.scatterSync at h
  rcases bind_eq_error.1 h with h_grab | ⟨p₁, -, h_rest⟩
  · exact grabMastership_outOfRange h_grab
  · have h_adjust := Schedule.adjust_isAdjust (bind_return_eq_error.1 h_rest)
    cases h_adjust

theorem handleScatterMessage_outOfRange
    (h : p.handleScatterMessage c e msg = .error .fishSessionRange) : p.fishing.OutOfRange := by
  unfold Protocol.handleScatterMessage at h
  split at h
  · split at h
    · cases h
    · obtain ⟨i, h_i⟩ := Protocol.cancelAnyUpstreamingInProgress_eq c p
      rw [h_i] at h
      have h_out := scatterSync_outOfRange h
      exact h_out
  · cases h

theorem checkDoneAndEnactControl_outOfRange
    (h : p.checkDoneAndEnactControl c e = .error .fishSessionRange) : p.fishing.OutOfRange := by
  unfold Protocol.checkDoneAndEnactControl at h
  rcases bind_eq_error.1 h with h_check | ⟨⟨done, r⟩, -, h⟩
  · unfold SendRepeater.checkDone at h_check
    obtain ⟨-, h_check⟩ := require_bind_eq_error_of_ne h_check Fault.noConfusion
    split at h_check <;> cases h_check
  · cases done with
    | none => cases h
    | some callback =>
        dsimp only [Protocol.onDone] at h
        split at h
        case h_1 =>
          obtain ⟨-, h_pure⟩ := require_bind_eq_error_of_ne h Fault.noConfusion
          cases h_pure
        case h_2 =>
          obtain ⟨-, h_pure⟩ := require_bind_eq_error_of_ne h Fault.noConfusion
          cases h_pure
        case h_3 =>
          obtain ⟨-, h_scatter⟩ := require_bind_eq_error_of_ne h Fault.noConfusion
          have h_out := scatterSync_outOfRange h_scatter
          exact h_out

theorem revertByCliqueHistory_outOfRange
    (h : p.revertByCliqueHistory c e = .error .fishSessionRange) : p.fishing.OutOfRange := by
  unfold Protocol.revertByCliqueHistory at h
  rcases bind_eq_error.1 h with h_pop | ⟨hist, -, h_rest⟩
  · obtain ⟨-, h_pure⟩ := require_bind_eq_error_of_ne h_pop Fault.noConfusion
    cases h_pure
  · split at h_rest
    · have h_out := grabMastership_outOfRange h_rest
      exact h_out
    · unfold Protocol.revertToFormerMaster at h_rest
      dsimp only at h_rest
      rw [Protocol.updateMastership_eq] at h_rest
      rcases bind_eq_error.1 h_rest with h_adjust | ⟨s, -, h_rest⟩
      · cases Schedule.adjust_isAdjust h_adjust
      · exact Fishing.OutOfRange.restarts (bind_return_eq_error.1 h_rest)

theorem endListen_outOfRange (h : p.endListen c e = .error .fishSessionRange) :
    p.fishing.OutOfRange := by
  unfold Protocol.endListen Protocol.checkMasterDroppedOut at h
  split at h
  case isFalse => cases h
  case isTrue =>
    rcases bind_eq_error.1 h with h_drop | ⟨⟨b, p₁⟩, h_drop, h⟩
    · obtain ⟨-, h_pure⟩ := require_bind_eq_error_of_ne h_drop Fault.noConfusion
      cases h_pure
    · obtain ⟨-, -, rfl⟩ := Protocol.isDropout_eq_ok.1 h_drop
      cases b with
      | false => cases h
      | true =>
          have h_out := revertByCliqueHistory_outOfRange h
          exact h_out

/-- An event stops at the range of a session only where a session is out of it. -/
theorem stepProtocol_outOfRange (h : stepProtocol c p e ev = .error .fishSessionRange) :
    p.fishing.OutOfRange := by
  cases ev with
  | rollPeriodForward => cases h
  | hearInSyncSlot msg =>
      rcases Protocol.SyncSlot.handle_eq_error (bind_return_eq_error.1 h) with
        ⟨-, h_adjust⟩ | ⟨-, h_scatter⟩
      · cases Schedule.adjustBySyncMsg_isAdjust h_adjust
      · exact handleScatterMessage_outOfRange h_scatter
  | hearInFishSlot msg =>
      rcases hearInFishSlot_inCatch h with h_flt | h_flt
      · cases h_flt
      · exact absurd h_flt (by decide)
  | dispatchSyncSlotKind =>
      obtain ⟨i, h_i⟩ := Protocol.decideKind_eq c e p
      rw [stepProtocol_dispatchSyncSlotKind, h_i] at h
      split at h
      · have h_out := checkDoneAndEnactControl_outOfRange h
        exact h_out
      · cases h
  | endListen => exact endListen_outOfRange h
  | preFishing => exact Fishing.OutOfRange.chooses (bind_return_eq_error.1 h)
  | setStartAndEndTimes => cases h
  | checkFishingDone => cases Protocol.checkFishingDone_eq_error h
  | mergeSyncSent => cases Protocol.mergeSyncSent_eq_error h
  | bookkeepingAtPreludeToSyncSlot => exact absurd h bookkeeping_ne_error
  | provisionSucceed provision => cases Protocol.provisionSucceed_eq_error h

theorem protocolSystem_inRange (h : (protocolSystem c).Reachable p) : ¬ p.fishing.OutOfRange := by
  have h_bounded := protocolSystem_sessionBounded h
  intro h_out
  cases h_out with
  | restarts h_restart =>
      obtain ⟨f', h_ok⟩ := h_bounded.restart
      cases h_ok.symm.trans h_restart
  | chooses h_fish =>
      obtain ⟨f', h_ok⟩ := protocolSystem_preFishing h
      cases h_ok.symm.trans h_fish

theorem protocolSystem_ne_fishSessionRange (h : (protocolSystem c).Reachable p) :
    stepProtocol c p e ev ≠ .error .fishSessionRange :=
  fun h_stop => protocolSystem_inRange h (stepProtocol_outOfRange h_stop)

end Range

-- ============================================================================
-- The slot of a session
-- ============================================================================

/-- A trolling slot as it is scheduled: its duration is that of its session's virtual
    slots, and it starts with the first of them. -/
structure Protocol.TrollsWholeSlots (p : Protocol) : Prop where
  ordinals : firstSlotOrdinalToFish ≤ p.fishing.troll.currentStartSlotOrdinal ∧
    p.fishing.troll.currentStartSlotOrdinal ≤ p.fishing.troll.currentEndSlotOrdinal ∧
    p.fishing.troll.currentEndSlotOrdinal ≤ lastSlotOrdinalShouldFish
  duration : p.fishing.getFishSessionDurationTicks =
    (p.fishing.troll.currentEndSlotOrdinal - p.fishing.troll.currentStartSlotOrdinal + 1) *
      virtualSlotDuration
  start : p.fishing.memoStartTimeOfFishSlot = p.schedule.startTimeOfSyncPeriod +
    (p.fishing.troll.currentStartSlotOrdinal - 1) * virtualSlotDuration

/-- The slot that is scheduled is one, if trolling is the mode. -/
def Agent.TrollingScheduled (a : Agent) : Prop :=
  a.fishPhase = .planned → a.protocol.fishing.mode = .trolling → a.protocol.TrollsWholeSlots

namespace Protocol

variable {p : Protocol}

theorem setStartAndEndTimes_trollsWholeSlots (h_bounds : p.schedule.InBounds)
    (h_agrees : p.fishing.SessionAgrees) (h_fits : p.fishing.SessionFits)
    (h_mode : p.setStartAndEndTimes.fishing.mode = .trolling) :
    p.setStartAndEndTimes.TrollsWholeSlots := by
  obtain ⟨h_schedule, h_same, h_session, h_troll, h_memo⟩ := p.setStartAndEndTimes_eq
  rw [h_same] at h_mode
  obtain ⟨h_ticks, h_pos⟩ := h_agrees
  obtain ⟨h_lo, h_last, h_hi⟩ := h_fits h_mode
  refine ⟨?_, ?_, ?_⟩
  · rw [h_troll, firstSlotOrdinalToFish_eq, lastSlotOrdinalShouldFish_eq]
    omega
  · have h_slots : p.fishing.troll.currentEndSlotOrdinal -
        p.fishing.troll.currentStartSlotOrdinal + 1 = p.fishing.session.durationInSlots := by
      omega
    rw [p.setStartAndEndTimes_duration, h_troll, h_slots, virtualSlotDuration_eq, ← h_ticks]
    simp only [Fishing.getFishSessionDurationTicks, h_mode]
  · rw [h_memo, h_schedule, h_troll, virtualSlotDuration_eq]
    exact fishStart_of_trolling h_bounds h_fits h_pos h_mode

/-- The slot ends with the last virtual slot of its session, which is in the
    unadjusted period. -/
theorem TrollsWholeSlots.end_le (h : p.TrollsWholeSlots) (h_bounds : p.schedule.InBounds) :
    p.fishing.memoStartTimeOfFishSlot + p.fishing.getFishSessionDurationTicks =
        p.schedule.startTimeOfSyncPeriod +
          p.fishing.troll.currentEndSlotOrdinal * virtualSlotDuration ∧
      p.schedule.startTimeOfSyncPeriod +
          p.fishing.troll.currentEndSlotOrdinal * virtualSlotDuration ≤
        p.schedule.timeOfUnadjustedNextSyncPoint := by
  obtain ⟨⟨h_lo, h_le, h_hi⟩, h_duration, h_start⟩ := h
  have h_end : p.schedule.timeOfUnadjustedNextSyncPoint =
      p.schedule.startTimeOfSyncPeriod + normalSyncPeriodDuration := h_bounds.unadjusted_eq
  rw [h_duration, h_start, h_end]
  simp only [firstSlotOrdinalToFish_eq, lastSlotOrdinalShouldFish_eq, virtualSlotDuration_eq,
    normalSyncPeriodDuration_eq] at *
  omega

end Protocol

namespace Agent

variable {c : Config} {e : Env} {a a' : Agent} {ev : AgentEvent} {t : Task}

theorem trollingScheduled_of_none (h : a.fishPhase = .none) : a.TrollingScheduled := by
  intro h_planned
  rw [h] at h_planned
  cases h_planned

theorem trollingScheduled_of_awaits {ts : List Task} (h : a.Awaits ts)
    (h_ts : ∀ k ∈ ts, k.fishPhase ≠ .planned) : a.TrollingScheduled := by
  intro h_planned
  rcases h with h_idle | ⟨k, h_k, x, h_pending⟩
  · rw [fishPhase_of_idle h_idle] at h_planned
    cases h_planned
  · rw [fishPhase_of_waiting h_pending] at h_planned
    exact absurd h_planned (h_ts k h_k)

theorem NonSyncScheduled.trollingScheduled (h : NonSyncScheduled c e a a')
    (h_idle : a.pending = []) (h_bounds : a.protocol.schedule.InBounds)
    (h_agrees : a.protocol.fishing.SessionAgrees) (h_fits : a.protocol.fishing.SessionFits) :
    a'.TrollingScheduled := by
  cases h with
  | omits => exact trollingScheduled_of_none (fishPhase_schedule (a := a.undo) h_idle _ _)
  | merges =>
      refine trollingScheduled_of_none ?_
      apply fishPhase_schedule
      split <;> exact h_idle
  | fishesNear =>
      intro _
      exact Protocol.setStartAndEndTimes_trollsWholeSlots h_bounds h_agrees h_fits
  | fishesFar =>
      intro _
      exact Protocol.setStartAndEndTimes_trollsWholeSlots h_bounds h_agrees h_fits
  | provisions => exact trollingScheduled_of_none (fishPhase_schedule h_idle _ _)
  | stalls => exact trollingScheduled_of_none (fishPhase_of_idle h_idle)

theorem TaskRan.trollingScheduled (h : TaskRan c e a t a') (h_idle : a.pending = [])
    (h_bounds : t ≠ .startSyncPeriodMaintain → a.protocol.schedule.InBounds)
    (h_agrees : a.protocol.fishing.SessionAgrees)
    (h_was : t.fishPhase = .planned → a.protocol.fishing.mode = .trolling →
      a.protocol.TrollsWholeSlots) : a'.TrollingScheduled := by
  by_cases h_other : ∀ k ∈ t.next, k.fishPhase ≠ .planned
  · exact trollingScheduled_of_awaits (h.awaits h_idle) h_other
  cases h with
  | @listened p p₁ _ _ h_end h_fish h_next =>
      have h_chosen :=
        sessionChosen_of_listened h_end h_fish (h_bounds Task.noConfusion) h_agrees
      exact h_next.trollingScheduled h_idle h_chosen.bounds h_chosen.session h_chosen.fits
  | @sentOver p _ _ h_fish h_next =>
      have h_chosen := sessionChosen_of_sent h_fish (h_bounds Task.noConfusion) h_agrees
      exact h_next.trollingScheduled h_idle h_chosen.bounds h_chosen.session h_chosen.fits
  | preludesFish => exact fun _ => h_was rfl
  | pauses h_t => rcases h_t with rfl | rfl <;> exact absurd (by decide) h_other
  | sends h_t => rcases h_t with rfl | rfl <;> exact absurd (by decide) h_other
  | listens h_t => rcases h_t with rfl | rfl <;> exact absurd (by decide) h_other
  | _ => exact absurd (by decide) h_other

theorem AgentStep.trollingScheduled (h : AgentStep c e a ev a') (h_a : a.PeriodKept c)
    (h_agrees : a.protocol.fishing.SessionAgrees) (h_was : a.TrollingScheduled) :
    a'.TrollingScheduled := by
  cases h with
  | @ran t x _ h_pending _ _ _ h_ran =>
      refine h_ran.trollingScheduled (dequeued_pending e t x h_pending) (fun h_t => ?_) h_agrees
        (fun h_t => ?_)
      · exact (h_a.waiting t x h_pending).bounds.resolve_right h_t
      · exact h_was ((fishPhase_of_waiting h_pending).trans h_t)
  | @heard packet handler x _ _ h_pending _ h_taken =>
      intro h_planned
      rw [fishPhase_of_waiting (h_taken.pending.trans h_pending)] at h_planned
      cases handler <;> cases h_planned
  | @succeeded provision p h_pending =>
      exact trollingScheduled_of_none (fishPhase_schedule (by exact h_pending) .provisionEnd _)
  | failed h_pending =>
      exact trollingScheduled_of_none (fishPhase_schedule (by exact h_pending) .provisionEnd _)

end Agent

-- ============================================================================
-- Runs
-- ============================================================================

section Runs

variable {c : Config} {e : Env} {a a' : Agent} {ev : AgentEvent} {x : Nat} {flt : Fault}

theorem agentSystem_sessionBounded (h : (agentSystem c).Reachable a) :
    a.protocol.fishing.SessionBounded := by
  refine agentSystem_protocol (P := fun p => p.fishing.SessionBounded) h ?_ ?_
  · intro _ _
    show 1 ≤ maxTrollingRealFishSessionDurationSlots
    decide
  · exact fun _ => protocolSystem_sessionBounded

theorem agentSystem_trollingScheduled (h : (agentSystem c).Reachable a) :
    a.TrollingScheduled := by
  refine h.invariant_of_reachable Agent.TrollingScheduled ?_ ?_
  · rintro a ⟨initTime, loopTime, -, rfl⟩
    exact Agent.trollingScheduled_of_none rfl
  · rintro a ⟨e, ev⟩ a' h_reach h_a ⟨-, h_possible⟩ h_step
    have h_one := agentSystem_oneTask h_reach.guarded_true
    have h_agent := Agent.stepAgent_step h_one h_possible h_step
    exact h_agent.trollingScheduled (agentSystem_periodKept h_reach)
      (agentSystem_sessionAgrees h_reach) h_a

theorem agentSystem_planned (h : (agentSystem c).Reachable a) (h_planned : a.fishPhase = .planned) :
    a.protocol.schedule.InBounds := by
  refine protocolSystem_inBounds (agentSystem_reaches h fun y h_first => ?_)
  rw [Agent.fishPhase_of_waiting h_first] at h_planned
  cases h_planned

/-- The end of a fish slot is scheduled where it starts, for its nominal duration. -/
theorem agentSystem_schedulesFishSlotEnd (h : (agentSystem c).Reachable a)
    (h_en : (agentSystem c).enabled a (e, .timer .fishSlotStart x))
    (h_step : (agentSystem c).step a (e, .timer .fishSlotStart x) = .ok a') :
    a'.pending = [(.fishSlotEnd, e.now + a.protocol.fishing.getFishSessionDurationTicks)] := by
  have h_one := agentSystem_oneTask h.guarded_true
  have h_ok : stepAgent c a e (.timer .fishSlotStart x) = .ok a' := h_step
  cases Agent.stepAgent_step h_one h_en.2 h_ok with
  | ran h_pending _ _ _ h_ran =>
      have h_idle := Agent.dequeued_pending e .fishSlotStart x h_pending
      cases h_ran with
      | fishes => exact Agent.schedule_pending_of_idle e .fishSlotEnd _ h_idle
      | pauses h_t => rcases h_t with h_t | h_t <;> cases h_t
      | sends h_t => rcases h_t with h_t | h_t <;> cases h_t
      | listens h_t => rcases h_t with h_t | h_t <;> cases h_t

theorem RunStops.ne_fishSessionRange (h : RunStops c e flt) : flt ≠ .fishSessionRange :=
  h.ne_of_events (by decide) fun _ _ h_reach => protocolSystem_ne_fishSessionRange h_reach

/-- Where the slots end in time, trolling ends with the last virtual slot of its
    session. -/
theorem inTimeSystem_trollingEnds
    (h : ((agentSystem c).guarded (Agent.InTime c)).Reachable a)
    (h_pending : a.pending = [(.fishSlotEnd, x)]) (h_trolled : a.fishedDeep = false) :
    x = a.protocol.schedule.startTimeOfSyncPeriod +
        a.protocol.fishing.troll.currentEndSlotOrdinal * virtualSlotDuration ∧
      x ≤ a.protocol.schedule.timeOfUnadjustedNextSyncPoint := by
  obtain ⟨h_bounds, -, h_waiting, -, -⟩ := inTimeSystem_handOverKept h
  obtain ⟨-, h_troll, -⟩ := h_waiting _ _ h_pending
  obtain ⟨-, h_end, h_last⟩ := h_troll h_trolled
  have h_in : a.protocol.schedule.InBounds := by
    rcases h_bounds with h_in | ⟨y, h_first⟩
    · exact h_in
    · rw [h_pending] at h_first
      cases h_first
  have h_next : a.protocol.schedule.timeOfUnadjustedNextSyncPoint =
      a.protocol.schedule.startTimeOfSyncPeriod + normalSyncPeriodDuration := h_in.unadjusted_eq
  rw [normalSyncPeriodDuration_eq] at h_next
  exact ⟨h_end, by omega⟩

/-- In every run: the session has from one to a hundred slots, its duration in ticks
    is theirs, and no step stops because a session is out of range.  A trolling slot
    that is scheduled starts with the first virtual slot of its session and lasts as
    long as they are, up to the end of the last, in the unadjusted period; and where
    it starts, its end is scheduled for that duration.  If all slots end in time, that
    is the end of the session's last slot. -/
theorem trolling_sessions_in_range (h : (agentSystem c).Reachable a) :
    (1 ≤ a.protocol.fishing.session.durationInSlots ∧
      a.protocol.fishing.session.durationInSlots ≤ maxTrollingRealFishSessionDurationSlots) ∧
    a.protocol.fishing.session.durationInTicks =
      a.protocol.fishing.session.durationInSlots * virtualSlotDuration ∧
    (∀ e ev, (agentSystem c).enabled a (e, ev) →
      (agentSystem c).step a (e, ev) ≠ .error (.protocol .fishSessionRange)) ∧
    (a.fishPhase = .planned → a.protocol.fishing.mode = .trolling →
      a.protocol.TrollsWholeSlots ∧
        a.protocol.fishing.memoStartTimeOfFishSlot +
            a.protocol.fishing.getFishSessionDurationTicks ≤
          a.protocol.schedule.timeOfUnadjustedNextSyncPoint) ∧
    (∀ e x a', (agentSystem c).enabled a (e, .timer .fishSlotStart x) →
      (agentSystem c).step a (e, .timer .fishSlotStart x) = .ok a' →
      a.protocol.fishing.mode = .trolling →
      a'.pending = [(.fishSlotEnd, e.now +
        (a.protocol.fishing.troll.currentEndSlotOrdinal -
          a.protocol.fishing.troll.currentStartSlotOrdinal + 1) * virtualSlotDuration)]) ∧
    ∀ x, ((agentSystem c).guarded (Agent.InTime c)).Reachable a →
      a.pending = [(.fishSlotEnd, x)] → a.fishedDeep = false →
      x = a.protocol.schedule.startTimeOfSyncPeriod +
          a.protocol.fishing.troll.currentEndSlotOrdinal * virtualSlotDuration ∧
        x ≤ a.protocol.schedule.timeOfUnadjustedNextSyncPoint := by
  obtain ⟨h_ticks, h_pos⟩ := agentSystem_sessionAgrees h
  have h_scheduled := agentSystem_trollingScheduled h
  refine ⟨⟨h_pos, agentSystem_sessionBounded h⟩, h_ticks, fun e ev h_en h_stop => ?_,
    fun h_planned h_mode => ?_, fun e x a' h_en h_step h_mode => ?_,
    fun x h_timed h_pending h_trolled => inTimeSystem_trollingEnds h_timed h_pending h_trolled⟩
  · exact (agentSystem_stops h h_en h_stop).ne_fishSessionRange rfl
  · have h_slots := h_scheduled h_planned h_mode
    obtain ⟨h_end, h_le⟩ := h_slots.end_le (agentSystem_planned h h_planned)
    exact ⟨h_slots, h_end.trans_le h_le⟩
  · have h_pending := (agentSystem_oneTask h.guarded_true).pending_eq h_en.2.1
    have h_slots := h_scheduled (Agent.fishPhase_of_waiting h_pending) h_mode
    rw [agentSystem_schedulesFishSlotEnd h h_en h_step, h_slots.duration]

/-- The timer runs a task when it expires, at a high voltage. -/
def charged (task : Task) (expiry : Nat) : Env × AgentEvent :=
  ({ Env.quiet expiry with isVccAbove2_7V := true }, .timer task expiry)

/-- Unit five, charged, is about to fish 21 slots from 81100 on. -/
theorem trolling_sessions_in_range_charged :
    ∃ a, (agentSystem unitFive).Reachable a ∧
      a.pending = [(.theRadioPreludeTaskWFish, 81050)] ∧
      a.protocol.fishing.session.durationInSlots = 21 ∧
      a.protocol.fishing.session.durationInTicks = 21 * virtualSlotDuration ∧
      a.protocol.fishing.memoStartTimeOfFishSlot = 81100 ∧
      81100 + a.protocol.fishing.getFishSessionDurationTicks ≤ 160000 := by
  obtain ⟨a, h, h_pending, h_mode, h_slots, h_start, h_end⟩ :=
    System.Reachable.exists_of_play (M := agentSystem unitFive)
      (P := fun a => a.pending = [(.theRadioPreludeTaskWFish, 81050)] ∧
        a.protocol.fishing.mode = .trolling ∧
        a.protocol.fishing.session.durationInSlots = 21 ∧
        a.protocol.fishing.memoStartTimeOfFishSlot = 81100 ∧
        a.protocol.schedule.timeOfUnadjustedNextSyncPoint = 160000)
      [charged .startSyncPeriodMaintain 0, charged .theRadioPreludeTaskWSync 79950,
        charged .startSyncSlotAfterPrelude 80000, charged .endSyncSlotListen 80050]
      ⟨0, 0, Nat.le_refl 0, rfl⟩ (by decide +kernel)
  obtain ⟨-, h_ticks, -, h_slot, -⟩ := trolling_sessions_in_range h
  obtain ⟨-, h_le⟩ := h_slot (Agent.fishPhase_of_waiting h_pending) h_mode
  rw [h_slots] at h_ticks
  rw [h_start, h_end] at h_le
  exact ⟨a, h, h_pending, h_slots, h_ticks, h_start, h_le⟩

end Runs

end SleepSync
