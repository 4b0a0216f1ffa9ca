/-
  SleepSync.MergeSlots

  Merge slots lie in the part of the period that is not the sync slot.

  The time of the merge slot is computed once, at the catch, from times of two
  schedules.  Whatever these are, the difference is taken modulo the period and
  then clamped to the earliest merge time, so it is after the sync slot, and the
  preflight fits between it and the end of a period.  The unit keeps it for as
  long as it is a merger, in periods that start and end elsewhere.  But no period
  is shorter than a normal one, and a sync slot only ever extends it.  So the
  slot is in each of them, before the end that the period would have had.
-/

import SleepSync.MergeAim
import SleepSync.DeepListening
import SleepSync.StopsInRuns

namespace SleepSync

open Lib ScheduleParameters PhysicalParameters CliqueMerger

-- ============================================================================
-- The time that is set
-- ============================================================================

/-- A time from the sync point that is after the sync slot, and leaves the
    preflight before the end of a period. -/
def CliqueMerger.InNonSyncPart (c : Config) (offset : Nat) : Prop :=
  virtualSlotDuration ≤ offset ∧
    offset ≤ normalSyncPeriodDuration - preflightDelta c.platform

section Times

variable {c : Config} {offset : Nat}

theorem preflightDelta_eq (c : Config) :
    preflightDelta c.platform = 50 + sendLatency c.platform := rfl

theorem sendDuration_eq (c : Config) : sendDuration c.platform = 2 + sendLatency c.platform := rfl

theorem adjustedRawTimeToMergeClique_inNonSyncPart {rawTime : Nat}
    (h : rawTime < normalSyncPeriodDuration) :
    InNonSyncPart c (adjustedRawTimeToMergeClique c rawTime) := by
  have h_lat := sendLatency_le c.platform
  have h_first : earliestMergeTime c = 100 + preflightDelta c.platform := rfl
  simp only [InNonSyncPart, preflightDelta_eq, normalSyncPeriodDuration_eq,
    virtualSlotDuration_eq] at h h_first ⊢
  rcases Nat.lt_or_ge (earliestMergeTime c) rawTime with h_late | h_early
  · have h_sum := adjustedRawTimeToMergeClique_of_lt h_late
    rw [preflightDelta_eq] at h_sum
    omega
  · rw [adjustedRawTimeToMergeClique_of_le h_early]
    omega

theorem periodTimeToMergeMyClique_inNonSyncPart (c : Config) (s : Schedule) (toa : Nat) :
    InNonSyncPart c (periodTimeToMergeMyClique c s toa) :=
  adjustedRawTimeToMergeClique_inNonSyncPart (Nat.mod_lt _ (by decide))

theorem periodTimeToMergeOtherClique_inNonSyncPart (c : Config) (s : Schedule) (toa : Nat) :
    InNonSyncPart c (periodTimeToMergeOtherClique c s toa) :=
  adjustedRawTimeToMergeClique_inNonSyncPart (Nat.mod_lt _ (by decide))

/-- Such a time is a `PeriodTime`. -/
theorem CliqueMerger.InNonSyncPart.set (h : InNonSyncPart c offset) :
    periodTimeSet offset = .ok offset :=
  Protocol.periodTimeSet_eq_ok.2 ⟨Nat.le_trans h.2 (Nat.sub_le _ _), rfl⟩

/-- However a period is extended, a merge slot at such a time is in it, and over
    before the end it would have had. -/
theorem CliqueMerger.InNonSyncPart.start {p : Protocol} (h : InNonSyncPart c offset)
    (h_bounds : p.schedule.InBounds) :
    p.timeOfThisMergeStart offset = .ok (p.schedule.startTimeOfSyncPeriod + offset) ∧
      p.schedule.startTimeOfSyncPeriod + offset + sendDuration c.platform <
        p.schedule.timeOfUnadjustedNextSyncPoint := by
  obtain ⟨-, h_hi⟩ := h
  have h_lat := sendLatency_le c.platform
  have h_end : p.schedule.timeOfUnadjustedNextSyncPoint =
      p.schedule.startTimeOfSyncPeriod + normalSyncPeriodDuration := h_bounds.unadjusted_eq
  have h_later : p.schedule.timeOfUnadjustedNextSyncPoint ≤ p.schedule.endTimeOfSyncPeriod :=
    h_bounds.unadjusted_le_end
  simp only [preflightDelta_eq, normalSyncPeriodDuration_eq] at h_hi h_end
  have h_slot : p.schedule.startTimeOfSyncPeriod + offset + sendDuration c.platform <
      p.schedule.timeOfUnadjustedNextSyncPoint := by
    rw [sendDuration_eq]
    omega
  refine ⟨require_bind_eq_ok.2 ⟨?_, rfl⟩, h_slot⟩
  omega

end Times

-- ============================================================================
-- Runs of events
-- ============================================================================

/-- The merge slot of a merger is in the non-sync part. -/
def Protocol.MergesInNonSyncPart (c : Config) (p : Protocol) : Prop :=
  p.role = .merger → InNonSyncPart c p.cliqueMerger.periodTimeToMergeSlotStart

section Events

variable {c : Config} {e : Env} {p p' : Protocol} {ev : ProtocolEvent} {msg : SyncMessage}

theorem Protocol.FishSlotHeard.mergesInNonSyncPart (h : FishSlotHeard c e p msg p')
    (h_p : p.MergesInNonSyncPart c) : p'.MergesInNonSyncPart c := by
  cases h with
  | mergesMy =>
      intro _
      exact periodTimeToMergeMyClique_inNonSyncPart c p.schedule e.timeOfArrival
  | mergesOther =>
      intro _
      exact periodTimeToMergeOtherClique_inNonSyncPart c p.schedule e.timeOfArrival
  | caughtDeep => exact h_p
  | kept => exact h_p

/-- Only a catch sets the time. -/
theorem stepProtocol_mergesInNonSyncPart (h : stepProtocol c p e ev = .ok p')
    (h_p : p.MergesInNonSyncPart c) : p'.MergesInNonSyncPart c := by
  cases stepProtocol_merger h with
  | kept h_role h_merger =>
      intro h_is
      rw [h_merger]
      exact h_p (h_role ▸ h_is)
  | left h_role =>
      intro h_is
      exact absurd h_is h_role
  | became h_heard h_was _ h_role =>
      cases stepProtocol_done h with
      | heard h_sync =>
          have h_same := h_sync.merger.1
          rw [h_role, h_was] at h_same
          cases h_same
      | fished h_fished => exact h_fished.mergesInNonSyncPart h_p
      | _ => cases h_heard

theorem protocolSystem_mergesInNonSyncPart (h : (protocolSystem c).Reachable p) :
    p.MergesInNonSyncPart c := by
  refine h.invariant (fun p => p.MergesInNonSyncPart c) ?_ ?_
  · rintro p ⟨initTime, loopTime, rfl⟩ h_is
    cases h_is
  · intro p l p' h_p _ h_step
    exact stepProtocol_mergesInNonSyncPart h_step h_p

end Events

-- ============================================================================
-- Two assertions that never fail
-- ============================================================================

section Assertions

variable {c : Config} {e : Env} {p : Protocol} {ev : ProtocolEvent} {msg : SyncMessage}
  {flt : Fault}

/-- Only a catch asks for the range of `PeriodTime`, and the time is in it. -/
theorem stepProtocol_ne_periodTimeRange : stepProtocol c p e ev ≠ .error .periodTimeRange := by
  intro h
  cases stepProtocol_stops h with
  | adjusts h_flt => cases h_flt
  | periodTime =>
      rcases hearInFishSlot_inCatch h with h_flt | h_flt
      · cases h_flt
      · exact absurd h_flt (by decide)

/-- The start of a merge slot is the time after its sync point that was set. -/
theorem protocolSystem_mergeStart (h : (protocolSystem c).Reachable p) (h_role : p.role = .merger) :
    p.timeOfThisMergeStart p.cliqueMerger.periodTimeToMergeSlotStart =
        .ok (p.schedule.startTimeOfSyncPeriod + p.cliqueMerger.periodTimeToMergeSlotStart) ∧
      p.schedule.startTimeOfSyncPeriod + p.cliqueMerger.periodTimeToMergeSlotStart +
        sendDuration c.platform < p.schedule.timeOfUnadjustedNextSyncPoint :=
  (protocolSystem_mergesInNonSyncPart h h_role).start (protocolSystem_inBounds h)

theorem RunStops.ne_periodTimeRange (h : RunStops c e flt) : flt ≠ .periodTimeRange :=
  h.ne_of_events (by decide) fun _ _ _ => stepProtocol_ne_periodTimeRange

theorem stepProtocol_ne_mergeStartTooLate :
    stepProtocol c p e ev ≠ .error .mergeStartTooLate := by
  intro h
  cases stepProtocol_stops h with
  | adjusts h_flt => cases h_flt

theorem RunStops.ne_mergeStartTooLate (h : RunStops c e flt) : flt ≠ .mergeStartTooLate := by
  refine h.ne (by decide) (fun _ _ _ => stepProtocol_ne_mergeStartTooLate) ?_
  intro p h_reach h_role h_start
  have h_ok := (protocolSystem_mergeStart h_reach h_role).1
  cases h_ok.symm.trans (bind_return_eq_error.1 h_start)

end Assertions

-- ============================================================================
-- Runs of tasks
-- ============================================================================

namespace Agent

variable {c : Config} {e : Env} {a a' : Agent} {ev : AgentEvent} {t : Task} {x : Nat}

/-- The merge slot that is scheduled for `x` is the one of the period, from a time in
    that period. -/
structure MergeSlotPlanned (c : Config) (e : Env) (p : Protocol) (x : Nat) : Prop where
  role : p.role = .merger
  start : p.schedule.startTimeOfSyncPeriod ≤ e.now
  delay : ∃ d, p.deltaToThisMergeStart c e = .ok d ∧ x = e.now + d

theorem schedule_ne_mergerStartAndEnd {d : Nat} (h_idle : a.pending = [])
    (h_t : t ≠ .mergerStartAndEnd) : (a.schedule e t d).pending ≠ [(.mergerStartAndEnd, x)] := by
  rw [schedule_pending_of_idle e t d h_idle]
  intro h_pending
  simp only [List.cons.injEq, Prod.mk.injEq, and_true] at h_pending
  exact h_t h_pending.1

theorem NonSyncScheduled.mergeSlot (h : NonSyncScheduled c e a a') (h_idle : a.pending = [])
    (h_start : a.protocol.schedule.startTimeOfSyncPeriod ≤ e.now)
    (h_next : a'.pending = [(.mergerStartAndEnd, x)]) : MergeSlotPlanned c e a'.protocol x := by
  cases h with
  | omits =>
      exact absurd h_next (schedule_ne_mergerStartAndEnd (a := a.undo) h_idle Task.noConfusion)
  | @merges delay _ h_role _ h_delay =>
      generalize h_b : (if a.protocol.isMergerStartSyncPeriod then a else a.undo) = b at h_next ⊢
      have h_same : b.protocol = a.protocol ∧ b.pending = [] := by
        rw [← h_b]
        split <;> exact ⟨rfl, h_idle⟩
      rw [schedule_pending_of_idle e _ _ h_same.2] at h_next
      cases h_next
      show MergeSlotPlanned c e b.protocol (e.now + delay)
      rw [h_same.1]
      exact ⟨h_role, h_start, delay, h_delay, rfl⟩
  | fishesNear =>
      exact absurd h_next (schedule_ne_mergerStartAndEnd (by exact h_idle) Task.noConfusion)
  | fishesFar =>
      exact absurd h_next (schedule_ne_mergerStartAndEnd (by exact h_idle) Task.noConfusion)
  | provisions => exact absurd h_next (schedule_ne_mergerStartAndEnd h_idle Task.noConfusion)
  | stalls =>
      rw [h_idle] at h_next
      cases h_next

theorem TaskRan.mergeSlot (h : TaskRan c e a t a') (h_idle : a.pending = [])
    (h_start : a.protocol.schedule.startTimeOfSyncPeriod ≤ e.now)
    (h_next : a'.pending = [(.mergerStartAndEnd, x)]) : MergeSlotPlanned c e a'.protocol x := by
  have h_from : .mergerStartAndEnd ∈ t.next := (h.awaits h_idle).mem h_next
  cases h with
  | @listened p p₁ _ _ h_end h_fish h_scheduled =>
      refine h_scheduled.mergeSlot h_idle ?_ h_next
      show p₁.schedule.startTimeOfSyncPeriod ≤ e.now
      rw [Protocol.preFishing_schedule h_fish, Protocol.endListen_start h_end]
      exact h_start
  | @sentOver p _ _ h_fish h_scheduled =>
      refine h_scheduled.mergeSlot h_idle ?_ h_next
      show p.schedule.startTimeOfSyncPeriod ≤ e.now
      rw [Protocol.preFishing_schedule h_fish]
      exact h_start
  | pauses h_t => rcases h_t with rfl | rfl <;> exact absurd h_from (by decide)
  | sends h_t => rcases h_t with rfl | rfl <;> exact absurd h_from (by decide)
  | listens h_t => rcases h_t with rfl | rfl <;> exact absurd h_from (by decide)
  | _ => exact absurd h_from (by decide)

theorem AgentStep.mergeSlot (h : AgentStep c e a ev a') (h_clock : a.clock ≤ e.now)
    (h_a : a.PeriodKept c) (h_next : a'.pending = [(.mergerStartAndEnd, x)]) :
    MergeSlotPlanned c e a'.protocol x := by
  cases h with
  | @ran t y _ h_pending _ _ _ h_ran =>
      have h_start := (h_a.waiting t y h_pending).start
      exact h_ran.mergeSlot (dequeued_pending e t y h_pending) (Nat.le_trans h_start h_clock)
        h_next
  | @heard packet handler y _ _ h_pending _ h_taken =>
      have h_same := h_taken.pending.trans h_pending
      rw [h_same] at h_next
      cases handler <;> cases h_next
  | @succeeded provision p h_pending =>
      exact absurd h_next (schedule_ne_mergerStartAndEnd (by exact h_pending) Task.noConfusion)
  | failed h_pending =>
      exact absurd h_next (schedule_ne_mergerStartAndEnd (by exact h_pending) Task.noConfusion)

end Agent

section Runs

variable {c : Config} {e : Env} {a a' : Agent} {ev : AgentEvent} {x : Nat}

/-- A merger is past the loader's first task. -/
theorem agentSystem_merger (h : (agentSystem c).Reachable a) (h_role : a.protocol.role = .merger) :
    (protocolSystem c).Reachable a.protocol := by
  refine agentSystem_protocol
    (P := fun p => p.role = .merger → (protocolSystem c).Reachable p) h ?_ ?_ h_role
  · intro _ _ h_boot
    cases h_boot
  · exact fun _ h_reach _ => h_reach

/-- The merge message of a merge slot is always built: the time that it tells is not
    more than a period. -/
theorem agentSystem_makesMergeMsg (h : (agentSystem c).Reachable a)
    (h_en : (agentSystem c).enabled a (e, .timer .mergerStartAndEnd x)) :
    ∃ msg, a.protocol.makeMergeMsg c e = .ok msg ∧
      msg.deltaToNextSyncPoint.get =
        a.protocol.schedule.deltaNowToNextUnadjustedSyncPoint c.tm e.now ∧
      a.protocol.schedule.deltaNowToNextUnadjustedSyncPoint c.tm e.now ≤
        normalSyncPeriodDuration := by
  obtain ⟨h_clock, h_mem, -⟩ := h_en
  have h_pending := (agentSystem_oneTask h.guarded_true).pending_eq h_mem
  have h_waits := (agentSystem_periodKept h).waiting _ _ h_pending
  have h_role := (agentSystem_roleKept h).waiting _ _ h_pending
  have h_active : a.protocol.cliqueMerger.isActive = true :=
    h_role.agrees.isActive.2 h_role.fits
  have h_start : a.protocol.schedule.startTimeOfSyncPeriod ≤ e.now :=
    Nat.le_trans h_waits.start h_clock
  have h_end : a.protocol.schedule.timeOfUnadjustedNextSyncPoint =
      a.protocol.schedule.startTimeOfSyncPeriod + normalSyncPeriodDuration :=
    (h_waits.bounds.resolve_right Task.noConfusion).unadjusted_eq
  have h_delta : a.protocol.schedule.deltaNowToNextUnadjustedSyncPoint c.tm e.now ≤
      normalSyncPeriodDuration := by
    rw [normalSyncPeriodDuration_eq] at h_end ⊢
    have h_eq : a.protocol.schedule.deltaNowToNextUnadjustedSyncPoint c.tm e.now =
        a.protocol.schedule.timeOfUnadjustedNextSyncPoint - e.now := c.tm.fromNow_eq (by omega)
    omega
  cases h_msg : a.protocol.makeMergeMsg c e with
  | ok msg => exact ⟨msg, rfl, makeMergeMsg_offset h_msg, h_delta⟩
  | error flt =>
      rcases Protocol.makeMergeMsg_eq_error h_msg with ⟨-, h_idle⟩ | ⟨-, h_far⟩
      · exact absurd h_active (ne_true_of_eq_false h_idle)
      · exact absurd h_delta (Nat.not_le_of_lt h_far)

/-- The merge slot is scheduled for its start, or for the present if that is over. -/
theorem agentSystem_schedulesMergeSlot (h : (agentSystem c).Reachable a)
    (h_en : (agentSystem c).enabled a (e, ev))
    (h_step : (agentSystem c).step a (e, ev) = .ok a')
    (h_next : a'.pending = [(.mergerStartAndEnd, x)]) :
    ∃ t, a'.protocol.timeOfThisMergeStart
        a'.protocol.cliqueMerger.periodTimeToMergeSlotStart = .ok t ∧ x = max e.now t := by
  have h_agent := Agent.stepAgent_step (agentSystem_oneTask h.guarded_true) h_en.2 h_step
  obtain ⟨h_role, h_start, d, h_d, rfl⟩ :=
    h_agent.mergeSlot h_en.1 (agentSystem_periodKept h) h_next
  have h_reach := agentSystem_merger (h.next h_en h_step) h_role
  obtain ⟨h_ok, h_slot⟩ := protocolSystem_mergeStart h_reach h_role
  obtain ⟨t, h_t, rfl⟩ := bind_return_eq_ok.1 h_d
  obtain rfl : _ = t := Except.ok.inj (h_ok.symm.trans h_t)
  have h_end : a'.protocol.schedule.timeOfUnadjustedNextSyncPoint =
      a'.protocol.schedule.startTimeOfSyncPeriod + normalSyncPeriodDuration :=
    (protocolSystem_inBounds h_reach).unadjusted_eq
  rw [normalSyncPeriodDuration_eq] at h_end
  exact ⟨_, h_t, c.tm.now_add_fromNow (by omega)⟩

/-- In every run: whatever a catch and its time of arrival, either kind of merger
    sets a time that is accepted, after the sync slot, and early enough for the
    preflight.  In every period in which the unit is a merger, the merge slot starts
    in the period, the message in it ends before the end that the period had before
    it was adjusted, and its offset is at most a period.  The slot is scheduled for
    that start, unless the sync slot ends later, and neither the range of the time
    nor that of the slot stops a step. -/
theorem merge_slots_in_nonsync_part (h : (agentSystem c).Reachable a) :
    (∀ toa value,
      (value = periodTimeToMergeMyClique c a.protocol.schedule toa ∨
        value = periodTimeToMergeOtherClique c a.protocol.schedule toa) →
      periodTimeSet value = .ok value ∧ virtualSlotDuration ≤ value ∧
        value ≤ normalSyncPeriodDuration - preflightDelta c.platform) ∧
    (a.protocol.role = .merger →
      ∃ t, a.protocol.timeOfThisMergeStart a.protocol.cliqueMerger.periodTimeToMergeSlotStart =
          .ok t ∧
        a.protocol.schedule.startTimeOfSyncPeriod + virtualSlotDuration ≤ t ∧
        t + sendDuration c.platform < a.protocol.schedule.timeOfUnadjustedNextSyncPoint) ∧
    (∀ e x, (agentSystem c).enabled a (e, .timer .mergerStartAndEnd x) →
      ∃ msg, a.protocol.makeMergeMsg c e = .ok msg ∧
        msg.deltaToNextSyncPoint.get =
          a.protocol.schedule.deltaNowToNextUnadjustedSyncPoint c.tm e.now ∧
        a.protocol.schedule.deltaNowToNextUnadjustedSyncPoint c.tm e.now ≤
          normalSyncPeriodDuration) ∧
    (∀ e ev a' x, (agentSystem c).enabled a (e, ev) →
      (agentSystem c).step a (e, ev) = .ok a' → a'.pending = [(.mergerStartAndEnd, x)] →
      ∃ t, a'.protocol.timeOfThisMergeStart
          a'.protocol.cliqueMerger.periodTimeToMergeSlotStart = .ok t ∧ x = max e.now t) ∧
    ∀ e ev, (agentSystem c).enabled a (e, ev) →
      (agentSystem c).step a (e, ev) ≠ .error (.protocol .periodTimeRange) ∧
        (agentSystem c).step a (e, ev) ≠ .error (.protocol .mergeStartTooLate) := by
  refine ⟨fun toa value h_value => ?_, fun h_role => ?_, fun e x h_en => ?_,
    fun e ev a' x h_en h_step h_next => ?_, fun e ev h_en => ⟨fun h_stop => ?_, fun h_stop => ?_⟩⟩
  · have h_part : InNonSyncPart c value := by
      rcases h_value with rfl | rfl
      · exact periodTimeToMergeMyClique_inNonSyncPart c _ toa
      · exact periodTimeToMergeOtherClique_inNonSyncPart c _ toa
    exact ⟨h_part.set, h_part⟩
  · have h_reach := agentSystem_merger h h_role
    obtain ⟨h_start, h_slot⟩ := protocolSystem_mergeStart h_reach h_role
    have h_after := (protocolSystem_mergesInNonSyncPart h_reach h_role).1
    exact ⟨_, h_start, Nat.add_le_add_left h_after _, h_slot⟩
  · exact agentSystem_makesMergeMsg h h_en
  · exact agentSystem_schedulesMergeSlot h h_en h_step h_next
  · exact (agentSystem_stops h h_en h_stop).ne_periodTimeRange rfl
  · exact (agentSystem_stops h h_en h_stop).ne_mergeStartTooLate rfl

/-- Unit five tells the worse clique nine of its own, 160 ticks into its period. -/
theorem merge_slots_in_nonsync_part_mergesNine :
    ∃ a t msg, (agentSystem unitFive).Reachable a ∧
      a.pending = [(.mergerStartAndEnd, 160160)] ∧
      a.protocol.schedule.timeOfUnadjustedNextSyncPoint = 240000 ∧
      a.protocol.timeOfThisMergeStart a.protocol.cliqueMerger.periodTimeToMergeSlotStart = .ok t ∧
      t + sendDuration unitFive.platform < 240000 ∧
      a.protocol.makeMergeMsg unitFive (Env.quiet 160160) = .ok msg ∧
      msg.deltaToNextSyncPoint.get ≤ 80000 := by
  obtain ⟨a, h, h_pending, h_role, h_end, h_en⟩ :=
    System.Reachable.exists_of_play (M := agentSystem unitFive)
      (P := fun a => a.pending = [(.mergerStartAndEnd, 160160)] ∧ a.protocol.role = .merger ∧
        a.protocol.schedule.timeOfUnadjustedNextSyncPoint = 240000 ∧
        (agentSystem unitFive).enabled a (onTime .mergerStartAndEnd 160160))
      (catchesNine ++ mergesNine.take 1) ⟨0, 0, Nat.le_refl 0, rfl⟩ (by decide +kernel)
  obtain ⟨-, h_slot, h_msg, -, -⟩ := merge_slots_in_nonsync_part h
  obtain ⟨t, h_t, -, h_before⟩ := h_slot h_role
  obtain ⟨msg, h_msg, h_offset, h_le⟩ := h_msg _ _ h_en
  rw [h_end] at h_before
  exact ⟨a, t, msg, h, h_pending, h_end, h_t, h_before, h_msg, h_offset.trans_le h_le⟩

end Runs

end SleepSync
