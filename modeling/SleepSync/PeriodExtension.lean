/-
  SleepSync.PeriodExtension

  Whether an adjustment ever moves the end of the period back.

  `adjust` asserts that the end is not before the unadjusted one, which is not
  the end in force once the period has been extended.  A sync point that is
  before the end in force is taken one period later, once; a random offset is
  added to the unadjusted end.  So an extended period is shortened by a sync
  point more than a period before its end, and by a scatter with less than the
  extension, and by nothing else.
-/

import SleepSync.MergeRank

namespace SleepSync

open Lib Protocol ScheduleParameters

-- ============================================================================
-- One adjustment
-- ============================================================================

namespace Schedule

variable {s s' : Schedule} {msg : SyncMessage} {toa : Nat} {r : DeltaSync}

theorem adjustBySyncMsg_extends (h : s.adjustBySyncMsg msg toa = .ok s') :
    s.endTimeOfSyncPeriod ≤ s'.endTimeOfSyncPeriod ↔
      s.endTimeOfSyncPeriod ≤ adjustedEventTimeFromMsg msg toa + normalSyncPeriodDuration := by
  obtain ⟨-, -, h_end⟩ := adjust_frame (adjustBySyncMsg_eq_ok.1 h)
  rw [h_end]
  unfold adjustedEndTime
  split <;> omega

theorem adjustWithRandomAddedTime_extends (h : s.adjustWithRandomAddedTime r = .ok s') :
    s.endTimeOfSyncPeriod ≤ s'.endTimeOfSyncPeriod ↔
      s.endTimeOfSyncPeriod ≤ s.startTimeOfSyncPeriod + normalSyncPeriodDuration + r.get := by
  obtain ⟨-, -, h_end⟩ := adjust_frame h
  rw [h_end]

/-- The sync point that would shorten the period is one that `adjust` accepts: the
    end it leads to is still a period after the start. -/
theorem InBounds.adjustBySyncMsg_shortens (h : s.InBounds)
    (h_toa : s.startTimeOfSyncPeriod ≤ toa)
    (h_far : adjustedEventTimeFromMsg msg toa + normalSyncPeriodDuration <
      s.endTimeOfSyncPeriod) : ∃ s', s.adjustBySyncMsg msg toa = .ok s' := by
  have h_end := h.end_le
  exact (adjustBySyncMsg_ok_iff h h_toa).2 (Or.inl (by omega))

end Schedule

-- ============================================================================
-- The adjustments of a unit
-- ============================================================================

namespace Protocol

variable (c : Config) (e : Env) (p : Protocol)

/-- The master of a slave tells it to scatter. -/
def hearsScatter (msg : SyncMessage) : Bool :=
  msg.type = .controlScatterClique ∧ p.isMsgFromMyClique msg.masterID ∧ p.isSelfMaster c = false

/-- The control message of this sync slot is the last of those that announce a
    scatter. -/
def enactsScatter : Bool :=
  (p.decideKind c e).1 = .sendControlSync ∧
    Policy.countRepeatsPerControlSync < (p.decideKind c e).2.intraClique.repeater.counter ∧
    (p.decideKind c e).2.intraClique.repeater.onDoneCallback = .onDoneScatter

/-- The end that a heard sync point is taken to at the latest. -/
def endFromMsg (msg : SyncMessage) : Nat :=
  Schedule.adjustedEventTimeFromMsg msg e.timeOfArrival + normalSyncPeriodDuration

def endFromScatter : Nat :=
  p.schedule.startTimeOfSyncPeriod + normalSyncPeriodDuration + e.randomOffset.get

/-- How far the adjustment of an event can move the end, if it makes one. -/
def farthestEnd : ProtocolEvent → Option Nat
  | .hearInSyncSlot msg =>
      if p.adoptsInSyncSlot msg then some (endFromMsg e msg)
      else if p.hearsScatter c msg then some (p.endFromScatter e)
      else none
  | .hearInFishSlot msg => if p.adoptsInFishSlot msg then some (endFromMsg e msg) else none
  | .dispatchSyncSlotKind => if p.enactsScatter c e then some (p.endFromScatter e) else none
  | _ => none

end Protocol

/-- Apart from the roll, which begins another period, and the dropout of the
    master, which adjusts to the present. -/
def KeepsEnd (t : ProtocolMove) : Prop :=
  t.label.2 ≠ .rollPeriodForward → t.label.2 ≠ .endListen →
    t.before.schedule.endTimeOfSyncPeriod ≤ t.after.schedule.endTimeOfSyncPeriod

/-- The end in force can be reached by the adjustment of the step. -/
def ReachesEnd (c : Config) (t : ProtocolMove) : Prop :=
  ∀ r ∈ t.before.farthestEnd c t.label.1 t.label.2, t.before.schedule.endTimeOfSyncPeriod ≤ r

instance (c : Config) (t : ProtocolMove) : Decidable (ReachesEnd c t) :=
  inferInstanceAs (Decidable (∀ r ∈ t.before.farthestEnd c t.label.1 t.label.2, _))

section Adjustments

variable {c : Config} {e : Env} {p p' : Protocol} {msg : SyncMessage} {ev : ProtocolEvent}

theorem hearsScatter_adjusts (h_scatter : p.hearsScatter c msg = true)
    (h_step : stepProtocol c p e (.hearInSyncSlot msg) = .ok p') :
    p.schedule.adjustWithRandomAddedTime e.randomOffset = .ok p'.schedule := by
  obtain ⟨h_type, h_mine, h_slave⟩ := of_decide_eq_true h_scatter
  obtain ⟨⟨r, p₁⟩, h_handle, rfl⟩ := bind_return_eq_ok.1 h_step
  unfold SyncSlot.handle at h_handle
  rw [h_type] at h_handle
  obtain ⟨p₂, h_scattered, h_eq⟩ := bind_return_eq_ok.1 h_handle
  obtain rfl : p' = p₂ := (Prod.mk.inj h_eq).2
  unfold handleScatterMessage at h_scattered
  rw [if_pos h_mine, h_slave, if_neg Bool.false_ne_true] at h_scattered
  obtain ⟨i, h_i⟩ := cancelAnyUpstreamingInProgress_eq c p
  rw [h_i] at h_scattered
  obtain ⟨f, s, -, h_s, rfl⟩ := scatterSync_eq_ok.1 h_scattered
  exact h_s

theorem onDone_adjusts {callback : OnDoneCallback} (h : p.onDone c e callback = .ok p') :
    if callback = .onDoneScatter then
      p.schedule.adjustWithRandomAddedTime e.randomOffset = .ok p'.schedule
    else p'.schedule = p.schedule := by
  cases callback with
  | onDoneScatter =>
      obtain ⟨-, h_scatter⟩ := require_bind_eq_ok.1 h
      obtain ⟨f, s, -, h_s, rfl⟩ := scatterSync_eq_ok.1 h_scatter
      exact h_s
  | onDoneGranularityWithAction =>
      obtain ⟨-, h_set⟩ := require_bind_eq_ok.1 h
      cases h_set
      obtain ⟨g, x, h_eq⟩ := trySetGranularity_eq p p.intraClique.granularity
      rw [h_eq, if_neg (by decide)]
  | onDoneRepeatingUpstream =>
      obtain ⟨-, h_same⟩ := require_bind_eq_ok.1 h
      cases h_same
      rw [if_neg (by decide)]

theorem checkDoneAndEnactControl_adjusts (h : p.checkDoneAndEnactControl c e = .ok p') :
    if Policy.countRepeatsPerControlSync < p.intraClique.repeater.counter ∧
        p.intraClique.repeater.onDoneCallback = .onDoneScatter then
      p.schedule.adjustWithRandomAddedTime e.randomOffset = .ok p'.schedule
    else p'.schedule = p.schedule := by
  obtain ⟨⟨done, r⟩, h_done, h⟩ := bind_eq_ok.1 h
  obtain ⟨-, h_done⟩ := require_bind_eq_ok.1 h_done
  by_cases h_count : Policy.countRepeatsPerControlSync < p.intraClique.repeater.counter
  · rw [if_pos h_count] at h_done
    cases h_done
    have h_adjusts := onDone_adjusts h
    simp only [h_count, true_and]
    exact h_adjusts
  · rw [if_neg h_count] at h_done
    cases h_done
    cases h
    rw [if_neg (fun h_last => h_count h_last.1)]

/-- The sync slot's own control adjusts the schedule exactly where it is the last
    announcement of a scatter. -/
theorem dispatchSyncSlotKind_adjusts (h_step : stepProtocol c p e .dispatchSyncSlotKind = .ok p') :
    if p.enactsScatter c e then
      p.schedule.adjustWithRandomAddedTime e.randomOffset = .ok p'.schedule
    else p'.schedule = p.schedule := by
  rw [stepProtocol_dispatchSyncSlotKind] at h_step
  unfold enactsScatter
  by_cases h_kind : (p.decideKind c e).1 = .sendControlSync
  · rw [if_pos h_kind] at h_step
    have h_adjusts := checkDoneAndEnactControl_adjusts h_step
    simp only [h_kind, true_and, decide_eq_true_eq]
    exact h_adjusts
  · rw [if_neg h_kind] at h_step
    cases h_step
    simp only [h_kind, false_and, decide_false]
    rfl

/-- An event that is neither a roll nor the end of listening adjusts the schedule by
    its message, by a scatter, or not at all. -/
theorem stepProtocol_adjusts (h_step : stepProtocol c p e ev = .ok p')
    (h_roll : ev ≠ .rollPeriodForward) (h_listen : ev ≠ .endListen) :
    (∃ msg, p.farthestEnd c e ev = some (endFromMsg e msg) ∧
        p.schedule.adjustBySyncMsg msg e.timeOfArrival = .ok p'.schedule) ∨
      (p.farthestEnd c e ev = some (p.endFromScatter e) ∧
        p.schedule.adjustWithRandomAddedTime e.randomOffset = .ok p'.schedule) ∨
      (p.farthestEnd c e ev = none ∧ p'.schedule = p.schedule) := by
  cases ev with
  | rollPeriodForward => exact absurd rfl h_roll
  | endListen => exact absurd rfl h_listen
  | hearInSyncSlot msg =>
      by_cases h_adopts : p.adoptsInSyncSlot msg = true
      · have h_adjust := ProtocolEvent.Adopts.adjusts (Or.inl ⟨rfl, h_adopts⟩) h_step
        exact Or.inl ⟨msg, if_pos h_adopts, h_adjust⟩
      · by_cases h_scatter : p.hearsScatter c msg = true
        · refine Or.inr (Or.inl ⟨?_, hearsScatter_adjusts h_scatter h_step⟩)
          rw [farthestEnd, if_neg h_adopts, if_pos h_scatter]
        · refine Or.inr (Or.inr ⟨?_, ?_⟩)
          · rw [farthestEnd, if_neg h_adopts, if_neg h_scatter]
          · obtain ⟨⟨r, p₁⟩, h_handle, rfl⟩ := bind_return_eq_ok.1 h_step
            cases SyncSlot.handle_heard h_handle with
            | joined h_a => exact absurd h_a h_adopts
            | scattered h_t h_mine h_slave =>
                exact absurd (decide_eq_true ⟨h_t, h_mine, h_slave⟩) h_scatter
            | _ => rfl
  | hearInFishSlot msg =>
      by_cases h_adopts : p.adoptsInFishSlot msg = true
      · have h_adjust := ProtocolEvent.Adopts.adjusts (Or.inr ⟨rfl, h_adopts⟩) h_step
        exact Or.inl ⟨msg, if_pos h_adopts, h_adjust⟩
      · refine Or.inr (Or.inr ⟨if_neg h_adopts, ?_⟩)
        obtain ⟨⟨r, p₁⟩, h_handle, rfl⟩ := bind_return_eq_ok.1 h_step
        cases FishSlot.handle_heard h_handle with
        | mergesMy _ _ h_a => exact absurd h_a h_adopts
        | caughtDeep _ h_a => exact absurd h_a h_adopts
        | _ => rfl
  | dispatchSyncSlotKind =>
      have h_adjusts := dispatchSyncSlotKind_adjusts h_step
      by_cases h_scatter : p.enactsScatter c e = true
      · rw [if_pos h_scatter] at h_adjusts
        exact Or.inr (Or.inl ⟨if_pos h_scatter, h_adjusts⟩)
      · rw [if_neg h_scatter] at h_adjusts
        exact Or.inr (Or.inr ⟨if_neg h_scatter, h_adjusts⟩)
  | checkFishingDone =>
      refine Or.inr (Or.inr ⟨rfl, ?_⟩)
      cases checkFishingDone_checked h_step <;> rfl
  | _ =>
      refine Or.inr (Or.inr ⟨rfl, ?_⟩)
      cases stepProtocol_done h_step <;> rfl

/-- A step keeps the end exactly if its adjustment reaches it. -/
theorem keepsEnd_iff (h_step : stepProtocol c p e ev = .ok p') :
    KeepsEnd ⟨p, (e, ev), p'⟩ ↔ ReachesEnd c ⟨p, (e, ev), p'⟩ := by
  unfold KeepsEnd ReachesEnd
  dsimp only
  by_cases h_roll : ev = .rollPeriodForward
  · rw [h_roll]
    exact iff_of_true (fun h_ne => absurd rfl h_ne) nofun
  by_cases h_listen : ev = .endListen
  · rw [h_listen]
    exact iff_of_true (fun _ h_ne => absurd rfl h_ne) nofun
  simp only [ne_eq, h_roll, h_listen, not_false_eq_true, true_implies]
  rcases stepProtocol_adjusts h_step h_roll h_listen with
    ⟨msg, h_far, h_adjust⟩ | ⟨h_far, h_adjust⟩ | ⟨h_far, h_same⟩
  · rw [h_far, Schedule.adjustBySyncMsg_extends h_adjust]
    simp [endFromMsg]
  · rw [h_far, Schedule.adjustWithRandomAddedTime_extends h_adjust]
    simp [endFromScatter]
  · rw [h_far, h_same]
    simp

end Adjustments

-- ============================================================================
-- Runs
-- ============================================================================

/-- In every state of every run, an adjustment by a message or a scatter that is
    accepted keeps the end in force exactly if it reaches it; so a run moves no end
    back exactly if all its adjustments reach the ends in force. -/
theorem extends_period_iff {c : Config} {w : Protocol × List ProtocolMove}
    (h : (protocolSystem c).recorded.Reachable w) :
    (∀ msg toa, w.1.schedule.startTimeOfSyncPeriod ≤ toa →
      ((∀ s', w.1.schedule.adjustBySyncMsg msg toa = .ok s' →
          w.1.schedule.endTimeOfSyncPeriod ≤ s'.endTimeOfSyncPeriod) ↔
        w.1.schedule.endTimeOfSyncPeriod ≤
          Schedule.adjustedEventTimeFromMsg msg toa + normalSyncPeriodDuration)) ∧
    (∀ randomOffset,
      ((∀ s', w.1.schedule.adjustWithRandomAddedTime randomOffset = .ok s' →
          w.1.schedule.endTimeOfSyncPeriod ≤ s'.endTimeOfSyncPeriod) ↔
        w.1.schedule.endTimeOfSyncPeriod ≤
          w.1.schedule.startTimeOfSyncPeriod + normalSyncPeriodDuration + randomOffset.get)) ∧
    ((∀ t ∈ w.2, KeepsEnd t) ↔ ∀ t ∈ w.2, ReachesEnd c t) := by
  have h_bounds : w.1.schedule.InBounds := protocolSystem_inBounds h.unwatched
  refine ⟨?_, ?_, ?_⟩
  · intro msg toa h_toa
    refine ⟨fun h_keeps => ?_, fun h_reach s' h_adjust => ?_⟩
    · by_contra h_far
      obtain ⟨s', h_adjust⟩ :=
        h_bounds.adjustBySyncMsg_shortens h_toa (Nat.lt_of_not_le h_far)
      exact h_far ((Schedule.adjustBySyncMsg_extends h_adjust).1 (h_keeps s' h_adjust))
    · exact (Schedule.adjustBySyncMsg_extends h_adjust).2 h_reach
  · intro randomOffset
    refine ⟨fun h_keeps => ?_, fun h_reach s' h_adjust => ?_⟩
    · obtain ⟨s', h_adjust⟩ := Schedule.adjustWithRandomAddedTime_ok h_bounds randomOffset
      exact (Schedule.adjustWithRandomAddedTime_extends h_adjust).1 (h_keeps s' h_adjust)
    · exact (Schedule.adjustWithRandomAddedTime_extends h_adjust).2 h_reach
  · exact h.recorded_congr fun t _ _ h_step => keepsEnd_iff h_step

-- ============================================================================
-- A period extended twice
-- ============================================================================

/-- Of a still better clique, whose sync point extends the extended period. -/
def laterInExtended : Env × ProtocolEvent :=
  (arriving 40, .hearInFishSlot (masterSyncFrom 2 (.ofTicks 79955)))

/-- Unit five hears three in the sync slot, which extends its period to 159990, and
    two, which extends it to 159995. -/
theorem extends_period_iff_laterInExtended :
    ∃ w, (protocolSystem unitFive).recorded.Reachable w ∧ w.1.masterID = 2 ∧
      ∀ t ∈ w.2, KeepsEnd t := by
  obtain ⟨w, h, h_master, h_reaches⟩ :=
    System.Reachable.exists_of_play (M := (protocolSystem unitFive).recorded)
      (P := fun w => w.1.masterID = 2 ∧ ∀ t ∈ w.2, ReachesEnd unitFive t)
      (extendedByTen ++ [laterInExtended])
      (show (protocolSystem unitFive).recorded.init (bootedFive, []) from ⟨⟨0, 0, rfl⟩, rfl⟩)
      (by decide +kernel)
  exact ⟨w, h, h_master, (extends_period_iff h).2.2.2 h_reaches⟩

/-- Unit five hears three in the sync slot from 80000, behind its own sync point by
    ten ticks, and is in its fish slot. -/
def fishesInExtended : List (Env × AgentEvent) :=
  [onTime .startSyncPeriodMaintain 0,
    onTime .theRadioPreludeTaskWSync 79950,
    onTime .startSyncSlotAfterPrelude 80000,
    arrives 80030 (masterSyncFrom 3 (.ofTicks 79960)),
    onTime .endSyncSlotListen 80050,
    onTime .fishSlotStart 80100]

/-- The sync point is ten ticks after the message. -/
def soonFromTwo : SyncMessage := masterSyncFrom 2 (.ofTicks 10)

/-- The period is extended to 239990.  Two's sync point at 80130 moves its end to
    160130, and a scatter without an offset would move it to 160000. -/
theorem shortens_extended_period :
    ∃ a a', (agentSystem unitFive).Reachable a ∧
      a.protocol.schedule.endTimeOfSyncPeriod = 239990 ∧
      stepAgent unitFive a (arriving 80120) (.packet (some (bufferOf soonFromTwo))) = .ok a' ∧
      a.protocol.schedule.adjustBySyncMsg soonFromTwo 80120 = .ok a'.protocol.schedule ∧
      a'.protocol.schedule.endTimeOfSyncPeriod = 160130 ∧
      a.protocol.schedule.adjustWithRandomAddedTime ⟨0, by decide⟩ =
        .ok { a.protocol.schedule with endTimeOfSyncPeriod := 160000 } := by
  obtain ⟨a, a', h, -, h_step, h_end, h_message, h_end', h_scatter⟩ :=
    System.Reachable.exists_step_of_play (M := agentSystem unitFive)
      (P := fun a a' => a.protocol.schedule.endTimeOfSyncPeriod = 239990 ∧
        a.protocol.schedule.adjustBySyncMsg soonFromTwo 80120 = .ok a'.protocol.schedule ∧
        a'.protocol.schedule.endTimeOfSyncPeriod = 160130 ∧
        a.protocol.schedule.adjustWithRandomAddedTime ⟨0, by decide⟩ =
          .ok { a.protocol.schedule with endTimeOfSyncPeriod := 160000 })
      fishesInExtended (arrives 80120 soonFromTwo) ⟨0, 0, Nat.le_refl 0, rfl⟩
      (by decide +kernel)
  exact ⟨a, a', h, h_end, h_step, h_message, h_end', h_scatter⟩

end SleepSync
