/-
  SleepSync.Schedule

  The schedule of a clique as one unit keeps it: the period it is in, which
  starts at a sync point and ends at the next, and the rules by which the end
  moves.  Only the end is ever adjusted; the start is history.

  `adjust` stops at an assertion when the new end is before the unadjusted one
  or more than two periods after the start, so a schedule that has been rolled
  once satisfies `InBounds` for as long as the unit runs.  Whether an adjustment
  stops is decided by `AcceptsEventTime`.
-/

import SleepSync.Environment

namespace SleepSync

open Lib ScheduleParameters

structure Schedule where
  startTimeOfSyncPeriod : Nat
  unadjustedEndTimeOfSyncPeriod : Nat
  endTimeOfSyncPeriod : Nat
  deriving DecidableEq

namespace Schedule

variable (s : Schedule)

def rollPeriodForward : Schedule where
  startTimeOfSyncPeriod := s.endTimeOfSyncPeriod
  endTimeOfSyncPeriod := s.endTimeOfSyncPeriod + normalSyncPeriodDuration
  unadjustedEndTimeOfSyncPeriod := s.endTimeOfSyncPeriod + normalSyncPeriodDuration

/-- The first roll is from the end times as the loader cleared them. -/
def init (now : Nat) : Schedule :=
  rollPeriodForward
    { startTimeOfSyncPeriod := now
      unadjustedEndTimeOfSyncPeriod := 0
      endTimeOfSyncPeriod := 0 }

def setEndTimeOfSyncPeriodToNow (now : Nat) : Schedule :=
  { s with endTimeOfSyncPeriod := now }

-- The source assigns before it asserts; nothing runs after a failed assertion.
def adjust (newEndTime : Nat) : Except Fault Schedule := do
  require (s.unadjustedEndTimeOfSyncPeriod ≤ newEndTime) .endTimeBackward
  require (LongTime.sub newEndTime s.startTimeOfSyncPeriod ≤ 2 * normalSyncPeriodDuration)
    .endTimeTooFar
  return { s with endTimeOfSyncPeriod := newEndTime }

def adjustedEventTimeFromMsg (msg : SyncMessage) (toa : Nat) : Nat :=
  toa + msg.deltaToNextSyncPoint.get

def adjustedSyncPeriodEndTimeFromMsg (msg : SyncMessage) (toa : Nat) : Except Fault Nat := do
  let rawTime := adjustedEventTimeFromMsg msg toa
  -- not sooner than the end already is, which may be an adjusted one
  let result :=
    if rawTime < s.endTimeOfSyncPeriod then rawTime + normalSyncPeriodDuration else rawTime
  require (LongTime.sub result s.startTimeOfSyncPeriod ≤ 2 * normalSyncPeriodDuration)
    .endTimeFromMsgTooFar
  return result

def adjustBySyncMsg (msg : SyncMessage) (toa : Nat) : Except Fault Schedule := do
  let newEndTime ← s.adjustedSyncPeriodEndTimeFromMsg msg toa
  s.adjust newEndTime

def adjustWithRandomAddedTime (randomOffset : DeltaSync) : Except Fault Schedule :=
  s.adjust (s.startTimeOfSyncPeriod + normalSyncPeriodDuration + randomOffset.get)

def adjustedEndTimeFromCliqueHistoryOffset (now offset : Nat) : Nat :=
  now + offset

def adjustByCliqueHistoryOffset (now offset : Nat) : Except Fault Schedule :=
  s.adjust (adjustedEndTimeFromCliqueHistoryOffset now offset)

def timeOfNextSyncPoint : Nat := s.endTimeOfSyncPeriod

def timeOfUnadjustedNextSyncPoint : Nat := s.unadjustedEndTimeOfSyncPeriod

def deltaNowToNextSyncPoint (tm : TimeMath) (now : Nat) : Nat :=
  tm.clampedTimeDifferenceFromNow now s.timeOfNextSyncPoint

def deltaNowToNextUnadjustedSyncPoint (tm : TimeMath) (now : Nat) : Nat :=
  tm.clampedTimeDifferenceFromNow now s.timeOfUnadjustedNextSyncPoint

def deltaPastSyncPointToNow (tm : TimeMath) (now : Nat) : Nat :=
  tm.clampedTimeDifferenceToNow now s.startTimeOfSyncPeriod

def latestTimeToEndSlots : Nat := s.timeOfNextSyncPoint

def clampTimeBeforeLatestSlotMark (proposedTime : Nat) : Nat :=
  if s.latestTimeToEndSlots < proposedTime then s.latestTimeToEndSlots else proposedTime

-- `SyncSlotSchedule`: the sync slot is the first virtual slot of the period.

def timeOfThisSyncSlotMiddleSubslot (p : Platform) : Nat :=
  s.startTimeOfSyncPeriod + deltaSyncSlotStartToSyncSlotXmit p

def timeOfThisSyncSlotEnd : Nat :=
  s.startTimeOfSyncPeriod + virtualSlotDuration

-- ============================================================================
-- One lemma for each way to move the end
-- ============================================================================

variable {s} {s' : Schedule}

theorem adjust_eq_ok {newEndTime : Nat} :
    s.adjust newEndTime = .ok s' ↔
      s.unadjustedEndTimeOfSyncPeriod ≤ newEndTime ∧
        LongTime.sub newEndTime s.startTimeOfSyncPeriod ≤ 2 * normalSyncPeriodDuration ∧
        s' = { s with endTimeOfSyncPeriod := newEndTime } := by
  unfold adjust
  simp only [require_bind_eq_ok, pure, Except.pure, Except.ok.injEq]
  exact and_congr_right fun _ => and_congr_right fun _ => ⟨Eq.symm, Eq.symm⟩

theorem adjust_eq_error {newEndTime : Nat} {f : Fault} (h : s.adjust newEndTime = .error f) :
    (f = .endTimeBackward ∧ newEndTime < s.unadjustedEndTimeOfSyncPeriod) ∨
      (f = .endTimeTooFar ∧
        2 * normalSyncPeriodDuration < LongTime.sub newEndTime s.startTimeOfSyncPeriod) := by
  unfold adjust at h
  rcases require_bind_eq_error.1 h with ⟨h_back, h_f⟩ | ⟨-, h_rest⟩
  · exact Or.inl ⟨h_f, Nat.lt_of_not_le h_back⟩
  · rcases require_bind_eq_error.1 h_rest with ⟨h_far, h_f⟩ | ⟨-, h_pure⟩
    · exact Or.inr ⟨h_f, Nat.lt_of_not_le h_far⟩
    · cases h_pure

/-- The end time a heard event time leads to. -/
def adjustedEndTime (s : Schedule) (rawTime : Nat) : Nat :=
  if rawTime < s.endTimeOfSyncPeriod then rawTime + normalSyncPeriodDuration else rawTime

theorem adjustBySyncMsg_eq_ok {msg : SyncMessage} {toa : Nat} :
    s.adjustBySyncMsg msg toa = .ok s' ↔
      s.adjust (s.adjustedEndTime (adjustedEventTimeFromMsg msg toa)) = .ok s' := by
  unfold adjustBySyncMsg adjustedSyncPeriodEndTimeFromMsg
  simp only [bind_eq_ok, require_eq_ok, pure, Except.pure, Except.ok.injEq]
  refine ⟨?_, fun h => ?_⟩
  · rintro ⟨_, ⟨-, -, rfl⟩, h⟩
    exact h
  · exact ⟨_, ⟨⟨⟩, (adjust_eq_ok.1 h).2.1, rfl⟩, h⟩

/-- An adjustment leaves the start and the unadjusted end alone. -/
theorem adjust_frame {newEndTime : Nat} (h : s.adjust newEndTime = .ok s') :
    s'.startTimeOfSyncPeriod = s.startTimeOfSyncPeriod ∧
      s'.unadjustedEndTimeOfSyncPeriod = s.unadjustedEndTimeOfSyncPeriod ∧
      s'.endTimeOfSyncPeriod = newEndTime := by
  obtain ⟨-, -, rfl⟩ := adjust_eq_ok.1 h
  exact ⟨rfl, rfl, rfl⟩

-- ============================================================================
-- Bounds
-- ============================================================================

/-- The shape of a schedule in a period that a roll has begun. -/
structure InBounds (s : Schedule) : Prop where
  unadjusted_eq : s.unadjustedEndTimeOfSyncPeriod =
    s.startTimeOfSyncPeriod + normalSyncPeriodDuration
  unadjusted_le_end : s.unadjustedEndTimeOfSyncPeriod ≤ s.endTimeOfSyncPeriod
  end_le : s.endTimeOfSyncPeriod ≤ s.startTimeOfSyncPeriod + 2 * normalSyncPeriodDuration

theorem rollPeriodForward_inBounds (s : Schedule) : s.rollPeriodForward.InBounds where
  unadjusted_eq := rfl
  unadjusted_le_end := Nat.le_refl _
  end_le := by
    simp only [rollPeriodForward]
    omega

theorem InBounds.adjust (h : s.InBounds) {newEndTime : Nat}
    (h_adj : s.adjust newEndTime = .ok s') : s'.InBounds := by
  obtain ⟨h_back, h_far, rfl⟩ := adjust_eq_ok.1 h_adj
  have h_start : s.startTimeOfSyncPeriod ≤ newEndTime := by
    have h_un := h.unadjusted_eq
    omega
  rw [LongTime.sub_of_le h_start] at h_far
  exact ⟨h.unadjusted_eq, h_back, by dsimp only; omega⟩

theorem InBounds.adjustBySyncMsg (h : s.InBounds) {msg : SyncMessage} {toa : Nat}
    (h_adj : s.adjustBySyncMsg msg toa = .ok s') : s'.InBounds :=
  h.adjust (adjustBySyncMsg_eq_ok.1 h_adj)

/-- The event times that can be adjusted to: those in the unadjusted period,
    and those from the current end to two periods after the start. -/
def AcceptsEventTime (s : Schedule) (rawTime : Nat) : Prop :=
  rawTime ≤ s.startTimeOfSyncPeriod + normalSyncPeriodDuration ∨
    (s.endTimeOfSyncPeriod ≤ rawTime ∧
      rawTime ≤ s.startTimeOfSyncPeriod + 2 * normalSyncPeriodDuration)

instance (s : Schedule) (rawTime : Nat) : Decidable (s.AcceptsEventTime rawTime) :=
  inferInstanceAs (Decidable (_ ∨ _))

/-- For a message that arrived in the current period, no assertion of the
    adjustment fires if and only if its event time is accepted. -/
theorem adjustBySyncMsg_ok_iff (h : s.InBounds) {msg : SyncMessage} {toa : Nat}
    (h_toa : s.startTimeOfSyncPeriod ≤ toa) :
    (∃ s', s.adjustBySyncMsg msg toa = .ok s') ↔
      s.AcceptsEventTime (adjustedEventTimeFromMsg msg toa) := by
  obtain ⟨h_un, h_lo, h_hi⟩ := h
  have h_raw : s.startTimeOfSyncPeriod ≤ adjustedEventTimeFromMsg msg toa :=
    Nat.le_trans h_toa (Nat.le_add_right _ _)
  have h_end : s.startTimeOfSyncPeriod ≤
      s.adjustedEndTime (adjustedEventTimeFromMsg msg toa) := by
    unfold adjustedEndTime
    split <;> omega
  simp only [adjustBySyncMsg_eq_ok, adjust_eq_ok, exists_and_left, exists_eq, and_true]
  rw [LongTime.sub_of_le h_end, h_un]
  unfold AcceptsEventTime adjustedEndTime
  split <;> omega

/-- A random extension of the unadjusted period is always accepted. -/
theorem adjustWithRandomAddedTime_ok (h : s.InBounds) (randomOffset : DeltaSync) :
    ∃ s', s.adjustWithRandomAddedTime randomOffset = .ok s' := by
  obtain ⟨h_un, -, -⟩ := h
  have h_off := randomOffset.isValidValue
  refine ⟨_, adjust_eq_ok.2 ⟨by omega, ?_, rfl⟩⟩
  rw [LongTime.sub_of_le (by omega)]
  omega

/-- A clamped time is in the period whenever the proposed one is not before it. -/
theorem clampTimeBeforeLatestSlotMark_eq (s : Schedule) (proposedTime : Nat) :
    s.clampTimeBeforeLatestSlotMark proposedTime = min proposedTime s.endTimeOfSyncPeriod := by
  unfold clampTimeBeforeLatestSlotMark latestTimeToEndSlots timeOfNextSyncPoint
  split <;> omega

end Schedule

end SleepSync
