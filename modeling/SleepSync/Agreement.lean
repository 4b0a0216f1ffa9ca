/-
  SleepSync.Agreement

  Two units, one of which hears a sync message of the other.

  The units' clocks have the same rate and a constant offset, so a sync point
  of the sender has a reading on the receiver's clock.  The sender takes its
  latency off the offset it sends, the receiver adds the offset to the time of
  arrival, and the latency is exactly what lies between: the event time is the
  sender's next sync point.  The receiver may add a period, and both roll by
  whole periods, so from then on their sync points differ by whole periods only.
-/

import Mathlib.Data.Int.ModEq
import Mathlib.Tactic.Ring
import SleepSync.ScheduleBounds

namespace SleepSync

open Lib ScheduleParameters PhysicalParameters

namespace Schedule

/-- A schedule that moves by whole periods keeps the phase of its sync points. -/
theorem iterate_rollPeriodForward_end (s : Schedule) (n : ℕ) :
    (rollPeriodForward^[n] s).endTimeOfSyncPeriod =
      s.endTimeOfSyncPeriod + n * normalSyncPeriodDuration := by
  induction n with
  | zero => rw [Nat.zero_mul, Nat.add_zero, Function.iterate_zero, id]
  | succ n ih =>
      rw [Function.iterate_succ_apply', rollPeriodForward, ih, Nat.succ_mul, Nat.add_assoc]

theorem iterate_rollPeriodForward_modEq (s : Schedule) (n : ℕ) :
    ((rollPeriodForward^[n] s).timeOfNextSyncPoint : ℤ) ≡ s.timeOfNextSyncPoint
      [ZMOD normalSyncPeriodDuration] := by
  unfold timeOfNextSyncPoint
  rw [iterate_rollPeriodForward_end, Nat.cast_add, Nat.cast_mul]
  exact Int.modEq_iff_dvd.2 ⟨-n, by ring⟩

/-- An adjustment by a message puts the next sync point in phase with the event
    time, whichever of the two it chooses. -/
theorem adjustBySyncMsg_modEq {s s' : Schedule} {msg : SyncMessage} {toa : Nat}
    (h : s.adjustBySyncMsg msg toa = .ok s') :
    (s'.timeOfNextSyncPoint : ℤ) ≡ adjustedEventTimeFromMsg msg toa
      [ZMOD normalSyncPeriodDuration] := by
  obtain ⟨-, -, h_end⟩ := adjust_frame (adjustBySyncMsg_eq_ok.1 h)
  rw [timeOfNextSyncPoint, h_end]
  unfold adjustedEndTime
  split
  · rw [Nat.cast_add]
    exact Int.add_modEq_right
  · exact Int.ModEq.refl _

end Schedule

namespace Protocol

theorem iterate_preludeToSyncPeriod_schedule (p : Protocol) (n : ℕ) :
    (preludeToSyncPeriod^[n] p).schedule = Schedule.rollPeriodForward^[n] p.schedule := by
  induction n with
  | zero => rfl
  | succ n ih =>
      rw [Function.iterate_succ_apply', Function.iterate_succ_apply', ← ih]
      rfl

/-- In the period it is in, a unit sends what is left to its next sync point,
    less its latency. -/
theorem syncOffset_eq {c : Config} {e : Env} {p : Protocol} (h : p.schedule.InBounds)
    (h_now : p.schedule.startTimeOfSyncPeriod ≤ e.now) :
    p.syncOffset c e =
      p.schedule.timeOfNextSyncPoint - e.now - sendLatency c.platform := by
  have h_end := h.end_le
  have h_fit : p.schedule.timeOfNextSyncPoint - e.now < 2 ^ 32 := by
    rw [normalSyncPeriodDuration_eq] at h_end
    rw [Schedule.timeOfNextSyncPoint]
    omega
  rw [syncOffset, c.tm.clampedSubtraction_eq, Schedule.deltaNowToNextSyncPoint,
    c.tm.fromNow_eq h_fit]

end Protocol

-- ============================================================================
-- Sender and receiver
-- ============================================================================

section Agreement

variable {cS cR : Config} {eS eR : Env} {s r r' : Protocol} {ev : ProtocolEvent}
  {msg : SyncMessage} {δ : ℤ}

/-- What the receiver computes from the message is the sender's next sync point
    on the receiver's clock. -/
theorem adjustedEventTimeFromMsg_eq (h_s : (protocolSystem cS).Reachable s)
    (h_msg : s.sendMasterSync cS eS = .ok msg ∨ ∃ work, s.sendWorkSync cS eS work = .ok msg)
    (h_slot : s.schedule.startTimeOfSyncPeriod ≤ eS.now)
    (h_left : eS.now + sendLatency cS.platform ≤ s.schedule.timeOfNextSyncPoint)
    (h_toa : (eR.timeOfArrival : ℤ) = eS.now + sendLatency cS.platform + δ) :
    (Schedule.adjustedEventTimeFromMsg msg eR.timeOfArrival : ℤ) =
      s.schedule.timeOfNextSyncPoint + δ := by
  have h_get : msg.deltaToNextSyncPoint.get = s.syncOffset cS eS := by
    rcases h_msg with h_master | ⟨work, h_work⟩
    · exact (Protocol.initSyncMessage_eq_ok h_master).2.2.2
    · exact (Protocol.initSyncMessage_eq_ok h_work).2.2.2
  rw [Protocol.syncOffset_eq (protocolSystem_inBounds h_s) h_slot] at h_get
  rw [Schedule.adjustedEventTimeFromMsg, h_get]
  omega

/-- Agreement.  A receiver that adopts a sender's message has its next sync point
    in phase with the sender's, and it stays so over any number of periods on
    either side. -/
theorem adopted_sync_points_agree (h_s : (protocolSystem cS).Reachable s)
    (h_msg : s.sendMasterSync cS eS = .ok msg ∨ ∃ work, s.sendWorkSync cS eS work = .ok msg)
    (h_slot : s.schedule.startTimeOfSyncPeriod ≤ eS.now)
    (h_left : eS.now + sendLatency cS.platform ≤ s.schedule.timeOfNextSyncPoint)
    (h_toa : (eR.timeOfArrival : ℤ) = eS.now + sendLatency cS.platform + δ)
    (h_adopts : ev.Adopts r msg) (h_step : stepProtocol cR r eR ev = .ok r') :
    (r'.schedule.timeOfNextSyncPoint : ℤ) ≡ s.schedule.timeOfNextSyncPoint + δ
        [ZMOD normalSyncPeriodDuration] ∧
      ∀ m n : ℕ,
        ((Protocol.preludeToSyncPeriod^[m] r').schedule.timeOfNextSyncPoint : ℤ) ≡
          (Protocol.preludeToSyncPeriod^[n] s).schedule.timeOfNextSyncPoint + δ
          [ZMOD normalSyncPeriodDuration] := by
  have h_first : (r'.schedule.timeOfNextSyncPoint : ℤ) ≡
      s.schedule.timeOfNextSyncPoint + δ [ZMOD normalSyncPeriodDuration] := by
    have h_adjust := Schedule.adjustBySyncMsg_modEq (h_adopts.adjusts h_step)
    rwa [adjustedEventTimeFromMsg_eq h_s h_msg h_slot h_left h_toa] at h_adjust
  refine ⟨h_first, fun m n => ?_⟩
  rw [Protocol.iterate_preludeToSyncPeriod_schedule,
    Protocol.iterate_preludeToSyncPeriod_schedule]
  calc ((Schedule.rollPeriodForward^[m] r'.schedule).timeOfNextSyncPoint : ℤ)
      ≡ r'.schedule.timeOfNextSyncPoint [ZMOD normalSyncPeriodDuration] :=
        Schedule.iterate_rollPeriodForward_modEq _ m
    _ ≡ s.schedule.timeOfNextSyncPoint + δ [ZMOD normalSyncPeriodDuration] := h_first
    _ ≡ (Schedule.rollPeriodForward^[n] s.schedule).timeOfNextSyncPoint + δ
        [ZMOD normalSyncPeriodDuration] :=
        ((Schedule.iterate_rollPeriodForward_modEq _ n).symm).add_right δ

/-- A unit that was booted a thousand ticks later on its own clock. -/
theorem adopted_sync_points_agree_threeAndFive :
    ∃ r', stepProtocol unitFive (Protocol.boot unitFive 1000 1000).preludeToSyncPeriod
        (arriving 1010) (.hearInSyncSlot firstMasterSync) = .ok r' ∧
      ∀ m n : ℕ,
        ((Protocol.preludeToSyncPeriod^[m] r').schedule.timeOfNextSyncPoint : ℤ) ≡
          (Protocol.preludeToSyncPeriod^[n]
            (Protocol.boot unitThree 0 0).preludeToSyncPeriod).schedule.timeOfNextSyncPoint +
              1000 [ZMOD normalSyncPeriodDuration] := by
  have h_s : (protocolSystem unitThree).Reachable
      (Protocol.boot unitThree 0 0).preludeToSyncPeriod := System.Reachable.start ⟨0, 0, rfl⟩
  have h_msg : (Protocol.boot unitThree 0 0).preludeToSyncPeriod.sendMasterSync unitThree
      (Env.quiet 0) = .ok firstMasterSync := rfl
  have h_toa : ((arriving 1010).timeOfArrival : ℤ) =
      (Env.quiet 0).now + sendLatency unitThree.platform + 1000 := by decide
  have h_adopts : (Protocol.boot unitFive 1000 1000).preludeToSyncPeriod.adoptsInSyncSlot
      firstMasterSync = true := by decide
  have h_timely : (ProtocolEvent.hearInSyncSlot firstMasterSync).Timely
      (Protocol.boot unitFive 1000 1000).preludeToSyncPeriod (arriving 1010) := by decide
  obtain ⟨r', h_step⟩ := (hearInSyncSlot_ok_iff (System.Reachable.start ⟨1000, 1000, rfl⟩)
    h_timely h_adopts).2 (by decide)
  exact ⟨r', h_step, (adopted_sync_points_agree h_s (Or.inl h_msg) (by decide) (by decide)
    h_toa (Or.inl ⟨rfl, h_adopts⟩) h_step).2⟩

end Agreement

end SleepSync
