/-
  SleepSync.ScheduleBounds

  When the assertions of the schedule hold.

  An adjustment takes the event time of a message for a time in the next
  period if it lies before the current end.  The current end may be an adjusted
  one already: then an event time in the extended part of the period, which the
  sender means as it is, is moved a full period too far, and the unit stops.
  `AcceptsEventTime` is the exact condition; in a run in which every adopted
  message meets it, no assertion of the schedule fires.
-/

import SleepSync.ProtocolSystem

namespace SleepSync

open Lib ScheduleParameters Protocol

/-- The unit, restricted to events that adjust only to accepted times. -/
def acceptingSystem (c : Config) : System Protocol (Env × ProtocolEvent) Fault :=
  (protocolSystem c).guarded fun p l => ScheduleAccepts c p l.1 l.2

instance (c : Config) (p : Protocol) (e : Env) :
    (ev : ProtocolEvent) → Decidable (ScheduleAccepts c p e ev)
  | .hearInSyncSlot _ | .hearInFishSlot _ | .endListen =>
      inferInstanceAs (Decidable (_ → _))
  | .rollPeriodForward | .dispatchSyncSlotKind | .preFishing | .setStartAndEndTimes
  | .checkFishingDone | .mergeSyncSent | .bookkeepingAtPreludeToSyncSlot
  | .provisionSucceed _ => .isTrue trivial

instance (c : Config) (p : Protocol) (l : Env × ProtocolEvent) :
    Decidable ((acceptingSystem c).enabled p l) :=
  inferInstanceAs (Decidable (_ ∧ _))

/-- In every run whose messages (and reversions to a former clique) are accepted,
    the end stays between the unadjusted end and two periods after the start,
    and no event stops at an assertion of the schedule. -/
theorem acceptingSystem_no_adjust_fault {c : Config} {p : Protocol}
    (h : (acceptingSystem c).Reachable p) :
    p.schedule.InBounds ∧
      ∀ e ev flt, ev.Timely p e → ScheduleAccepts c p e ev →
        stepProtocol c p e ev = .error flt → flt.isAdjust = false := by
  have h_bounds := protocolSystem_inBounds h.of_guarded
  refine ⟨h_bounds, fun e ev flt h_timely h_acc h_err => ?_⟩
  refine eq_false_of_ne_true fun h_adj => ?_
  exact stepProtocol_eq_error h_bounds h_timely h_err h_adj h_acc

/-- The condition is exact: a message that is adopted in the sync slot goes
    through if and only if the schedule accepts its event time. -/
theorem hearInSyncSlot_ok_iff {c : Config} {p : Protocol} {e : Env} {msg : SyncMessage}
    (h : (protocolSystem c).Reachable p)
    (h_timely : (ProtocolEvent.hearInSyncSlot msg).Timely p e)
    (h_adopts : p.adoptsInSyncSlot msg = true) :
    (∃ p', stepProtocol c p e (.hearInSyncSlot msg) = .ok p') ↔
      p.schedule.AcceptsEventTime (Schedule.adjustedEventTimeFromMsg msg e.timeOfArrival) := by
  have h_bounds := protocolSystem_inBounds h
  have h_toa := (h_timely.2 (Option.some_ne_none msg)).1
  obtain ⟨h_type, -⟩ := adoptsInSyncSlot_iff.1 h_adopts
  rw [← Schedule.adjustBySyncMsg_ok_iff h_bounds h_toa]
  refine ⟨fun ⟨p', h_step⟩ => ?_, fun ⟨s, h_s⟩ => ?_⟩
  · have h_ev : (ProtocolEvent.hearInSyncSlot msg).Adopts p msg := Or.inl ⟨rfl, h_adopts⟩
    exact ⟨_, h_ev.adjusts h_step⟩
  · rcases h_step : stepProtocol c p e (.hearInSyncSlot msg) with flt | p'
    · rcases SyncSlot.handle_eq_error (bind_return_eq_error.1 h_step) with
        ⟨-, h_err⟩ | ⟨h_t, -⟩
      · rw [h_s] at h_err
        cases h_err
      · simp only [h_t, reduceCtorEq, or_self] at h_type
    · exact ⟨p', rfl⟩

-- ============================================================================
-- A period extended twice
-- ============================================================================

/-- A unit with ID 5, on the older platform. -/
def unitFive : Config where
  id := 5
  platform := .nrf51
  softdevicePresent := false
  tm := TimeMath.reference
  elapsedToAdvanceConverterFunc := id

/-- `ticks` as an offset, which is a sync period at most. -/
def DeltaSync.ofTicks (ticks : Nat) : DeltaSync :=
  ⟨min ticks normalSyncPeriodDuration, Nat.min_le_right _ _⟩

/-- A sync message of the clique of `masterID`. -/
def masterSyncFrom (masterID : Nat) (offset : DeltaSync) : SyncMessage where
  type := .masterSync
  deltaToNextSyncPoint := offset
  masterID := masterID
  work := 0

def unitThree : Config := { unitFive with id := 3 }

/-- What a unit with ID 3 sends at its first sync point. -/
def firstMasterSync : SyncMessage :=
  { masterSyncFrom 3 (.ofTicks 79990) with work := Granularity.getRaw .large }

def arriving (toa : Nat) : Env := { Env.quiet toa with timeOfArrival := toa }

/-- Two steps up to fishing. -/
def becomesFisher : List (Env × ProtocolEvent) :=
  [(Env.quiet 0, .bookkeepingAtPreludeToSyncSlot),
    (Env.quiet 0, .bookkeepingAtPreludeToSyncSlot)]

/-- A sync message of a better clique in the sync slot, which is behind by ten
    ticks and extends the period. -/
def extendedByTen : List (Env × ProtocolEvent) :=
  becomesFisher ++
    [(arriving 30, .hearInSyncSlot (masterSyncFrom 3 (.ofTicks 79960)))]

/-- Of a still better clique, fished half a period later. -/
def fishedInExtended : Env × ProtocolEvent :=
  (arriving 40000, .hearInFishSlot (masterSyncFrom 2 (.ofTicks 79975)))

def unknownProvision : ProvisionedValue where
  index := 5
  value := 0
  offset := 0

/-- The extended period itself is accepted, and later faults are not of the
    schedule: a provisioner that provides an unknown property stops the unit. -/
theorem acceptingSystem_no_adjust_fault_extendedByTen :
    ∃ p, (acceptingSystem unitFive).Reachable p ∧
      p.schedule.endTimeOfSyncPeriod = 159990 ∧ p.schedule.InBounds ∧
      ∃ flt, stepProtocol unitFive p (Env.quiet 50) (.provisionSucceed unknownProvision) =
        .error flt ∧ flt.isAdjust = false := by
  obtain ⟨p, h, h_end, h_timely, h_err⟩ :=
    System.Reachable.exists_of_play (M := acceptingSystem unitFive)
      (P := fun p => p.schedule.endTimeOfSyncPeriod = 159990 ∧
        (ProtocolEvent.provisionSucceed unknownProvision).Timely p (Env.quiet 50) ∧
        stepProtocol unitFive p (Env.quiet 50) (.provisionSucceed unknownProvision) =
          .error .unknownProperty)
      extendedByTen ⟨0, 0, rfl⟩ (by decide +kernel)
  obtain ⟨h_bounds, h_faults⟩ := acceptingSystem_no_adjust_fault h
  exact ⟨p, h, h_end, h_bounds, _, h_err, h_faults _ _ _ h_timely trivial h_err⟩

/-- The fished message stops the unit: its event time is in the extended part of
    the period. -/
theorem extended_period_stops :
    ∃ p, (protocolSystem unitFive).Reachable p ∧
      fishedInExtended.2.Timely p fishedInExtended.1 ∧
      stepProtocol unitFive p fishedInExtended.1 fishedInExtended.2 =
        .error .endTimeFromMsgTooFar := by
  refine System.Reachable.exists_of_play extendedByTen ⟨0, 0, rfl⟩ ?_
  decide +kernel

end SleepSync
