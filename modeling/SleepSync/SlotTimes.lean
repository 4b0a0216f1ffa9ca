/-
  SleepSync.SlotTimes

  Where the slots of a period lie: what each event of the protocol leaves alone
  of the schedule and of the fish session, where a fish session starts and ends,
  and what the predicates that decide on the prelude say about it.

  Times are stated from the start of the period, and slots by their ordinals:
  the proofs rewrite the names of the durations away and leave the rest to
  `omega`.
-/

import SleepSync.ProtocolSystem

namespace SleepSync

open Lib ScheduleParameters FishingParameters

-- ============================================================================
-- The period
-- ============================================================================

namespace Schedule.InBounds

variable {s : Schedule}

/-- The period is as long as it is unadjusted, at least. -/
theorem end_ge (h : s.InBounds) :
    s.startTimeOfSyncPeriod + 80000 ≤ s.endTimeOfSyncPeriod := by
  have h_un := h.unadjusted_eq
  have h_le := h.unadjusted_le_end
  rw [normalSyncPeriodDuration_eq] at h_un
  omega

theorem end_le' (h : s.InBounds) :
    s.endTimeOfSyncPeriod ≤ s.startTimeOfSyncPeriod + 160000 := by
  have h_le := h.end_le
  rw [normalSyncPeriodDuration_eq] at h_le
  omega

/-- In the period, the time until the next sync point is what is left of it. -/
theorem deltaNowToNextSyncPoint_eq (h : s.InBounds) (tm : TimeMath) {now : Nat}
    (h_now : s.startTimeOfSyncPeriod ≤ now) :
    s.deltaNowToNextSyncPoint tm now = s.endTimeOfSyncPeriod - now := by
  have h_le := h.end_le'
  exact tm.fromNow_eq (by show s.endTimeOfSyncPeriod - now < 2 ^ 32; omega)

end Schedule.InBounds

/-- A timeout until `future`, from `now` on, ends at the later of the two. -/
theorem TimeMath.now_add_fromNow (tm : TimeMath) {now future : Nat}
    (h_fit : future - now < 2 ^ 32) :
    now + tm.clampedTimeDifferenceFromNow now future = max now future := by
  rw [tm.fromNow_eq h_fit]
  omega

namespace Protocol

section Frames

variable {c : Config} {e : Env} {p p' : Protocol} {ev : ProtocolEvent} {msg : SyncMessage}

theorem restartTrollingMode_session {f f' : Fishing} (h : f.restartTrollingMode = .ok f') :
    f'.session = f.session := by
  obtain ⟨t, -, rfl⟩ := Fishing.restartTrollingMode_eq_ok.1 h
  rfl

/-- Only a roll moves the start of the period. -/
theorem stepProtocol_start (h_ev : ev ≠ .rollPeriodForward)
    (h : stepProtocol c p e ev = .ok p') :
    p'.schedule.startTimeOfSyncPeriod = p.schedule.startTimeOfSyncPeriod := by
  have h_sync : ∀ {msg : SyncMessage} {s : Schedule},
      p.schedule.adjustBySyncMsg msg e.timeOfArrival = .ok s →
        s.startTimeOfSyncPeriod = p.schedule.startTimeOfSyncPeriod :=
    fun h_adj => (Schedule.adjust_frame (Schedule.adjustBySyncMsg_eq_ok.1 h_adj)).1
  cases stepProtocol_done h with
  | rolled => exact absurd rfl h_ev
  | heard h_heard =>
      cases h_heard with
      | joined _ h_adj => exact h_sync h_adj
      | scattered _ _ _ _ h_adj => exact (Schedule.adjust_frame h_adj).1
      | assumed => rfl
      | enticed => rfl
      | other => rfl
  | fished h_fished =>
      cases h_fished with
      | mergesMy _ _ _ _ h_adj => exact h_sync h_adj
      | mergesOther => rfl
      | caughtDeep _ _ h_adj => exact h_sync h_adj
      | kept => rfl
  | scattered _ _ h_adj => exact (Schedule.adjust_frame h_adj).1
  | listened h_ended =>
      cases h_ended with
      | asMaster => rfl
      | missed => rfl
      | grabbed => rfl
      | reverted _ _ _ _ h_adj => exact (Schedule.adjust_frame h_adj).1
  | checked h_checked => cases h_checked <;> rfl
  | _ => rfl

theorem endListen_start (h : p.endListen c e = .ok p') :
    p'.schedule.startTimeOfSyncPeriod = p.schedule.startTimeOfSyncPeriod := by
  have h_step : stepProtocol c p e .endListen = .ok p' := h
  exact stepProtocol_start ProtocolEvent.noConfusion h_step

theorem preFishing_schedule (h : p.preFishing = .ok p') : p'.schedule = p.schedule := by
  obtain ⟨f, -, rfl⟩ := bind_return_eq_ok.1 h
  rfl

theorem stepProtocol_inBounds (h : stepProtocol c p e ev = .ok p')
    (h_p : p.schedule.InBounds) : p'.schedule.InBounds :=
  (stepProtocol_clique h).inBounds h_p

theorem bookkeepingAtPreludeToSyncSlot_schedule
    (h : p.bookkeepingAtPreludeToSyncSlot c e = .ok p') : p'.schedule = p.schedule := by
  obtain ⟨m, r, k, n, f, a, rfl⟩ := bookkeeping_frame h
  rfl

/-- A merge message that has been sent changes neither the schedule nor the time
    of the merge slot. -/
theorem mergeSyncSent_frame (h : p.mergeSyncSent = .ok p') :
    p'.schedule = p.schedule ∧ p'.fishing = p.fishing ∧
      p'.isMergerEndSyncPeriod c = p.isMergerEndSyncPeriod c := by
  rcases (mergeSyncSent_eq_ok h).2 with ⟨-, rfl⟩ | ⟨-, rfl⟩ <;> exact ⟨rfl, rfl, rfl⟩

end Frames

end Protocol

-- ============================================================================
-- The duration of fish sessions
-- ============================================================================

/-- The two durations of a session agree. -/
def Fishing.SessionAgrees (f : Fishing) : Prop :=
  f.session.durationInTicks = f.session.durationInSlots * 50 ∧ 1 ≤ f.session.durationInSlots

/-- The trolling session, if the mode is trolling, is one of the current
    duration, in the sleeping slots. -/
def Fishing.SessionFits (f : Fishing) : Prop :=
  f.mode = .trolling → 2 ≤ f.troll.currentStartSlotOrdinal ∧
    f.troll.currentEndSlotOrdinal =
      f.troll.currentStartSlotOrdinal + f.session.durationInSlots - 1 ∧
    f.troll.currentEndSlotOrdinal ≤ 1600

namespace Fishing

variable {f f' : Fishing}

theorem sessionAgrees_of_eq (h : f'.session = f.session) (h_f : f.SessionAgrees) :
    f'.SessionAgrees := by
  unfold SessionAgrees
  rw [h]
  exact h_f

theorem manage_sessionAgrees {vcc : Bool} (h : f.manage vcc = .ok f') (h_f : f.SessionAgrees) :
    f'.SessionAgrees := by
  unfold manage at h
  split at h
  · split at h
    · cases h
      exact h_f
    · obtain ⟨f₁, h_incr, rfl⟩ := bind_return_eq_ok.1 h
      unfold incrementFishSessionDuration at h_incr
      dsimp only at h_incr
      split at h_incr
      · cases h_incr
        exact h_f
      · have h_session := Protocol.restartTrollingMode_session h_incr
        refine sessionAgrees_of_eq (f := { f with session := _ }) h_session ?_
        have h_pos := h_f.2
        exact ⟨rfl, by show 1 ≤ f.session.durationInSlots + 20; omega⟩
  · cases h
    exact ⟨rfl, Nat.le_refl 1⟩

/-- The session the next slot is chosen for. -/
theorem preFishing_eq_ok (h : f.preFishing = .ok f') :
    f'.mode = f.mode ∧ f'.session = f.session ∧ f'.deep = f.deep ∧ f'.SessionFits := by
  unfold preFishing at h
  cases h_mode : f.mode with
  | trolling =>
      rw [h_mode] at h
      obtain ⟨t, h_t, rfl⟩ := bind_return_eq_ok.1 h
      refine ⟨rfl, rfl, rfl, fun _ => ?_⟩
      unfold TrollingPolicy.proceedToNextFishSlotOrdinal at h_t
      split at h_t
      · obtain ⟨⟨h_lo, h_hi⟩, rfl⟩ := TrollingPolicy.setSessionForStartSlot_eq_ok.1 h_t
        exact ⟨h_lo, rfl, h_hi⟩
      · obtain ⟨⟨h_lo, h_hi⟩, rfl⟩ := TrollingPolicy.setSessionForStartSlot_eq_ok.1 h_t
        exact ⟨h_lo, rfl, h_hi⟩
  | deepFishing =>
      rw [h_mode] at h
      cases h
      refine ⟨h_mode, rfl, rfl, fun h_trolls => ?_⟩
      rw [h_mode] at h_trolls
      cases h_trolls

end Fishing

namespace Protocol

section Sessions

variable {c : Config} {e : Env} {p p' : Protocol} {ev : ProtocolEvent} {msg : SyncMessage}

/-- Only the bookkeeping changes the duration of the session. -/
theorem stepProtocol_session (h_ev : ev ≠ .bookkeepingAtPreludeToSyncSlot)
    (h : stepProtocol c p e ev = .ok p') : p'.fishing.session = p.fishing.session := by
  have h_restart : ∀ {f : Fishing}, p.fishing.restartTrollingMode = .ok f →
      f.session = p.fishing.session := fun h_f => restartTrollingMode_session h_f
  cases stepProtocol_done h with
  | heard h_heard =>
      cases h_heard with
      | joined => rfl
      | scattered _ _ _ h_f => exact h_restart h_f
      | assumed => rfl
      | enticed =>
          show (p.fishing.switchToDeepFishing _ _).session = _
          unfold Fishing.switchToDeepFishing
          split <;> rfl
      | other => rfl
  | fished h_fished => cases h_fished <;> rfl
  | scattered _ h_f => exact h_restart h_f
  | listened h_ended =>
      cases h_ended with
      | asMaster => rfl
      | missed => rfl
      | grabbed _ _ _ _ h_f => exact h_restart h_f
      | reverted _ _ _ _ _ h_f => exact h_restart h_f
  | preFished h_f => exact (Fishing.preFishing_eq_ok h_f).2.1
  | startsFishing =>
      show (p.fishing.setStartAndEndTimes p.schedule).session = _
      unfold Fishing.setStartAndEndTimes Fishing.getStartTimeToFish
      cases p.fishing.mode <;> rfl
  | checked h_checked => cases h_checked <;> rfl
  | booked => exact absurd rfl h_ev
  | _ => rfl

/-- Whatever happens, the durations of the fish session agree. -/
theorem stepProtocol_sessionAgrees (h : stepProtocol c p e ev = .ok p')
    (h_p : p.fishing.SessionAgrees) : p'.fishing.SessionAgrees := by
  by_cases h_ev : ev = .bookkeepingAtPreludeToSyncSlot
  · subst h_ev
    obtain ⟨f, h_f, rfl⟩ := bookkeepingAtPreludeToSyncSlot_eq_ok h
    exact Fishing.manage_sessionAgrees h_f h_p
  · exact Fishing.sessionAgrees_of_eq (stepProtocol_session h_ev h) h_p

-- ============================================================================
-- Where a fish session starts and ends
-- ============================================================================

/-- The start of the session, clamped to the period. -/
def fishStart (p : Protocol) : Nat :=
  min (match p.fishing.mode with
    | .trolling =>
        p.schedule.startTimeOfSyncPeriod + (p.fishing.troll.currentStartSlotOrdinal - 1) * 50
    | .deepFishing =>
        p.schedule.startTimeOfSyncPeriod + p.fishing.deep.deltaSyncPointToSyncPointOfFishee)
    p.schedule.endTimeOfSyncPeriod

/-- What is set for this period's session. -/
theorem setStartAndEndTimes_eq (p : Protocol) :
    p.setStartAndEndTimes.schedule = p.schedule ∧
      p.setStartAndEndTimes.fishing.mode = p.fishing.mode ∧
      p.setStartAndEndTimes.fishing.session = p.fishing.session ∧
      p.setStartAndEndTimes.fishing.troll = p.fishing.troll ∧
      p.setStartAndEndTimes.fishing.memoStartTimeOfFishSlot = p.fishStart := by
  have h_clamp := fun t => Schedule.clampTimeBeforeLatestSlotMark_eq p.schedule t
  unfold setStartAndEndTimes Fishing.setStartAndEndTimes Fishing.getStartTimeToFish fishStart
  cases h_mode : p.fishing.mode with
  | trolling => exact ⟨rfl, h_mode, rfl, rfl, h_clamp _⟩
  | deepFishing => exact ⟨rfl, rfl, rfl, rfl, h_clamp _⟩

/-- A session that is not near the sync slot leaves time for a prelude. -/
theorem fishStart_of_far (h_bounds : p.schedule.InBounds) (h_fits : p.fishing.SessionFits)
    (h_far : p.fishing.isFishSlotStartSyncPeriod = false) :
    p.schedule.startTimeOfSyncPeriod + 150 ≤ p.fishStart := by
  have h_end := h_bounds.end_ge
  unfold fishStart
  unfold Fishing.isFishSlotStartSyncPeriod at h_far
  cases h_mode : p.fishing.mode with
  | trolling =>
      obtain ⟨h_lo, -, -⟩ := h_fits h_mode
      rw [h_mode] at h_far
      have h_not := of_decide_eq_false h_far
      rw [firstSlotOrdinalToFish_eq] at h_not
      dsimp only
      omega
  | deepFishing =>
      rw [h_mode] at h_far
      have h_not := of_decide_eq_false h_far
      rw [threeSlotDuration_eq] at h_not
      dsimp only
      omega

/-- A trolling session starts at its slot, in the unadjusted period. -/
theorem fishStart_of_trolling (h_bounds : p.schedule.InBounds) (h_fits : p.fishing.SessionFits)
    (h_pos : 1 ≤ p.fishing.session.durationInSlots) (h_mode : p.fishing.mode = .trolling) :
    p.fishStart =
      p.schedule.startTimeOfSyncPeriod + (p.fishing.troll.currentStartSlotOrdinal - 1) * 50 := by
  have h_end := h_bounds.end_ge
  obtain ⟨h_lo, h_eq, h_hi⟩ := h_fits h_mode
  unfold fishStart
  rw [h_mode]
  dsimp only
  omega

end Sessions

end Protocol

end SleepSync
