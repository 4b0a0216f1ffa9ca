/-
  SleepSync.MergeAim

  Where the merge messages of a merger end, modulo the period.

  A merger sends in every later period at the same time after its sync point,
  computed once at the catch.  Merging my clique aims at the middle of the old
  clique's sync slot, but takes that middle where a slot would have it that
  starts with a wait for the oscillator, twice: the messages end past the slot,
  always.  Merging the other clique, the difference of two times is clamped
  before it is taken modulo the period: the aim is right if and only if the
  fisher's own next sync point is not more than a period after the transmission
  it caught.
-/

import SleepSync.Lib.Phase
import SleepSync.Agreement

namespace SleepSync

open Lib ScheduleParameters PhysicalParameters CliqueMerger

namespace Protocol

/-- The end of the merge message that a merger sends in the period it is in: it
    wakes up at the merge start and needs the preflight. -/
def endOfMergeSync (c : Config) (p : Protocol) : ℕ :=
  p.schedule.startTimeOfSyncPeriod + p.cliqueMerger.periodTimeToMergeSlotStart +
    preflightDelta c.platform

end Protocol

section Aim

variable {c : Config} {e : Env} {p p' : Protocol} {msg : SyncMessage}

/-- A raw merge time above the clamp is where the message ends, relative to the
    start of the period. -/
theorem adjustedRawTimeToMergeClique_of_lt {rawTime : ℕ}
    (h : earliestMergeTime c < rawTime) :
    adjustedRawTimeToMergeClique c rawTime + preflightDelta c.platform = rawTime := by
  have h_early : preflightDelta c.platform ≤ rawTime := by
    unfold earliestMergeTime at h
    omega
  rw [adjustedRawTimeToMergeClique, if_pos h, Nat.sub_add_cancel h_early]

theorem adjustedRawTimeToMergeClique_of_le {rawTime : ℕ}
    (h : rawTime ≤ earliestMergeTime c) :
    adjustedRawTimeToMergeClique c rawTime = earliestMergeTime c :=
  if_neg (Nat.not_lt_of_le h)

/-- Every later period ends its merge message at the same phase. -/
theorem endOfMergeSync_modEq (c : Config) (p : Protocol) (k : ℕ) :
    (((Protocol.preludeToSyncPeriod^[k + 1] p).endOfMergeSync c : ℕ) : ℤ) ≡
      p.schedule.timeOfNextSyncPoint + p.cliqueMerger.periodTimeToMergeSlotStart +
        preflightDelta c.platform [ZMOD normalSyncPeriodDuration] := by
  have h_merger : ∀ n, (Protocol.preludeToSyncPeriod^[n] p).cliqueMerger = p.cliqueMerger := by
    intro n
    induction n with
    | zero => rfl
    | succ n ih =>
        rw [Function.iterate_succ_apply']
        exact ih
  have h_start : (Protocol.preludeToSyncPeriod^[k + 1] p).schedule.startTimeOfSyncPeriod =
      (Schedule.rollPeriodForward^[k] p.schedule).timeOfNextSyncPoint := by
    rw [Protocol.iterate_preludeToSyncPeriod_schedule, Function.iterate_succ_apply']
    rfl
  rw [Protocol.endOfMergeSync, h_merger, h_start, Nat.cast_add, Nat.cast_add]
  have h_phase := Schedule.iterate_rollPeriodForward_modEq p.schedule k
  exact (h_phase.add_right _).add_right _

-- ============================================================================
-- Merging my clique
-- ============================================================================

/-- The raw time is the distance between the two middles, modulo the period, in
    every case in which it is not clamped. -/
theorem rawTimeToMergeMyClique_modEq (h : p.schedule.InBounds)
    (h_toa : p.schedule.startTimeOfSyncPeriod ≤ e.timeOfArrival)
    (h_raw : earliestMergeTime c < rawTimeToMergeMyClique c p.schedule e.timeOfArrival) :
    (rawTimeToMergeMyClique c p.schedule e.timeOfArrival : ℤ) ≡
      p.schedule.timeOfNextSyncPoint + (160 - 2 * sendLatency c.platform) - e.timeOfArrival
      [ZMOD normalSyncPeriodDuration] := by
  have h_end := h.end_le
  have h_lat := sendLatency_le c.platform
  have h_middle : middleOfNextSyncSlotOfFisher c p.schedule =
      p.schedule.endTimeOfSyncPeriod + (75 - sendLatency c.platform) := rfl
  rw [normalSyncPeriodDuration_eq] at h_end
  rcases Nat.lt_or_ge (middleOfNextSyncSlotOfFisher c p.schedule)
      (pastSyncPointOfCatch c e.timeOfArrival) with h_past | h_order
  · -- the difference is clamped to zero, and zero to the earliest merge time
    rw [rawTimeToMergeMyClique, c.tm.clampedTimeDifference_of_past (Nat.le_of_lt h_past),
      Nat.zero_mod] at h_raw
    exact absurd h_raw (Nat.not_lt_zero _)
  · -- a past sync point before time zero would wrap around
    have h_ge : 10 + (75 - sendLatency c.platform) ≤ e.timeOfArrival := by
      rw [h_middle, pastSyncPointOfCatch, SyncMessage.timeOfTransmittal,
        guessedSendLatency_eq, deltaSyncPointToSyncSlotMiddle_eq] at h_order
      unfold LongTime.sub at h_order
      split at h_order <;> split at h_order <;> omega
    have h_past : pastSyncPointOfCatch c e.timeOfArrival =
        e.timeOfArrival - 10 - (75 - sendLatency c.platform) := by
      have h_sub : LongTime.sub e.timeOfArrival 10 = e.timeOfArrival - 10 :=
        LongTime.sub_of_le (by omega)
      rw [pastSyncPointOfCatch, SyncMessage.timeOfTransmittal, guessedSendLatency_eq,
        deltaSyncPointToSyncSlotMiddle_eq, h_sub, LongTime.sub_of_le (by omega)]
    rw [h_past, h_middle] at h_order
    have h_exact : ((p.schedule.endTimeOfSyncPeriod + (75 - sendLatency c.platform) -
          (e.timeOfArrival - 10 - (75 - sendLatency c.platform)) : ℕ) : ℤ) =
        p.schedule.endTimeOfSyncPeriod + (160 - 2 * sendLatency c.platform) -
          e.timeOfArrival := by
      omega
    rw [rawTimeToMergeMyClique, h_past, h_middle, c.tm.clampedTimeDifference_eq (by omega),
      Int.natCast_mod, h_exact]
    exact Int.mod_modEq _ _

/-- What merging my clique leaves behind. -/
theorem hearInFishSlot_mergesMy (h_mode : p.fishing.mode = .trolling)
    (h_adopts : p.adoptsInFishSlot msg = true)
    (h_step : stepProtocol c p e (.hearInFishSlot msg) = .ok p') :
    p.schedule.adjustBySyncMsg msg e.timeOfArrival = .ok p'.schedule ∧
      p'.cliqueMerger.periodTimeToMergeSlotStart =
        periodTimeToMergeMyClique c p.schedule e.timeOfArrival := by
  obtain ⟨⟨r, p₁⟩, h_handle, rfl⟩ := bind_return_eq_ok.1 h_step
  obtain ⟨-, h_better⟩ := Protocol.adoptsInFishSlot_iff.1 h_adopts
  cases Protocol.FishSlot.handle_heard h_handle with
  | mergesMy _ _ _ _ h_adjust => exact ⟨h_adjust, rfl⟩
  | mergesOther _ _ _ h_not => exact absurd h_better (ne_true_of_eq_false h_not)
  | caughtDeep h_deep =>
      rw [h_mode] at h_deep
      cases h_deep
  | kept h_not => exact absurd h_adopts (ne_true_of_eq_false h_not)

/-- A merge message to my old clique never ends in its sync slot, in whatever
    phase the two cliques are: it ends at least a hundred and fifteen ticks after
    the old clique's sync point. -/
theorem mergeMy_misses_sync_slot (h : (protocolSystem c).Reachable p)
    (h_timely : (ProtocolEvent.hearInFishSlot msg).Timely p e)
    (h_mode : p.fishing.mode = .trolling) (h_adopts : p.adoptsInFishSlot msg = true)
    (h_next : normalSyncPeriodDuration ≤ halfSlotDuration + msg.deltaToNextSyncPoint.get)
    (h_raw : earliestMergeTime c < rawTimeToMergeMyClique c p.schedule e.timeOfArrival)
    (h_step : stepProtocol c p e (.hearInFishSlot msg) = .ok p') (k : ℕ) :
    ¬ InWindow normalSyncPeriodDuration virtualSlotDuration p.schedule.timeOfNextSyncPoint
      ((Protocol.preludeToSyncPeriod^[k + 1] p').endOfMergeSync c) := by
  have h_bounds := protocolSystem_inBounds h
  have h_toa := (h_timely.2 (Option.some_ne_none msg)).1
  obtain ⟨h_adjust, h_time⟩ := hearInFishSlot_mergesMy h_mode h_adopts h_step
  have h_sync := Schedule.adjustBySyncMsg_modEq h_adjust
  have h_aim := rawTimeToMergeMyClique_modEq h_bounds h_toa h_raw
  have h_sum := adjustedRawTimeToMergeClique_of_lt h_raw
  rw [← periodTimeToMergeMyClique, ← h_time] at h_sum
  have h_end : (((Protocol.preludeToSyncPeriod^[k + 1] p').endOfMergeSync c : ℕ) : ℤ) ≡
      p.schedule.timeOfNextSyncPoint +
        (160 - 2 * sendLatency c.platform + msg.deltaToNextSyncPoint.get)
      [ZMOD normalSyncPeriodDuration] := by
    calc (((Protocol.preludeToSyncPeriod^[k + 1] p').endOfMergeSync c : ℕ) : ℤ)
        ≡ p'.schedule.timeOfNextSyncPoint + p'.cliqueMerger.periodTimeToMergeSlotStart +
            preflightDelta c.platform [ZMOD normalSyncPeriodDuration] :=
          endOfMergeSync_modEq c p' k
      _ = p'.schedule.timeOfNextSyncPoint +
            rawTimeToMergeMyClique c p.schedule e.timeOfArrival := by
          rw [← h_sum, Nat.cast_add, Int.add_assoc]
      _ ≡ Schedule.adjustedEventTimeFromMsg msg e.timeOfArrival +
            (p.schedule.timeOfNextSyncPoint + (160 - 2 * sendLatency c.platform) -
              e.timeOfArrival) [ZMOD normalSyncPeriodDuration] := h_sync.add h_aim
      _ = p.schedule.timeOfNextSyncPoint +
            (160 - 2 * sendLatency c.platform + msg.deltaToNextSyncPoint.get) := by
          rw [Schedule.adjustedEventTimeFromMsg]
          omega
  rw [InWindow.congr h_end, InWindow.add_iff]
  have h_lat := sendLatency_le c.platform
  have h_delta := msg.deltaToNextSyncPoint.isValidValue
  rw [normalSyncPeriodDuration_eq] at h_next h_delta ⊢
  rw [halfSlotDuration_eq] at h_next
  rw [virtualSlotDuration_eq]
  omega

-- ============================================================================
-- A catch half a period away
-- ============================================================================

def bootedFive : Protocol := (Protocol.boot unitFive 0 0).preludeToSyncPeriod

/-- A better clique, caught in the middle of the period. -/
def caughtThree : Env × ProtocolEvent :=
  (arriving 40000, .hearInFishSlot (masterSyncFrom 3 (.ofTicks 79975)))

theorem mergeMy_misses_sync_slot_caughtThree :
    ∃ p p', (protocolSystem unitFive).Reachable p ∧
      stepProtocol unitFive p caughtThree.1 caughtThree.2 = .ok p' ∧
      ∀ k, ¬ InWindow normalSyncPeriodDuration virtualSlotDuration
        p.schedule.timeOfNextSyncPoint
        ((Protocol.preludeToSyncPeriod^[k + 1] p').endOfMergeSync unitFive) := by
  obtain ⟨p, p', h, h_timely, h_step, h_mode, h_adopts, h_raw⟩ :=
    System.Reachable.exists_step_of_play (M := protocolSystem unitFive)
      (P := fun p _ => p.fishing.mode = .trolling ∧
        p.adoptsInFishSlot (masterSyncFrom 3 ⟨79975, by decide⟩) = true ∧
        earliestMergeTime unitFive < rawTimeToMergeMyClique unitFive p.schedule 40000)
      becomesFisher caughtThree (show (protocolSystem unitFive).init bootedFive from
        ⟨0, 0, rfl⟩) (by decide +kernel)
  exact ⟨p, p', h, h_step, fun k =>
    mergeMy_misses_sync_slot h h_timely h_mode h_adopts (by decide) h_raw h_step k⟩

/-- The old clique's sync slot is from 80000 to 80050, and recurs; the message of
    the next period ends a period and 115 ticks after its start. -/
theorem mergeMy_ends_after_sync_slot :
    ∃ p p', (protocolSystem unitFive).Reachable p ∧
      caughtThree.2.Timely p caughtThree.1 ∧
      stepProtocol unitFive p caughtThree.1 caughtThree.2 = .ok p' ∧
      p.fishing.mode = .trolling ∧
      p.adoptsInFishSlot (masterSyncFrom 3 ⟨79975, by decide⟩) = true ∧
      earliestMergeTime unitFive < rawTimeToMergeMyClique unitFive p.schedule 40000 ∧
      p.schedule.timeOfNextSyncPoint = 80000 ∧
      p'.preludeToSyncPeriod.endOfMergeSync unitFive = 160115 ∧
      ¬ InWindow normalSyncPeriodDuration virtualSlotDuration 80000 160115 :=
  System.Reachable.exists_step_of_play (M := protocolSystem unitFive)
    becomesFisher caughtThree (show (protocolSystem unitFive).init bootedFive from
      ⟨0, 0, rfl⟩) (by decide +kernel)

-- ============================================================================
-- Merging the other clique
-- ============================================================================

/-- What merging the other clique leaves behind. -/
theorem hearInFishSlot_mergesOther
    (h_type : msg.type = .masterSync ∨ msg.type = .workSync)
    (h_mode : p.fishing.mode = .trolling)
    (h_not : p.isOtherCliqueBetter msg.masterID = false)
    (h_step : stepProtocol c p e (.hearInFishSlot msg) = .ok p') :
    p'.schedule = p.schedule ∧
      p'.cliqueMerger.periodTimeToMergeSlotStart =
        periodTimeToMergeOtherClique c p.schedule e.timeOfArrival := by
  obtain ⟨⟨r, p₁⟩, h_handle, rfl⟩ := bind_return_eq_ok.1 h_step
  have h_catch := Protocol.FishSlot.handle_catches h_mode h_type h_handle
  obtain ⟨-, -, -, h_kind⟩ := Protocol.toMergerFromFisher_eq_ok h_catch
  rcases h_kind with ⟨h_better, -⟩ | ⟨-, rfl⟩
  · exact absurd h_better (ne_true_of_eq_false h_not)
  · exact ⟨rfl, rfl⟩

theorem timeOfTransmittal_eq {toa : ℕ} (h : halfSlotDuration ≤ toa) :
    SyncMessage.timeOfTransmittal toa = toa - guessedSendLatency := by
  rw [halfSlotDuration_eq] at h
  exact LongTime.sub_of_le (by rw [guessedSendLatency_eq]; omega)

/-- A negative difference is clamped to zero, and zero to the earliest merge time. -/
theorem periodTimeToMergeOtherClique_of_past {s : Schedule} {toa : ℕ}
    (h_past : middleOfNextSyncSlotOfCatch toa < s.timeOfNextSyncPoint) :
    periodTimeToMergeOtherClique c s toa = earliestMergeTime c := by
  have h_raw : rawTimeToMergeOtherClique c s toa = 0 := by
    unfold rawTimeToMergeOtherClique nextSyncPointOfFisher
    rw [c.tm.clampedTimeDifference_of_past (Nat.le_of_lt h_past), Nat.zero_mod]
  rw [periodTimeToMergeOtherClique, h_raw]
  exact adjustedRawTimeToMergeClique_of_le (Nat.zero_le _)

/-- Any other that fits its type is exact. -/
theorem rawTimeToMergeOtherClique_eq {s : Schedule} {toa : ℕ}
    (h_order : s.timeOfNextSyncPoint ≤ middleOfNextSyncSlotOfCatch toa)
    (h_fit : middleOfNextSyncSlotOfCatch toa < s.timeOfNextSyncPoint + 2 ^ 32) :
    (rawTimeToMergeOtherClique c s toa : ℤ) =
      (middleOfNextSyncSlotOfCatch toa - s.timeOfNextSyncPoint) % normalSyncPeriodDuration := by
  have h_exact : c.tm.clampedTimeDifference (middleOfNextSyncSlotOfCatch toa)
      (nextSyncPointOfFisher s) = middleOfNextSyncSlotOfCatch toa - s.timeOfNextSyncPoint :=
    c.tm.clampedTimeDifference_eq (by unfold nextSyncPointOfFisher; omega)
  rw [rawTimeToMergeOtherClique, h_exact, Int.natCast_mod, Int.natCast_sub h_order]

/-- A merge message to another clique ends in its sync slot if and only if the
    fisher's next sync point is at most a period after the caught transmission,
    or the earliest merge time happens to be in the slot. -/
theorem mergeOther_hits_sync_slot_iff (h : (protocolSystem c).Reachable p)
    (h_mode : p.fishing.mode = .trolling)
    (h_type : msg.type = .masterSync ∨ msg.type = .workSync)
    (h_not : p.isOtherCliqueBetter msg.masterID = false)
    (h_toa : halfSlotDuration ≤ e.timeOfArrival)
    (h_fit : e.timeOfArrival + normalSyncPeriodDuration <
      p.schedule.timeOfNextSyncPoint + 2 ^ 32)
    (h_offset : (earliestMergeTime c : ℤ) <
      (SyncMessage.timeOfTransmittal e.timeOfArrival - p.schedule.timeOfNextSyncPoint) %
        normalSyncPeriodDuration)
    (h_step : stepProtocol c p e (.hearInFishSlot msg) = .ok p') (k : ℕ) :
    InWindow normalSyncPeriodDuration virtualSlotDuration
        (e.timeOfArrival - halfSlotDuration)
        ((Protocol.preludeToSyncPeriod^[k + 1] p').endOfMergeSync c) ↔
      p.schedule.timeOfNextSyncPoint ≤
          SyncMessage.timeOfTransmittal e.timeOfArrival + normalSyncPeriodDuration ∨
        InWindow normalSyncPeriodDuration virtualSlotDuration
          (e.timeOfArrival - halfSlotDuration)
          (p.schedule.timeOfNextSyncPoint + earliestMergeTime c +
            preflightDelta c.platform) := by
  have h_bounds := protocolSystem_inBounds h
  obtain ⟨h_schedule, h_time⟩ := hearInFishSlot_mergesOther h_type h_mode h_not h_step
  have h_end := endOfMergeSync_modEq c p' k
  rw [h_schedule, h_time] at h_end
  rw [InWindow.congr h_end]
  rw [timeOfTransmittal_eq h_toa] at h_offset ⊢
  have h_catch : middleOfNextSyncSlotOfCatch e.timeOfArrival =
      e.timeOfArrival - 10 + normalSyncPeriodDuration := by
    rw [halfSlotDuration_eq] at h_toa
    rw [middleOfNextSyncSlotOfCatch, guessedSendLatency_eq, LongTime.sub_of_le (by omega)]
    omega
  rw [guessedSendLatency_eq] at h_offset ⊢
  rw [halfSlotDuration_eq] at h_toa
  rcases Nat.lt_or_ge (e.timeOfArrival - 10 + normalSyncPeriodDuration)
      p.schedule.timeOfNextSyncPoint with h_past | h_order
  · rw [periodTimeToMergeOtherClique_of_past (h_catch.trans_lt h_past)]
    exact (or_iff_right (Nat.not_le_of_lt h_past)).symm
  · have h_raw : (rawTimeToMergeOtherClique c p.schedule e.timeOfArrival : ℤ) =
        ((e.timeOfArrival - 10 : ℕ) - p.schedule.timeOfNextSyncPoint) %
          normalSyncPeriodDuration := by
      have h_later : (middleOfNextSyncSlotOfCatch e.timeOfArrival : ℤ) -
            p.schedule.timeOfNextSyncPoint =
          (e.timeOfArrival - 10 : ℕ) - p.schedule.timeOfNextSyncPoint +
            normalSyncPeriodDuration := by omega
      rw [rawTimeToMergeOtherClique_eq (by omega) (by omega), h_later, Int.add_emod_right]
    have h_lt : earliestMergeTime c <
        rawTimeToMergeOtherClique c p.schedule e.timeOfArrival := by omega
    have h_sum := adjustedRawTimeToMergeClique_of_lt h_lt
    rw [← periodTimeToMergeOtherClique] at h_sum
    refine iff_of_true ?_ (Or.inl h_order)
    have h_aim : (p.schedule.timeOfNextSyncPoint : ℤ) +
          periodTimeToMergeOtherClique c p.schedule e.timeOfArrival +
          preflightDelta c.platform ≡
        (e.timeOfArrival - halfSlotDuration) + 15 [ZMOD normalSyncPeriodDuration] := by
      calc (p.schedule.timeOfNextSyncPoint : ℤ) +
            periodTimeToMergeOtherClique c p.schedule e.timeOfArrival +
            preflightDelta c.platform
          = p.schedule.timeOfNextSyncPoint +
              rawTimeToMergeOtherClique c p.schedule e.timeOfArrival := by
            rw [← h_sum, Nat.cast_add, Int.add_assoc]
        _ = p.schedule.timeOfNextSyncPoint +
              ((e.timeOfArrival - 10 : ℕ) - p.schedule.timeOfNextSyncPoint) %
                normalSyncPeriodDuration := by rw [h_raw]
        _ ≡ p.schedule.timeOfNextSyncPoint +
              ((e.timeOfArrival - 10 : ℕ) - p.schedule.timeOfNextSyncPoint)
              [ZMOD normalSyncPeriodDuration] := (Int.mod_modEq _ _).add_left _
        _ = (e.timeOfArrival - halfSlotDuration) + 15 := by
            rw [halfSlotDuration_eq]
            omega
    rw [InWindow.congr h_aim, InWindow.add_iff]
    decide

/-- A worse clique, caught in the middle of the period. -/
def caughtNine : Env × ProtocolEvent :=
  (arriving 40000, .hearInFishSlot (masterSyncFrom 9 (.ofTicks 79975)))

/-- Without an adjustment before, the catch is met. -/
theorem mergeOther_hits_sync_slot_caughtNine :
    ∃ p p', (protocolSystem unitFive).Reachable p ∧
      stepProtocol unitFive p caughtNine.1 caughtNine.2 = .ok p' ∧
      ∀ k, InWindow normalSyncPeriodDuration virtualSlotDuration (40000 - 25)
        ((Protocol.preludeToSyncPeriod^[k + 1] p').endOfMergeSync unitFive) := by
  obtain ⟨p, p', h, -, h_step, h_mode, h_not, h_end⟩ :=
    System.Reachable.exists_step_of_play (M := protocolSystem unitFive)
      (P := fun p _ => p.fishing.mode = .trolling ∧ p.isOtherCliqueBetter 9 = false ∧
        p.schedule.timeOfNextSyncPoint = 80000)
      becomesFisher caughtNine (show (protocolSystem unitFive).init bootedFive from
        ⟨0, 0, rfl⟩) (by decide +kernel)
  refine ⟨p, p', h, h_step, fun k => ?_⟩
  exact (mergeOther_hits_sync_slot_iff h h_mode (Or.inl rfl) h_not (by decide)
    (by rw [h_end]; decide) (by rw [h_end]; decide) h_step k).2
    (Or.inl (by rw [h_end]; decide))

/-- With the period extended by almost a period, the difference is clamped: the
    caught clique's sync slot is from 39975 to 40025, and recurs, and the message
    of the next period ends at its phase 220 ticks after the fisher's own. -/
theorem mergeOther_ends_out_of_sync_slot :
    ∃ p p', (protocolSystem unitFive).Reachable p ∧
      caughtNine.2.Timely p caughtNine.1 ∧
      stepProtocol unitFive p caughtNine.1 caughtNine.2 = .ok p' ∧
      p.fishing.mode = .trolling ∧ p.isOtherCliqueBetter 9 = false ∧
      p.schedule.timeOfNextSyncPoint = 159990 ∧
      (earliestMergeTime unitFive : ℤ) <
        (SyncMessage.timeOfTransmittal 40000 - p.schedule.timeOfNextSyncPoint) %
          normalSyncPeriodDuration ∧
      p'.preludeToSyncPeriod.endOfMergeSync unitFive = 160210 ∧
      ¬ InWindow normalSyncPeriodDuration virtualSlotDuration (40000 - 25) 160210 :=
  System.Reachable.exists_step_of_play (M := protocolSystem unitFive)
    extendedByTen caughtNine (show (protocolSystem unitFive).init bootedFive from
      ⟨0, 0, rfl⟩) (by decide +kernel)

end Aim

end SleepSync
