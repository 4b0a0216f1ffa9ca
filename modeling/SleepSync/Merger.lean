/-
  SleepSync.Merger

  Merging cliques: when the merge slot of a unit is in its period, what its
  merge messages say, and the role transitions into and out of merging.

  A merger is either `mergeMy` (the caught clique is better: join it and tell
  the old one) or `mergeOther` (tell the caught clique about the own).  Both
  compute the time of the merge slot once, from the schedule as it is before
  any adjustment.
-/

import SleepSync.Protocol

namespace SleepSync

open Lib ScheduleParameters

/-- `PeriodTime::set` -/
def periodTimeSet (value : Nat) : Except Fault Nat := do
  require (value ≤ normalSyncPeriodDuration) .periodTimeRange
  return value

namespace CliqueMerger

variable (c : Config)

-- ============================================================================
-- The time of the merge slot
-- ============================================================================

def middleOfNextSyncSlotOfFisher (s : Schedule) : Nat :=
  s.timeOfNextSyncPoint + deltaSyncPointToSyncSlotMiddle c.platform

def nextSyncPointOfFisher (s : Schedule) : Nat := s.timeOfNextSyncPoint

/-- A period after the transmittal.  One that has wrapped below zero wraps back in
    the sum, so the period is added first. -/
def middleOfNextSyncSlotOfCatch (toa : Nat) : Nat :=
  LongTime.sub (toa + normalSyncPeriodDuration) PhysicalParameters.guessedSendLatency

/-- It is the sum of the source, on 64-bit unsigned times. -/
theorem middleOfNextSyncSlotOfCatch_eq {toa : Nat} (h : toa + normalSyncPeriodDuration < 2 ^ 64) :
    middleOfNextSyncSlotOfCatch toa =
      (SyncMessage.timeOfTransmittal toa + normalSyncPeriodDuration) % 2 ^ 64 := by
  unfold middleOfNextSyncSlotOfCatch SyncMessage.timeOfTransmittal LongTime.sub
  rw [normalSyncPeriodDuration_eq] at h ⊢
  rw [guessedSendLatency_eq, if_pos (by omega)]
  split <;> omega

def pastSyncPointOfCatch (toa : Nat) : Nat :=
  LongTime.sub (SyncMessage.timeOfTransmittal toa)
    (deltaSyncPointToSyncSlotMiddle c.platform)

def earliestMergeTime : Nat := 2 * virtualSlotDuration + preflightDelta c.platform

/-- Allow for the preflight, but not before the end of the sync slot. -/
def adjustedRawTimeToMergeClique (rawTime : Nat) : Nat :=
  if earliestMergeTime c < rawTime then rawTime - preflightDelta c.platform
  else earliestMergeTime c

def rawTimeToMergeMyClique (s : Schedule) (toa : Nat) : Nat :=
  c.tm.clampedTimeDifference (middleOfNextSyncSlotOfFisher c s) (pastSyncPointOfCatch c toa) %
    normalSyncPeriodDuration

def rawTimeToMergeOtherClique (s : Schedule) (toa : Nat) : Nat :=
  c.tm.clampedTimeDifference (middleOfNextSyncSlotOfCatch toa) (nextSyncPointOfFisher s) %
    normalSyncPeriodDuration

def periodTimeToMergeMyClique (s : Schedule) (toa : Nat) : Nat :=
  adjustedRawTimeToMergeClique c (rawTimeToMergeMyClique c s toa)

def periodTimeToMergeOtherClique (s : Schedule) (toa : Nat) : Nat :=
  adjustedRawTimeToMergeClique c (rawTimeToMergeOtherClique c s toa)

variable (k : CliqueMerger)

def deactivate : CliqueMerger := { k with isActive := false }

def deltaMergeSlotEndToSyncPoint : Nat :=
  c.tm.clampedSubtraction normalSyncPeriodDuration
    (k.periodTimeToMergeSlotStart + sendDuration c.platform)

end CliqueMerger

namespace Protocol

variable (c : Config) (e : Env) (p : Protocol)

-- ============================================================================
-- Becoming a merger
-- ============================================================================

/-- Join the better clique of the message; the merge slot will be the sync slot
    of the clique left. -/
def initMergeMyClique (msg : SyncMessage) : Except Fault Protocol := do
  let t ← periodTimeSet
    (CliqueMerger.periodTimeToMergeMyClique c p.schedule e.timeOfArrival)
  let kind :=
    if p.isSelfMaster c then MessageType.mergeMyMasterDepart else .mergeMySlaveDepart
  let k : CliqueMerger :=
    { p.cliqueMerger with
      periodTimeToMergeSlotStart := t
      superiorMasterID := msg.masterID
      inferiorMasterID := p.masterID
      kindOfMerger := kind }
  let p' ← { p with cliqueMerger := k }.updateBySyncMessage e msg
  require (!p'.isSelfMaster c) .stillSelfMaster
  return p'

/-- Stay; the merge slot will be the sync slot of the caught clique. -/
def initMergeOtherClique (msg : SyncMessage) : Except Fault Protocol := do
  let t ← periodTimeSet
    (CliqueMerger.periodTimeToMergeOtherClique c p.schedule e.timeOfArrival)
  return { p with cliqueMerger :=
    { p.cliqueMerger with
      periodTimeToMergeSlotStart := t
      kindOfMerger := .mergeOther
      superiorMasterID := p.masterID
      inferiorMasterID := msg.masterID } }

/-- `CliqueMerger::initFromMsg` -/
def initFromMsg (msg : SyncMessage) : Except Fault Protocol := do
  require (p.fishing.mode = .trolling) .mergeFromDeep
  require msg.type.doesCarrySync .doesNotCarrySync
  let p' ← (if p.isOtherCliqueBetter msg.masterID then p.initMergeMyClique c e msg
    else p.initMergeOtherClique c e msg)
  return { p' with cliqueMerger := { p'.cliqueMerger with isActive := true } }

def toMergerFromFisher (msg : SyncMessage) : Except Fault Protocol := do
  require msg.type.doesCarrySync .doesNotCarrySync
  require (p.role = .fisher) .notFisher
  { p with role := .merger }.initFromMsg c e msg

-- ============================================================================
-- Leaving the role
-- ============================================================================

def toFisherFromMerger : Protocol :=
  { p with role := .fisher, cliqueMerger := p.cliqueMerger.deactivate }

def stopMerger : Protocol :=
  { p with countSentMergeSyncs := 0 }.toFisherFromMerger

/-- The count of sent merge messages is not restarted here. -/
def toNoFishingFromOther : Protocol :=
  if p.role = .merger then
    { p with cliqueMerger := p.cliqueMerger.deactivate, role := .noFishing }
  else
    { p with role := .noFishing }

/-- `MergePolicy::checkCompletionOfMergerRole` -/
def checkCompletionOfMergerRole : Except Fault (Bool × Protocol) := do
  require (p.countSentMergeSyncs ≤ Policy.countSyncsPerMerger) .mergePolicyNotRestarted
  let count := p.countSentMergeSyncs + 1
  return (Policy.countSyncsPerMerger < count, { p with countSentMergeSyncs := count })

-- ============================================================================
-- The merge slot
-- ============================================================================

def timeOfThisMergeStart (offset : Nat) : Except Fault Nat := do
  let result := p.schedule.startTimeOfSyncPeriod + offset
  require (result < p.schedule.endTimeOfSyncPeriod) .mergeStartTooLate
  return result

def deltaToThisMergeStart : Except Fault Nat := do
  let t ← p.timeOfThisMergeStart p.cliqueMerger.periodTimeToMergeSlotStart
  return c.tm.clampedTimeDifferenceFromNow e.now t

def isMergerStartSyncPeriod : Bool :=
  p.cliqueMerger.periodTimeToMergeSlotStart < threeSlotDuration

def isMergerEndSyncPeriod : Bool :=
  p.cliqueMerger.deltaMergeSlotEndToSyncPoint c < twoSlotDuration

-- ============================================================================
-- What these functions can do
-- ============================================================================

section Spec

variable {c : Config} {e : Env} {p p' : Protocol} {msg : SyncMessage} {flt : Fault}

theorem periodTimeSet_eq_ok {value t : Nat} :
    periodTimeSet value = .ok t ↔ value ≤ normalSyncPeriodDuration ∧ t = value := by
  unfold periodTimeSet
  rw [require_bind_eq_ok]
  refine and_congr_right fun _ => ⟨fun h => ?_, fun h => ?_⟩
  · cases h
    rfl
  · rw [h]
    rfl

theorem periodTimeSet_eq_error {value : Nat} (h : periodTimeSet value = .error flt) :
    flt = .periodTimeRange := by
  unfold periodTimeSet at h
  rcases require_bind_eq_error.1 h with ⟨-, h_f⟩ | ⟨-, h_pure⟩
  · exact h_f
  · cases h_pure

/-- A merge time is a `PeriodTime`, whatever the raw time that it is adjusted from. -/
theorem adjustedRawTimeToMergeClique_le {rawTime : Nat}
    (h : rawTime ≤ normalSyncPeriodDuration) :
    CliqueMerger.adjustedRawTimeToMergeClique c rawTime ≤ normalSyncPeriodDuration := by
  have h_lat := PhysicalParameters.sendLatency_le c.platform
  have h_pre : preflightDelta c.platform =
      50 + PhysicalParameters.sendLatency c.platform := rfl
  unfold CliqueMerger.adjustedRawTimeToMergeClique CliqueMerger.earliestMergeTime
  rw [normalSyncPeriodDuration_eq] at h ⊢
  rw [virtualSlotDuration_eq]
  split <;> omega

theorem periodTimeToMergeMyClique_le (c : Config) (s : Schedule) (toa : Nat) :
    CliqueMerger.periodTimeToMergeMyClique c s toa ≤ normalSyncPeriodDuration :=
  adjustedRawTimeToMergeClique_le (Nat.le_of_lt (Nat.mod_lt _ (by decide)))

theorem periodTimeToMergeOtherClique_le (c : Config) (s : Schedule) (toa : Nat) :
    CliqueMerger.periodTimeToMergeOtherClique c s toa ≤ normalSyncPeriodDuration :=
  adjustedRawTimeToMergeClique_le (Nat.le_of_lt (Nat.mod_lt _ (by decide)))

/-- The merge message that tells the clique a unit leaves. -/
def kindOfDepart (c : Config) (p : Protocol) : MessageType :=
  if p.isSelfMaster c then .mergeMyMasterDepart else .mergeMySlaveDepart

/-- The state of a unit that merges its own clique into that of `msg`. -/
def mergingMy (c : Config) (p : Protocol) (msg : SyncMessage) (t : Nat) (s : Schedule) :
    Protocol :=
  { p.joining msg s with
    role := .merger
    cliqueMerger :=
      { isActive := true
        periodTimeToMergeSlotStart := t
        superiorMasterID := msg.masterID
        inferiorMasterID := p.masterID
        kindOfMerger := kindOfDepart c p } }

/-- The state of a unit that merges the clique of `msg` into its own. -/
def mergingOther (p : Protocol) (msg : SyncMessage) (t : Nat) : Protocol :=
  { p with
    role := .merger
    cliqueMerger :=
      { isActive := true
        periodTimeToMergeSlotStart := t
        superiorMasterID := p.masterID
        inferiorMasterID := msg.masterID
        kindOfMerger := .mergeOther } }

theorem initMergeMyClique_eq_ok (h : p.initMergeMyClique c e msg = .ok p') :
    ∃ s, CliqueMerger.periodTimeToMergeMyClique c p.schedule e.timeOfArrival ≤
        normalSyncPeriodDuration ∧
      p.schedule.adjustBySyncMsg msg e.timeOfArrival = .ok s ∧ msg.masterID ≠ c.id ∧
      { p' with cliqueMerger := { p'.cliqueMerger with isActive := true } } =
        { mergingMy c p msg
          (CliqueMerger.periodTimeToMergeMyClique c p.schedule e.timeOfArrival) s with
            role := p.role } := by
  unfold initMergeMyClique at h
  obtain ⟨t, h_t, h⟩ := bind_eq_ok.1 h
  obtain ⟨h_le, rfl⟩ := periodTimeSet_eq_ok.1 h_t
  obtain ⟨p₁, h_upd, h⟩ := bind_eq_ok.1 h
  obtain ⟨-, s, h_s, rfl⟩ := updateBySyncMessage_eq_ok.1 h_upd
  obtain ⟨h_slave, h⟩ := require_bind_eq_ok.1 h
  cases h
  refine ⟨s, h_le, h_s, ?_, rfl⟩
  intro h_id
  simp only [isSelfMaster, joining, h_id, decide_true, Bool.not_true, Bool.false_eq_true] at h_slave

theorem initMergeMyClique_eq_error (h_carries : msg.type.doesCarrySync = true)
    (h : p.initMergeMyClique c e msg = .error flt) (h_adj : flt.isAdjust = true) :
    p.schedule.adjustBySyncMsg msg e.timeOfArrival = .error flt := by
  unfold initMergeMyClique at h
  rcases bind_eq_error.1 h with h_t | ⟨t, -, h⟩
  · exact Fault.elim_isAdjust h_adj rfl (periodTimeSet_eq_error h_t)
  · rcases bind_eq_error.1 h with h_upd | ⟨p₁, -, h⟩
    · have h_s := updateBySyncMessage_eq_error h_carries h_upd
      exact h_s
    · rcases require_bind_eq_error.1 h with ⟨-, h_f⟩ | ⟨-, h_pure⟩
      · exact Fault.elim_isAdjust h_adj rfl h_f
      · cases h_pure

theorem initMergeOtherClique_eq_ok (h : p.initMergeOtherClique c e msg = .ok p') :
    CliqueMerger.periodTimeToMergeOtherClique c p.schedule e.timeOfArrival ≤
        normalSyncPeriodDuration ∧
      { p' with cliqueMerger := { p'.cliqueMerger with isActive := true } } =
        { mergingOther p msg
          (CliqueMerger.periodTimeToMergeOtherClique c p.schedule e.timeOfArrival) with
            role := p.role } := by
  obtain ⟨t, h_t, rfl⟩ := bind_return_eq_ok.1 h
  obtain ⟨h_le, rfl⟩ := periodTimeSet_eq_ok.1 h_t
  exact ⟨h_le, rfl⟩

theorem initMergeMyClique_ok {s : Schedule} (h_carries : msg.type.doesCarrySync = true)
    (h_adjust : p.schedule.adjustBySyncMsg msg e.timeOfArrival = .ok s)
    (h_ne : msg.masterID ≠ c.id) : ∃ p', p.initMergeMyClique c e msg = .ok p' := by
  have h_time := periodTimeSet_eq_ok.2
    ⟨periodTimeToMergeMyClique_le c p.schedule e.timeOfArrival, rfl⟩
  cases h_merge : p.initMergeMyClique c e msg with
  | ok p' => exact ⟨p', rfl⟩
  | error flt =>
      exfalso
      rcases bind_eq_error.1 h_merge with h_t | ⟨t, -, h_rest⟩
      · rw [h_time] at h_t
        cases h_t
      rcases bind_eq_error.1 h_rest with h_upd | ⟨p₁, h_upd, h_self⟩
      · have h_s := updateBySyncMessage_eq_error h_carries h_upd
        dsimp only at h_s
        rw [h_adjust] at h_s
        cases h_s
      · obtain ⟨-, s₁, -, rfl⟩ := updateBySyncMessage_eq_ok.1 h_upd
        rcases require_bind_eq_error.1 h_self with ⟨h_not, -⟩ | ⟨-, h_pure⟩
        · simp [isSelfMaster, joining, h_ne] at h_not
        · cases h_pure

theorem initMergeOtherClique_ok (c : Config) (e : Env) (p : Protocol) (msg : SyncMessage) :
    ∃ p', p.initMergeOtherClique c e msg = .ok p' := by
  have h_time := periodTimeSet_eq_ok.2
    ⟨periodTimeToMergeOtherClique_le c p.schedule e.timeOfArrival, rfl⟩
  exact ⟨_, bind_return_eq_ok.2 ⟨_, h_time, rfl⟩⟩

/-- Nothing stops a merge of the other clique, and a merge of the own one only the
    schedule, or an inconsistent ID. -/
theorem initFromMsg_ok (h_mode : p.fishing.mode = .trolling)
    (h_carries : msg.type.doesCarrySync = true)
    (h_better : p.isOtherCliqueBetter msg.masterID = true → msg.masterID ≠ c.id ∧
      ∃ s, p.schedule.adjustBySyncMsg msg e.timeOfArrival = .ok s) :
    ∃ p', p.initFromMsg c e msg = .ok p' := by
  have h_merge : ∃ p₁, (if p.isOtherCliqueBetter msg.masterID then p.initMergeMyClique c e msg
      else p.initMergeOtherClique c e msg) = .ok p₁ := by
    by_cases h_is : p.isOtherCliqueBetter msg.masterID = true
    · obtain ⟨h_ne, s, h_s⟩ := h_better h_is
      rw [if_pos h_is]
      exact initMergeMyClique_ok h_carries h_s h_ne
    · rw [if_neg h_is]
      exact initMergeOtherClique_ok c e p msg
  obtain ⟨p₁, h_merge⟩ := h_merge
  refine ⟨{ p₁ with cliqueMerger := { p₁.cliqueMerger with isActive := true } }, ?_⟩
  unfold initFromMsg
  refine require_bind_eq_ok.2 ⟨h_mode, require_bind_eq_ok.2 ⟨h_carries, ?_⟩⟩
  exact bind_return_eq_ok.2 ⟨p₁, h_merge, rfl⟩

/-- A fisher that trolls becomes a merger in one of two ways, by whether the
    caught clique is better. -/
theorem toMergerFromFisher_eq_ok (h : p.toMergerFromFisher c e msg = .ok p') :
    p.role = .fisher ∧ p.fishing.mode = .trolling ∧ msg.type.doesCarrySync = true ∧
      ((p.isOtherCliqueBetter msg.masterID = true ∧ msg.masterID ≠ c.id ∧
          ∃ s, p.schedule.adjustBySyncMsg msg e.timeOfArrival = .ok s ∧
            p' = mergingMy c p msg
              (CliqueMerger.periodTimeToMergeMyClique c p.schedule e.timeOfArrival) s) ∨
        (p.isOtherCliqueBetter msg.masterID = false ∧
          p' = mergingOther p msg
            (CliqueMerger.periodTimeToMergeOtherClique c p.schedule e.timeOfArrival))) := by
  unfold toMergerFromFisher initFromMsg at h
  obtain ⟨h_carries, h⟩ := require_bind_eq_ok.1 h
  obtain ⟨h_role, h⟩ := require_bind_eq_ok.1 h
  obtain ⟨h_mode, h⟩ := require_bind_eq_ok.1 h
  obtain ⟨-, h⟩ := require_bind_eq_ok.1 h
  refine ⟨h_role, h_mode, h_carries, ?_⟩
  obtain ⟨p₁, h_merge, rfl⟩ := bind_return_eq_ok.1 h
  split at h_merge
  · rename_i h_better
    obtain ⟨s, -, h_s, h_ne, h_p₁⟩ := initMergeMyClique_eq_ok h_merge
    exact Or.inl ⟨h_better, h_ne, s, h_s, h_p₁⟩
  · rename_i h_not
    obtain ⟨-, h_p₁⟩ := initMergeOtherClique_eq_ok h_merge
    exact Or.inr ⟨eq_false_of_ne_true h_not, h_p₁⟩

theorem toMergerFromFisher_eq_error (h : p.toMergerFromFisher c e msg = .error flt)
    (h_adj : flt.isAdjust = true) :
    p.isOtherCliqueBetter msg.masterID = true ∧
      p.schedule.adjustBySyncMsg msg e.timeOfArrival = .error flt := by
  unfold toMergerFromFisher initFromMsg at h
  rcases require_bind_eq_error.1 h with ⟨-, h_f⟩ | ⟨h_carries, h⟩
  · exact Fault.elim_isAdjust h_adj rfl h_f
  rcases require_bind_eq_error.1 h with ⟨-, h_f⟩ | ⟨-, h⟩
  · exact Fault.elim_isAdjust h_adj rfl h_f
  rcases require_bind_eq_error.1 h with ⟨-, h_f⟩ | ⟨-, h⟩
  · exact Fault.elim_isAdjust h_adj rfl h_f
  rcases require_bind_eq_error.1 h with ⟨-, h_f⟩ | ⟨-, h⟩
  · exact Fault.elim_isAdjust h_adj rfl h_f
  have h_merge := bind_return_eq_error.1 h
  split at h_merge
  · rename_i h_better
    have h_s := initMergeMyClique_eq_error h_carries h_merge h_adj
    exact ⟨h_better, h_s⟩
  · have h_t := bind_return_eq_error.1 h_merge
    exact Fault.elim_isAdjust h_adj rfl (periodTimeSet_eq_error h_t)

theorem checkCompletionOfMergerRole_eq_ok {b : Bool} :
    p.checkCompletionOfMergerRole = .ok (b, p') ↔
      p.countSentMergeSyncs ≤ Policy.countSyncsPerMerger ∧
        b = decide (Policy.countSyncsPerMerger ≤ p.countSentMergeSyncs) ∧
        p' = { p with countSentMergeSyncs := p.countSentMergeSyncs + 1 } := by
  unfold checkCompletionOfMergerRole
  simp only [require_bind_eq_ok, pure, Except.pure, Except.ok.injEq, Prod.mk.injEq,
    Nat.lt_succ_iff]
  refine and_congr_right fun _ => ⟨?_, ?_⟩
  · rintro ⟨rfl, rfl⟩
    exact ⟨rfl, rfl⟩
  · rintro ⟨rfl, rfl⟩
    exact ⟨rfl, rfl⟩

end Spec

end Protocol

end SleepSync
