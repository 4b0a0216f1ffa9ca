/-
  SleepSync.Fishing

  Fishing for other cliques in the normally sleeping slots: the session
  duration and its power manager, the trolling policy with its two counters,
  the deep fishing policy, the manager that delegates to the policy of the
  current mode, and the memoized start and end of this period's session.
-/

import SleepSync.Schedule

namespace SleepSync

open Lib ScheduleParameters FishingParameters

inductive FishingMode
  | trolling
  | deepFishing
  deriving DecidableEq

/-- The callbacks an episode of deep fishing can end with. -/
inductive DeepFishingCallback
  | endWithNoAction
  | endWithRecoverMaster
  deriving DecidableEq

structure SlottedFishSession where
  durationInTicks : Nat
  durationInSlots : Nat
  deriving DecidableEq

structure TrollingPolicy where
  upCounter : Nat
  downCounter : Nat
  currentStartSlotOrdinal : Nat
  currentEndSlotOrdinal : Nat
  /-- the next session is taken from the up counter -/
  direction : Bool
  deriving DecidableEq

structure DeepFishingPolicy where
  countFishings : Nat
  deltaSyncPointToSyncPointOfFishee : Nat
  fishPolicyDoneCallback : Option DeepFishingCallback
  deriving DecidableEq

structure Fishing where
  mode : FishingMode
  session : SlottedFishSession
  isMaxFishing : Bool
  troll : TrollingPolicy
  deep : DeepFishingPolicy
  memoStartTimeOfFishSlot : Nat
  memoEndTimeOfFishSlot : Nat
  deriving DecidableEq

-- ============================================================================
-- Trolling
-- ============================================================================

namespace TrollingPolicy

def getInitialUpCounter : Nat := firstSlotOrdinalToFish

def getInitialDownCounter (durationInSlots : Nat) : Nat :=
  lastSlotOrdinalShouldFish - durationInSlots + 1

/-- The up counter may skip slots at the end of the period. -/
def incrementCounterModuloSleepingSlots (durationInSlots counter : Nat) : Nat :=
  if lastSlotOrdinalShouldFish < counter + durationInSlots + durationInSlots then
    getInitialUpCounter
  else
    counter + durationInSlots

/-- The down counter may skip slots at the beginning. -/
def decrementCounterModuloSleepingSlots (durationInSlots counter : Nat) : Nat :=
  if counter < firstSlotOrdinalToFish + durationInSlots then
    getInitialDownCounter durationInSlots
  else
    counter - durationInSlots

variable (t : TrollingPolicy)

def isInRange : Bool :=
  firstSlotOrdinalToFish ≤ t.currentStartSlotOrdinal ∧
    t.currentEndSlotOrdinal ≤ lastSlotOrdinalShouldFish

def setSessionForStartSlot (durationInSlots startSlot : Nat) :
    Except Fault TrollingPolicy := do
  let t' := { t with
    currentStartSlotOrdinal := startSlot
    currentEndSlotOrdinal := startSlot + durationInSlots - 1 }
  require t'.isInRange .fishSessionRange
  return t'

def restart (durationInSlots : Nat) : Except Fault TrollingPolicy := do
  let t' ← { t with
    upCounter := getInitialUpCounter
    downCounter := getInitialDownCounter durationInSlots }.setSessionForStartSlot
      durationInSlots getInitialUpCounter
  return { t' with direction := true }

def proceedToNextFishSlotOrdinal (durationInSlots : Nat) : Except Fault TrollingPolicy :=
  if t.direction then
    let next := incrementCounterModuloSleepingSlots durationInSlots t.upCounter
    { t with upCounter := next, direction := !t.direction }.setSessionForStartSlot
      durationInSlots next
  else
    let next := decrementCounterModuloSleepingSlots durationInSlots t.downCounter
    { t with downCounter := next, direction := !t.direction }.setSessionForStartSlot
      durationInSlots next

def getStartTimeToFish (s : Schedule) : Nat :=
  s.startTimeOfSyncPeriod + (t.currentStartSlotOrdinal - 1) * virtualSlotDuration

def isFishSessionNearStartSyncPeriod : Bool :=
  -- covers the first sleeping slot, or abuts it
  t.currentStartSlotOrdinal = firstSlotOrdinalToFish ∨
    t.currentStartSlotOrdinal = firstSlotOrdinalToFish + 1

def isFishSessionNearEndSyncPeriod : Bool :=
  -- covers the last sleeping slot, or abuts it
  lastSlotOrdinalShouldFish ≤ t.currentEndSlotOrdinal ∨
    t.currentEndSlotOrdinal = lastSlotOrdinalShouldFish - 1

end TrollingPolicy

-- ============================================================================
-- Deep fishing
-- ============================================================================

namespace DeepFishingPolicy

variable (d : DeepFishingPolicy)

def restart (aDeltaToSyncPointOfFish : Nat) (aCallback : DeepFishingCallback) :
    DeepFishingPolicy where
  countFishings := 0
  deltaSyncPointToSyncPointOfFishee := aDeltaToSyncPointOfFish
  fishPolicyDoneCallback := some aCallback

/-- Asking for the start time counts one fishing. -/
def getStartTimeToFish (s : Schedule) : Nat × DeepFishingPolicy :=
  (s.startTimeOfSyncPeriod + d.deltaSyncPointToSyncPointOfFishee,
    { d with countFishings := d.countFishings + 1 })

/-- The callback to call, if the episode is over. -/
def checkDone : Except Fault (Option DeepFishingCallback) :=
  if countFishingsPerDeepFishing < d.countFishings then
    match d.fishPolicyDoneCallback with
    | none => .error .noDoneCallback
    | some callback => .ok (some callback)
  else
    .ok none

def deltaSyncPointToEndDeepFishing : Nat :=
  d.deltaSyncPointToSyncPointOfFishee + deepFishSessionDurationTicks

def isFishSlotStartSyncPeriod : Bool :=
  d.deltaSyncPointToSyncPointOfFishee < threeSlotDuration

def isFishSlotEndSyncPeriod : Bool :=
  d.deltaSyncPointToEndDeepFishing < durationTilTwoSlotsFromEndSyncPeriod

end DeepFishingPolicy

-- ============================================================================
-- The manager, the schedule of this period's session, and power
-- ============================================================================

namespace Fishing

variable (f : Fishing)

/-- Restarts only on the first of several merge messages. -/
def switchToDeepFishing (deltaToSyncPointOfFish : Nat) (aCallback : DeepFishingCallback) :
    Fishing :=
  if f.mode ≠ .deepFishing then
    { f with
      mode := .deepFishing
      deep := DeepFishingPolicy.restart deltaToSyncPointOfFish aCallback }
  else
    f

def switchToTrolling : Fishing := { f with mode := .trolling }

def restartTrollingMode : Except Fault Fishing := do
  let t ← f.troll.restart f.session.durationInSlots
  return { f with troll := t }

def preFishing : Except Fault Fishing :=
  match f.mode with
  | .trolling => do
      let t ← f.troll.proceedToNextFishSlotOrdinal f.session.durationInSlots
      return { f with troll := t }
  | .deepFishing => .ok f

def getStartTimeToFish (s : Schedule) : Nat × Fishing :=
  match f.mode with
  | .trolling => (f.troll.getStartTimeToFish s, f)
  | .deepFishing =>
      let (result, d) := f.deep.getStartTimeToFish s
      (result, { f with deep := d })

def getFishSessionDurationTicks : Nat :=
  match f.mode with
  | .trolling => f.session.durationInTicks
  | .deepFishing => deepFishSessionDurationTicks

def isFishSlotStartSyncPeriod : Bool :=
  match f.mode with
  | .trolling => f.troll.isFishSessionNearStartSyncPeriod
  | .deepFishing => f.deep.isFishSlotStartSyncPeriod

def isFishSlotEndSyncPeriod : Bool :=
  match f.mode with
  | .trolling => f.troll.isFishSessionNearEndSyncPeriod
  | .deepFishing => f.deep.isFishSlotEndSyncPeriod

/-- `FishSchedule::setStartAndEndTimes`: both marks are clamped to the period,
    the end from the clamped start. -/
def setStartAndEndTimes (s : Schedule) : Fishing :=
  let (scheduledStartTime, f') := f.getStartTimeToFish s
  let start := s.clampTimeBeforeLatestSlotMark scheduledStartTime
  { f' with
    memoStartTimeOfFishSlot := start
    memoEndTimeOfFishSlot :=
      s.clampTimeBeforeLatestSlotMark (start + f'.getFishSessionDurationTicks) }

def deltaToFishSessionStart (tm : TimeMath) (now : Nat) : Nat :=
  tm.clampedTimeDifferenceFromNow now f.memoStartTimeOfFishSlot

/-- Restarts trolling, except where the session would become too long. -/
def incrementFishSessionDuration (increment : Nat) : Except Fault Fishing :=
  let trialResult := f.session.durationInSlots + increment
  if maxTrollingRealFishSessionDurationSlots < trialResult then
    .ok f
  else
    { f with session :=
      { durationInSlots := trialResult
        durationInTicks := trialResult * minTrollingFishSessionDurationTicks }
    }.restartTrollingMode

/-- Does not restart trolling. -/
def setDurationToMinDuration : Fishing :=
  { f with session :=
    { durationInSlots := 1
      durationInTicks := minTrollingFishSessionDurationTicks } }

/-- `FishPowerMgr::manage` -/
def manage (isVccAbove2_7V : Bool) : Except Fault Fishing :=
  if isVccAbove2_7V then
    if f.isMaxFishing then
      .ok f
    else do
      let f' ← f.incrementFishSessionDuration 20
      return { f' with isMaxFishing := true }
  else
    .ok { f.setDurationToMinDuration with isMaxFishing := false }

/-- The state the loader leaves. -/
def initial : Fishing where
  mode := .trolling
  session :=
    { durationInTicks := minTrollingFishSessionDurationTicks
      durationInSlots := 1 }
  isMaxFishing := false
  troll :=
    { upCounter := firstSlotOrdinalToFish
      downCounter := lastSlotOrdinalShouldFish
      currentStartSlotOrdinal := firstSlotOrdinalToFish
      currentEndSlotOrdinal := firstSlotOrdinalToFish
      direction := true }
  deep :=
    { countFishings := 0
      deltaSyncPointToSyncPointOfFishee := 0
      fishPolicyDoneCallback := none }
  memoStartTimeOfFishSlot := 0
  memoEndTimeOfFishSlot := 0

-- ============================================================================
-- What trolling can do
-- ============================================================================

end Fishing

namespace TrollingPolicy

variable {t t' : TrollingPolicy} {d start : Nat}

theorem isInRange_iff : t.isInRange = true ↔
    firstSlotOrdinalToFish ≤ t.currentStartSlotOrdinal ∧
      t.currentEndSlotOrdinal ≤ lastSlotOrdinalShouldFish :=
  decide_eq_true_iff

/-- A session is set where it is in range, and nothing else is changed. -/
theorem setSessionForStartSlot_eq_ok :
    t.setSessionForStartSlot d start = .ok t' ↔
      (firstSlotOrdinalToFish ≤ start ∧ start + d - 1 ≤ lastSlotOrdinalShouldFish) ∧
        t' = { t with
          currentStartSlotOrdinal := start
          currentEndSlotOrdinal := start + d - 1 } := by
  unfold setSessionForStartSlot
  simp only [require_bind_eq_ok, isInRange_iff, pure, Except.pure, Except.ok.injEq]
  exact and_congr_right fun _ => ⟨Eq.symm, Eq.symm⟩

theorem setSessionForStartSlot_eq_error {f : Fault}
    (h : t.setSessionForStartSlot d start = .error f) : f = .fishSessionRange := by
  unfold setSessionForStartSlot at h
  rcases require_bind_eq_error.1 h with ⟨-, h_f⟩ | ⟨-, h_pure⟩
  · exact h_f
  · cases h_pure

theorem restart_eq_error {f : Fault} (h : t.restart d = .error f) : f = .fishSessionRange := by
  exact setSessionForStartSlot_eq_error (bind_return_eq_error.1 h)

theorem proceedToNextFishSlotOrdinal_eq_error {f : Fault}
    (h : t.proceedToNextFishSlotOrdinal d = .error f) : f = .fishSessionRange := by
  unfold proceedToNextFishSlotOrdinal at h
  split at h <;> exact setSessionForStartSlot_eq_error h

end TrollingPolicy

namespace Fishing

variable {f f' : Fishing} {flt : Fault}

theorem restartTrollingMode_eq_ok :
    f.restartTrollingMode = .ok f' ↔
      ∃ t, f.troll.restart f.session.durationInSlots = .ok t ∧ f' = { f with troll := t } := by
  exact bind_return_eq_ok

theorem restartTrollingMode_eq_error (h : f.restartTrollingMode = .error flt) :
    flt = .fishSessionRange := by
  exact TrollingPolicy.restart_eq_error (bind_return_eq_error.1 h)

theorem preFishing_eq_error (h : f.preFishing = .error flt) : flt = .fishSessionRange := by
  unfold preFishing at h
  split at h
  · exact TrollingPolicy.proceedToNextFishSlotOrdinal_eq_error (bind_return_eq_error.1 h)
  · cases h

theorem manage_eq_error {vcc : Bool} (h : f.manage vcc = .error flt) :
    flt = .fishSessionRange := by
  unfold manage at h
  split at h
  · split at h
    · cases h
    · have h_incr := bind_return_eq_error.1 h
      unfold incrementFishSessionDuration at h_incr
      dsimp only at h_incr
      split at h_incr
      · cases h_incr
      · exact restartTrollingMode_eq_error h_incr
  · cases h

end Fishing

end SleepSync
