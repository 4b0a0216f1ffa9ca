/-
  SleepSync.Environment

  What the agent is built on and runs in: the assertions it can stop at, the
  time arithmetic of the libraries below it, the build configuration of a unit,
  and what the outside decides at each event (clock, radio, coin tosses, power,
  mail).

  The time arithmetic is not in the repository.  `TimeMath` takes it as
  functions with their documented behaviour as named laws: a difference is
  exact where it fits its 32-bit type, clamped at zero where the order is
  reversed, and `deltaSubtraction` asserts the order of its arguments.
-/

import SleepSync.Lib.Outcome
import SleepSync.Message

namespace SleepSync

open ScheduleParameters

/-- The assertions of the protocol, one constructor for each condition; those of
    the tasks are in `TaskFault`. -/
inductive Fault
  /-- `DeltaSync::set` -/
  | deltaSyncRange
  /-- `PeriodTime::set` -/
  | periodTimeRange
  /-- `Schedule::adjust`: end time never advances backward -/
  | endTimeBackward
  /-- `Schedule::adjust`: end time never jumps too far forward -/
  | endTimeTooFar
  /-- `Schedule::adjustedSyncPeriodEndTimeFromMsg` -/
  | endTimeFromMsgTooFar
  /-- `DropoutMonitor::isDropout` -/
  | dropoutCount
  /-- `CliqueHistory::setCurrentCliqueRecordToFormerClique` -/
  | noFormerClique
  /-- a message of a type that does not carry sync -/
  | doesNotCarrySync
  /-- `initMergeMyClique`: self is master after joining the other clique -/
  | stillSelfMaster
  /-- `CliqueMerger::initFromMsg`: fishing mode is not trolling -/
  | mergeFromDeep
  /-- `CliqueMerger::makeMergeMsg` -/
  | mergerNotActive
  /-- `MergerFisherRole::toMerger` -/
  | notFisher
  /-- `MergeSchedule::timeOfThisMergeStart` -/
  | mergeStartTooLate
  /-- `MergePolicy::checkCompletionOfMergerRole` -/
  | mergePolicyNotRestarted
  /-- `setSessionForStartSlot` -/
  | fishSessionRange
  /-- `DeepFishingPolicy::checkDone` -/
  | noDoneCallback
  /-- `SendRepeater::checkDoneAndEnactControl` -/
  | repeaterNotActive
  /-- callbacks of the repeater that require self to be master -/
  | notSelfMaster
  /-- callbacks of the repeater that require self to be slave -/
  | notSelfSlave
  /-- `mangleProvisionedValue` on an unknown property -/
  | unknownProperty
  deriving DecidableEq

/-- The assertions of `Schedule::adjust` and of the functions that compute what
    to adjust to. -/
def Fault.isAdjust : Fault → Bool
  | .endTimeBackward | .endTimeTooFar | .endTimeFromMsgTooFar => true
  | _ => false

theorem Fault.elim_isAdjust {flt f : Fault} {q : Prop} (h_adj : flt.isAdjust = true)
    (h_f : f.isAdjust = false) (h_eq : flt = f) : q := by
  rw [h_eq, h_f] at h_adj
  cases h_adj

/-- Time arithmetic of the libraries the agent is linked with. -/
structure TimeMath where
  clampedTimeDifference : Nat → Nat → Nat
  clampedSubtraction : Nat → Nat → Nat
  deltaSubtraction : Nat → Nat → Option Nat
  clampedTimeDifference_of_le : ∀ {later earlier}, earlier ≤ later →
    later - earlier < 2 ^ 32 → clampedTimeDifference later earlier = later - earlier
  clampedTimeDifference_of_past : ∀ {later earlier}, later ≤ earlier →
    clampedTimeDifference later earlier = 0
  clampedSubtraction_eq : ∀ a b, clampedSubtraction a b = a - b
  deltaSubtraction_of_le : ∀ {a b}, b ≤ a → deltaSubtraction a b = some (a - b)
  deltaSubtraction_of_lt : ∀ {a b}, a < b → deltaSubtraction a b = none

namespace TimeMath

variable (tm : TimeMath)

/-- `ClockDuration::clampedTimeDifferenceFromNow` -/
def clampedTimeDifferenceFromNow (now future : Nat) : Nat :=
  tm.clampedTimeDifference future now

/-- `ClockDuration::clampedTimeDifferenceToNow` -/
def clampedTimeDifferenceToNow (now past : Nat) : Nat :=
  tm.clampedTimeDifference now past

theorem fromNow_of_past {now future : Nat} (h : future ≤ now) :
    tm.clampedTimeDifferenceFromNow now future = 0 :=
  tm.clampedTimeDifference_of_past h

/-- Whatever the order, a difference that fits is the truncated one. -/
theorem clampedTimeDifference_eq {later earlier : Nat}
    (h_fit : later - earlier < 2 ^ 32) :
    tm.clampedTimeDifference later earlier = later - earlier := by
  rcases Nat.le_total earlier later with h | h
  · exact tm.clampedTimeDifference_of_le h h_fit
  · rw [tm.clampedTimeDifference_of_past h, Nat.sub_eq_zero_of_le h]

theorem fromNow_eq {now future : Nat} (h_fit : future - now < 2 ^ 32) :
    tm.clampedTimeDifferenceFromNow now future = future - now :=
  tm.clampedTimeDifference_eq h_fit

theorem deltaSubtraction_eq_some {a b d : Nat} :
    tm.deltaSubtraction a b = some d ↔ b ≤ a ∧ d = a - b := by
  rcases Nat.lt_or_ge a b with h | h
  · rw [tm.deltaSubtraction_of_lt h]
    simp only [reduceCtorEq, false_iff]
    omega
  · rw [tm.deltaSubtraction_of_le h, Option.some_inj]
    omega

/-- Arithmetic that satisfies the laws, with differences clamped to the largest
    32-bit value as well. -/
def reference : TimeMath where
  clampedTimeDifference later earlier := min (later - earlier) (2 ^ 32 - 1)
  clampedSubtraction a b := a - b
  deltaSubtraction a b := if b ≤ a then some (a - b) else none
  clampedTimeDifference_of_le := by
    intro later earlier _ h_fit
    exact Nat.min_eq_left (by omega)
  clampedTimeDifference_of_past := by
    intro later earlier h
    rw [Nat.sub_eq_zero_of_le h, Nat.zero_min]
  clampedSubtraction_eq _ _ := rfl
  deltaSubtraction_of_le h := if_pos h
  deltaSubtraction_of_lt h := if_neg (Nat.not_le_of_lt h)

end TimeMath

/-- What is fixed when a unit is built. -/
structure Config where
  /-- `System::ID()` -/
  id : Nat
  platform : Platform
  /-- `SOFTDEVICE_PRESENT` -/
  softdevicePresent : Bool
  tm : TimeMath
  /-- set by the app with `WorkProvisioner::setConverterFunc` -/
  elapsedToAdvanceConverterFunc : Nat → Nat

/-- What the outside decides during one event. -/
structure Env where
  /-- `LongClock::nowTime()` -/
  now : Nat
  /-- `Radio::timeOfArrival()` of the message being handled -/
  timeOfArrival : Nat
  /-- `Random::unsignedInt(0, NormalSyncPeriodDuration)` -/
  randomOffset : DeltaSync
  /-- the coin of `AdaptiveTransmitSyncPolicy` -/
  syncCoinToss : Bool
  /-- `RandomAlarmingCircularClock::tickWithAlarm` -/
  tickWithAlarm : Bool
  /-- the coin of `SendRepeater` -/
  repeaterCoinToss : Bool
  /-- the coin of `MergePolicy` -/
  mergeCoinToss : Bool
  /-- the outgoing work mailbox, if it has mail -/
  mail : Option Payload
  isPowerAboveUltraLow : Bool
  isPowerAboveMedium : Bool
  /-- `Vcc::measure() >= Result2_7V` -/
  isVccAbove2_7V : Bool
  /-- `Provisioner::start()` answered `BLEStartedOK` -/
  isBLEStartedOK : Bool

namespace Env

variable (e : Env)

/-! `SyncPowerManager` with sync prioritised over fishing over work. -/

def isPowerForFishMode : Bool := e.isPowerAboveMedium
def isPowerForFishSlot : Bool := e.isPowerAboveMedium
def isPowerForSyncMode : Bool := e.isPowerAboveUltraLow

/-- An event at which nothing outside happens but the time. -/
def quiet (now : Nat) : Env where
  now := now
  timeOfArrival := now
  randomOffset := ⟨0, Nat.zero_le _⟩
  syncCoinToss := false
  tickWithAlarm := false
  repeaterCoinToss := false
  mergeCoinToss := false
  mail := none
  isPowerAboveUltraLow := true
  isPowerAboveMedium := true
  isVccAbove2_7V := false
  isBLEStartedOK := false

end Env

end SleepSync
