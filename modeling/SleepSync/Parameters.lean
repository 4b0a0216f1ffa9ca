/-
  SleepSync.Parameters

  The constants of the build: `PhysicalParameters`, `ScheduleParameters`,
  `FishingParameters` and `Policy`.  Two of them differ between the two radio
  platforms a unit can be built for, so everything derived from the send
  latency takes the platform.

  Times (`LongTime`, readings of the unit's own clock, which the program treats
  as having infinite duration), durations (`DeltaTime`, both in ticks), slot and
  event counts and system IDs are natural numbers here.  Where the source
  subtracts two times with the bare unsigned operator, `LongTime.sub` keeps its
  wrap-around.
-/

import Mathlib.Algebra.Group.Nat.Defs
import Mathlib.Tactic.Common

namespace SleepSync

abbrev Payload := BitVec 8

/-- `later - earlier` on 64-bit unsigned times, without a check of the order. -/
def LongTime.sub (later earlier : Nat) : Nat :=
  if earlier ≤ later then later - earlier else later + 2 ^ 64 - earlier

theorem LongTime.sub_of_le {later earlier : Nat} (h : earlier ≤ later) :
    LongTime.sub later earlier = later - earlier :=
  if_pos h

/-- The radio chip the unit is built for. -/
inductive Platform
  | nrf51
  | nrf52
  deriving DecidableEq

namespace PhysicalParameters

/-- The delay between the time the sender fetches the offset and the time of
    arrival of the message. -/
def sendLatency : Platform → Nat
  | .nrf52 => 4
  | .nrf51 => 10

/-- Used by a receiver, which does not know the latency of the sender. -/
def guessedSendLatency : Nat := 10

def msgOverTheAirTimeInTicks : Nat := 2

theorem sendLatency_le (p : Platform) : sendLatency p ≤ 10 := by
  cases p <;> decide

end PhysicalParameters

namespace ScheduleParameters

open PhysicalParameters

def virtualSlotDuration : Nat := 50
def dutyCycleInverse : Nat := 800
def halfSlotDuration : Nat := virtualSlotDuration / 2
def threeSlotDuration : Nat := virtualSlotDuration * 3
/-- The source multiplies by three here too. -/
def twoSlotDuration : Nat := virtualSlotDuration * 3
def firstSleepingSlotOrdinal : Nat := 2
def countActiveSlots : Nat := 2
def countSlots : Nat := countActiveSlots * dutyCycleInverse

/-- The wait for the high frequency oscillator is one virtual slot. -/
def hfxoStartup : Nat := virtualSlotDuration

/-- From the time to wake up to the end of a transmission made right after. -/
def preflightDelta (p : Platform) : Nat := hfxoStartup + sendLatency p

/-- To send one message, with the radio prelude done. -/
def sendDuration (p : Platform) : Nat := msgOverTheAirTimeInTicks + sendLatency p

def normalSyncPeriodDuration : Nat := countSlots * virtualSlotDuration

/-- The middle of a sync slot whose start includes a wait for the oscillator. -/
def deltaSyncPointToSyncSlotMiddle (p : Platform) : Nat :=
  halfSlotDuration + hfxoStartup - sendLatency p

def deltaSyncSlotStartToSyncSlotXmit (p : Platform) : Nat :=
  halfSlotDuration - sendLatency p

end ScheduleParameters

namespace FishingParameters

open ScheduleParameters

def minSlotsTrollingFishedPerPeriod : Nat := 1
def lastSlotOrdinalShouldFish : Nat := countSlots
def firstSlotOrdinalToFish : Nat := firstSleepingSlotOrdinal
def deepFishSessionDurationTicks : Nat := virtualSlotDuration
def minTrollingFishSessionDurationTicks : Nat :=
  minSlotsTrollingFishedPerPeriod * virtualSlotDuration
def maxTrollingRealFishSessionDurationSlots : Nat := 100
def countFishingsPerDeepFishing : Nat := 6
def durationTilTwoSlotsFromEndSyncPeriod : Nat :=
  normalSyncPeriodDuration - 2 * virtualSlotDuration

end FishingParameters

namespace Policy

def countRepeatsPerControlSync : Nat := 4
def countSyncsPerMerger : Nat := 6
def maxMissingSyncsPerDropout : Nat := 80

end Policy

-- ============================================================================
-- Values
-- ============================================================================

/-! The arithmetic of the development is about these numbers; a proof rewrites
    the names away and leaves the rest to `omega`. -/

section Values

open PhysicalParameters ScheduleParameters FishingParameters

@[simp] theorem virtualSlotDuration_eq : virtualSlotDuration = 50 := rfl
@[simp] theorem halfSlotDuration_eq : halfSlotDuration = 25 := rfl
@[simp] theorem threeSlotDuration_eq : threeSlotDuration = 150 := rfl
@[simp] theorem twoSlotDuration_eq : twoSlotDuration = 150 := rfl
@[simp] theorem normalSyncPeriodDuration_eq : normalSyncPeriodDuration = 80000 := rfl
@[simp] theorem guessedSendLatency_eq : guessedSendLatency = 10 := rfl
@[simp] theorem deltaSyncPointToSyncSlotMiddle_eq (p : Platform) :
    deltaSyncPointToSyncSlotMiddle p = 75 - sendLatency p := rfl

@[simp] theorem deltaSyncSlotStartToSyncSlotXmit_eq (p : Platform) :
    deltaSyncSlotStartToSyncSlotXmit p = 25 - sendLatency p := rfl

@[simp] theorem firstSlotOrdinalToFish_eq : firstSlotOrdinalToFish = 2 := rfl
@[simp] theorem lastSlotOrdinalShouldFish_eq : lastSlotOrdinalShouldFish = 1600 := rfl
end Values

end SleepSync
