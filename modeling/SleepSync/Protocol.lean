/-
  SleepSync.Protocol

  The state that the messages, the slots and the app act on, and the part of
  the program that is about the clique: mastership and the comparison of
  cliques, the history of cliques, dropout and reversion, scatter, and the
  update by a heard sync message.

  The state is one record, since the program keeps it in statics that its
  modules reach for freely.  The random clock of the master's transmit policy
  is not in it: when it alarms is up to the environment.
-/

import SleepSync.Fishing
import SleepSync.IntraClique

namespace SleepSync

open Lib ScheduleParameters

inductive Role
  | merger
  | fisher
  | noFishing
  deriving DecidableEq

inductive SyncMode
  | maintain
  | syncOnly
  | syncAndFishMerge
  | syncAndProvision
  deriving DecidableEq

/-- Calls of the app's callbacks. -/
inductive AppCall
  | onSyncPoint
  | onWorkMsg (work : Payload)
  | workTimeControl (value : Nat)
  | workCycleControl (value : Nat)
  deriving DecidableEq

structure CliqueHistory where
  /-- `cliqueRecords[i].masterID`; the offsets in the records are never read -/
  cliqueRecords : List Nat
  currentCliqueIndex : Nat
  deriving DecidableEq

structure CliqueMerger where
  isActive : Bool
  /-- a `PeriodTime` -/
  periodTimeToMergeSlotStart : Nat
  superiorMasterID : Nat
  inferiorMasterID : Nat
  kindOfMerger : MessageType
  deriving DecidableEq

structure Protocol where
  schedule : Schedule
  masterID : Nat
  history : CliqueHistory
  /-- `DropoutMonitor` -/
  countSyncSlotsWithoutSyncMsg : Nat
  /-- `AdaptiveTransmitSyncPolicy` -/
  isAdvancedStage : Bool
  fishing : Fishing
  cliqueMerger : CliqueMerger
  /-- `MergePolicy` -/
  countSentMergeSyncs : Nat
  role : Role
  mode : SyncMode
  /-- `ProvisionManager` -/
  provisionCounter : Nat
  intraClique : IntraCliqueManager
  /-- `Granularity` -/
  granularity : NetGranularity
  xmitPower : TransmitPowerdBm
  /-- `WorkIn` -/
  heardWork : Bool
  countMergeSyncHeard : BitVec 8
  /-- calls made to the app, latest first -/
  appCalls : List AppCall
  deriving DecidableEq

-- ============================================================================
-- History of cliques
-- ============================================================================

namespace CliqueHistory

def recordCount : Nat := 6

variable (h : CliqueHistory)

/-- `cliqueRecords[i].masterID` -/
def recordMasterID (i : Nat) : Nat := h.cliqueRecords.getD i 0

/-- A full table drops the new clique. -/
def add (newMasterID : Nat) : CliqueHistory :=
  if h.currentCliqueIndex < recordCount - 1 then
    { currentCliqueIndex := h.currentCliqueIndex + 1
      cliqueRecords := h.cliqueRecords.set (h.currentCliqueIndex + 1) newMasterID }
  else
    h

def setCurrentCliqueRecordToFormerClique : Except Fault CliqueHistory := do
  require (0 < h.currentCliqueIndex) .noFormerClique
  return { h with currentCliqueIndex := h.currentCliqueIndex - 1 }

def isCurrentCliqueRecordSelf (c : Config) : Bool :=
  h.recordMasterID h.currentCliqueIndex = c.id

/-- The source reads record zero, whatever the current one is. -/
def currentCliqueRecordMasterID : Nat := h.recordMasterID 0

def offsetToCurrentClique : Nat := 1

def init (c : Config) : CliqueHistory where
  cliqueRecords := c.id :: List.replicate (recordCount - 1) 0
  currentCliqueIndex := 0

end CliqueHistory

namespace Protocol

variable (c : Config) (e : Env) (p : Protocol)

-- ============================================================================
-- Mastership
-- ============================================================================

/-- All units use the same comparison: the least ID is the better clique. -/
def isOtherCliqueBetter (otherMasterID : Nat) : Bool := otherMasterID < p.masterID

def isMsgFromMyClique (otherMasterID : Nat) : Bool := p.masterID = otherMasterID

def isSelfMaster : Bool := p.masterID = c.id

def isSelfSlave : Bool := !p.isSelfMaster c

def setSelfMastership : Protocol := { p with masterID := c.id }

def assumeMastership : Protocol := p.setSelfMastership c

def updateMastership (otherID : Nat) : Protocol :=
  if p.masterID ≠ otherID then
    { p with masterID := otherID, history := p.history.add otherID }
  else
    p

/-- Self is master again; the schedule is not changed. -/
def grabMastership : Except Fault Protocol := do
  let f ← p.fishing.restartTrollingMode
  return { p.setSelfMastership c with isAdvancedStage := false, fishing := f }

def scatterSync : Except Fault Protocol := do
  let p' ← p.grabMastership c
  let s ← p'.schedule.adjustWithRandomAddedTime e.randomOffset
  return { p' with schedule := s }

-- ============================================================================
-- Dropout of the master
-- ============================================================================

def revertToFormerMaster : Except Fault Protocol := do
  let p' := p.updateMastership p.history.currentCliqueRecordMasterID
  let s ← p'.schedule.adjustByCliqueHistoryOffset e.now CliqueHistory.offsetToCurrentClique
  let f ← p'.fishing.restartTrollingMode
  return { p' with schedule := s, fishing := f }

def revertByCliqueHistory : Except Fault Protocol := do
  let h ← p.history.setCurrentCliqueRecordToFormerClique
  let p' := { p with history := h }
  if h.isCurrentCliqueRecordSelf c then p'.grabMastership c else p'.revertToFormerMaster e

/-- `DropoutMonitor::isDropout` -/
def isDropout : Except Fault (Bool × Protocol) := do
  require (p.countSyncSlotsWithoutSyncMsg ≤ Policy.maxMissingSyncsPerDropout) .dropoutCount
  let count := p.countSyncSlotsWithoutSyncMsg + 1
  let result : Bool := Policy.maxMissingSyncsPerDropout < count
  return (result, { p with countSyncSlotsWithoutSyncMsg := if result then 0 else count })

def checkMasterDroppedOut : Except Fault Protocol := do
  let (dropout, p') ← p.isDropout
  if dropout then p'.revertByCliqueHistory c e else return p'

/-- Disarming the random clock of a master's policy has no state here. -/
def heardSync : Protocol := { p with countSyncSlotsWithoutSyncMsg := 0 }

-- ============================================================================
-- Update by a sync message
-- ============================================================================

def updateBySyncMessage (msg : SyncMessage) : Except Fault Protocol := do
  require msg.type.doesCarrySync .doesNotCarrySync
  let p' := { p.updateMastership msg.masterID with isAdvancedStage := true }
  let s ← p'.schedule.adjustBySyncMsg msg e.timeOfArrival
  return { p' with schedule := s }

-- ============================================================================
-- Transmit policy
-- ============================================================================

def shouldTransmitSync : Bool :=
  p.isSelfMaster c && (if p.isAdvancedStage then e.tickWithAlarm else e.syncCoinToss)

-- ============================================================================
-- What these functions can do
-- ============================================================================

section Spec

variable {c : Config} {e : Env} {p p' : Protocol} {msg : SyncMessage} {flt : Fault}

/-- The history after `otherID` became the master. -/
def historyWith (p : Protocol) (otherID : Nat) : CliqueHistory :=
  if p.masterID ≠ otherID then p.history.add otherID else p.history

theorem updateMastership_eq (p : Protocol) (otherID : Nat) :
    p.updateMastership otherID =
      { p with masterID := otherID, history := p.historyWith otherID } := by
  unfold updateMastership historyWith
  by_cases h : p.masterID ≠ otherID
  · rw [if_pos h, if_pos h]
  · rw [if_neg h, if_neg h]
    have h_eq : p.masterID = otherID := not_not.1 h
    rw [← h_eq]

theorem grabMastership_eq_ok :
    p.grabMastership c = .ok p' ↔
      ∃ f, p.fishing.restartTrollingMode = .ok f ∧
        p' = { p with masterID := c.id, isAdvancedStage := false, fishing := f } :=
  bind_return_eq_ok

theorem grabMastership_eq_error (h : p.grabMastership c = .error flt) :
    flt = .fishSessionRange :=
  Fishing.restartTrollingMode_eq_error (bind_return_eq_error.1 h)

theorem scatterSync_eq_ok :
    p.scatterSync c e = .ok p' ↔
      ∃ f s, p.fishing.restartTrollingMode = .ok f ∧
        p.schedule.adjustWithRandomAddedTime e.randomOffset = .ok s ∧
        p' = { p with
          masterID := c.id, isAdvancedStage := false, fishing := f, schedule := s } := by
  unfold scatterSync
  rw [bind_eq_ok]
  refine ⟨?_, ?_⟩
  · rintro ⟨p₁, h_grab, h_rest⟩
    obtain ⟨f, h_f, rfl⟩ := grabMastership_eq_ok.1 h_grab
    obtain ⟨s, h_s, h_p'⟩ := bind_return_eq_ok.1 h_rest
    exact ⟨f, s, h_f, h_s, h_p'⟩
  · rintro ⟨f, s, h_f, h_s, h_p'⟩
    exact ⟨_, grabMastership_eq_ok.2 ⟨f, h_f, rfl⟩, bind_return_eq_ok.2 ⟨s, h_s, h_p'⟩⟩

theorem scatterSync_eq_error (h : p.scatterSync c e = .error flt) :
    flt = .fishSessionRange ∨
      p.schedule.adjustWithRandomAddedTime e.randomOffset = .error flt := by
  unfold scatterSync at h
  rcases bind_eq_error.1 h with h_grab | ⟨p₁, h_grab, h_rest⟩
  · exact Or.inl (grabMastership_eq_error h_grab)
  · obtain ⟨f, -, rfl⟩ := grabMastership_eq_ok.1 h_grab
    exact Or.inr (bind_return_eq_error.1 h_rest)

theorem revertToFormerMaster_eq_ok :
    p.revertToFormerMaster e = .ok p' ↔
      ∃ s f, p.schedule.adjustByCliqueHistoryOffset e.now
          CliqueHistory.offsetToCurrentClique = .ok s ∧
        p.fishing.restartTrollingMode = .ok f ∧
        p' = { p with
          masterID := p.history.currentCliqueRecordMasterID
          history := p.historyWith p.history.currentCliqueRecordMasterID
          schedule := s, fishing := f } := by
  unfold revertToFormerMaster
  rw [updateMastership_eq]
  dsimp only
  rw [bind_eq_ok]
  refine ⟨?_, ?_⟩
  · rintro ⟨s, h_s, h_rest⟩
    obtain ⟨f, h_f, h_p'⟩ := bind_return_eq_ok.1 h_rest
    exact ⟨s, f, h_s, h_f, h_p'⟩
  · rintro ⟨s, f, h_s, h_f, h_p'⟩
    exact ⟨s, h_s, bind_return_eq_ok.2 ⟨f, h_f, h_p'⟩⟩

theorem revertToFormerMaster_eq_error (h : p.revertToFormerMaster e = .error flt) :
    flt = .fishSessionRange ∨
      p.schedule.adjustByCliqueHistoryOffset e.now
        CliqueHistory.offsetToCurrentClique = .error flt := by
  unfold revertToFormerMaster at h
  rw [updateMastership_eq] at h
  dsimp only at h
  rcases bind_eq_error.1 h with h_adj | ⟨s, -, h_rest⟩
  · exact Or.inr h_adj
  · exact Or.inl (Fishing.restartTrollingMode_eq_error (bind_return_eq_error.1 h_rest))

theorem isDropout_eq_ok {b : Bool} :
    p.isDropout = .ok (b, p') ↔
      p.countSyncSlotsWithoutSyncMsg ≤ Policy.maxMissingSyncsPerDropout ∧
        b = decide (Policy.maxMissingSyncsPerDropout ≤ p.countSyncSlotsWithoutSyncMsg) ∧
        p' = { p with countSyncSlotsWithoutSyncMsg :=
          if b then 0 else p.countSyncSlotsWithoutSyncMsg + 1 } := by
  unfold isDropout
  simp only [require_bind_eq_ok, pure, Except.pure, Except.ok.injEq, Prod.mk.injEq,
    Nat.lt_succ_iff]
  refine and_congr_right fun _ => ⟨?_, ?_⟩
  · rintro ⟨rfl, rfl⟩
    exact ⟨rfl, rfl⟩
  · rintro ⟨rfl, rfl⟩
    exact ⟨rfl, rfl⟩

/-- The state of a unit in the clique of `msg`, with the schedule adjusted to
    `s`. -/
def joining (p : Protocol) (msg : SyncMessage) (s : Schedule) : Protocol :=
  { p with
    masterID := msg.masterID
    history := p.historyWith msg.masterID
    isAdvancedStage := true
    schedule := s }

theorem updateBySyncMessage_eq_ok :
    p.updateBySyncMessage e msg = .ok p' ↔
      msg.type.doesCarrySync = true ∧
        ∃ s, p.schedule.adjustBySyncMsg msg e.timeOfArrival = .ok s ∧
          p' = p.joining msg s := by
  unfold updateBySyncMessage
  rw [updateMastership_eq, require_bind_eq_ok]
  exact and_congr_right fun _ => bind_return_eq_ok

theorem updateBySyncMessage_eq_error (h_carries : msg.type.doesCarrySync = true)
    (h : p.updateBySyncMessage e msg = .error flt) :
    p.schedule.adjustBySyncMsg msg e.timeOfArrival = .error flt := by
  unfold updateBySyncMessage at h
  rw [updateMastership_eq] at h
  rcases require_bind_eq_error.1 h with ⟨h_not, -⟩ | ⟨-, h_rest⟩
  · exact absurd h_carries h_not
  · exact bind_return_eq_error.1 h_rest

end Spec

end Protocol

end SleepSync
