/-
  SleepSync.Sender

  The messages a unit builds, each from its own state at the time it is sent.
-/

import SleepSync.Merger

namespace SleepSync

open Lib

namespace Protocol

variable (c : Config) (e : Env) (p : Protocol)

/-- `SyncOffset::calculate`: the latency is taken off by the sender. -/
def syncOffset : Nat :=
  c.tm.clampedSubtraction (p.schedule.deltaNowToNextSyncPoint c.tm e.now)
    (PhysicalParameters.sendLatency c.platform)

/-- `DeltaSync::set` on the offset of a message. -/
def setDeltaToNextSyncPoint (value : Nat) : Except Fault DeltaSync :=
  match DeltaSync.set value with
  | none => .error .deltaSyncRange
  | some d => .ok d

-- `MessageFactory`

def initSyncMessage (msgType : MessageType) (workPayload : Payload) :
    Except Fault SyncMessage := do
  require msgType.doesCarrySync .doesNotCarrySync
  let offset ← setDeltaToNextSyncPoint (p.syncOffset c e)
  return { type := msgType
           work := workPayload
           masterID := p.masterID
           deltaToNextSyncPoint := offset }

def initNonSyncMessage (msgType : MessageType) (workPayload : Payload) :
    Except Fault SyncMessage := do
  let offset ← setDeltaToNextSyncPoint 0
  return { type := msgType
           deltaToNextSyncPoint := offset
           masterID := p.masterID
           work := workPayload }

def initAbandonMastershipMessage : Except Fault SyncMessage :=
  p.initNonSyncMessage .abandonMastership 0

def initInfoMessage (workPayload : Payload) : Except Fault SyncMessage :=
  p.initNonSyncMessage .info workPayload

/-- `CliqueMerger::makeMergeMsg`.  The offset is to the unadjusted sync point,
    which is at most one period away. -/
def makeMergeMsg : Except Fault SyncMessage := do
  require p.cliqueMerger.isActive .mergerNotActive
  let offset ← setDeltaToNextSyncPoint
    (p.schedule.deltaNowToNextUnadjustedSyncPoint c.tm e.now)
  return { type := p.cliqueMerger.kindOfMerger
           deltaToNextSyncPoint := offset
           masterID := p.cliqueMerger.superiorMasterID
           work := BitVec.ofNat 8 p.cliqueMerger.inferiorMasterID }

-- `SyncSender`

def sendMasterSync : Except Fault SyncMessage :=
  p.initSyncMessage c e .masterSync (Granularity.getRaw p.granularity)

def sendWorkSync (work : Payload) : Except Fault SyncMessage :=
  p.initSyncMessage c e .workSync work

def sendControlSync : Except Fault SyncMessage :=
  p.initSyncMessage c e p.intraClique.repeater.messageType p.intraClique.repeater.aValue

inductive Transmission
  | masterSync
  | workSync (work : Payload)
  | controlSync
  | mergeSync
  | abandonMastership
  | info (work : Payload)
  deriving DecidableEq

/-- Each of the messages a unit can build. -/
def transmit : Transmission → Except Fault SyncMessage
  | .masterSync => p.sendMasterSync c e
  | .workSync work => p.sendWorkSync c e work
  | .controlSync => p.sendControlSync c e
  | .mergeSync => p.makeMergeMsg c e
  | .abandonMastership => p.initAbandonMastershipMessage
  | .info work => p.initInfoMessage work

-- ============================================================================
-- What a built message says
-- ============================================================================

section Spec

variable {c : Config} {e : Env} {p : Protocol} {msgType : MessageType} {work : Payload}
  {msg : SyncMessage}

theorem setDeltaToNextSyncPoint_eq_ok {value : Nat} {d : DeltaSync}
    (h : setDeltaToNextSyncPoint value = .ok d) : d.get = value := by
  unfold setDeltaToNextSyncPoint at h
  split at h
  · cases h
  · rename_i h_set
    cases h
    exact DeltaSync.set_eq_some.1 h_set

theorem setDeltaToNextSyncPoint_eq_error {value : Nat} {flt : Fault}
    (h : setDeltaToNextSyncPoint value = .error flt) :
    flt = .deltaSyncRange ∧ ScheduleParameters.normalSyncPeriodDuration < value := by
  unfold setDeltaToNextSyncPoint DeltaSync.set at h
  by_cases h_le : value ≤ ScheduleParameters.normalSyncPeriodDuration
  · rw [dif_pos h_le] at h
    cases h
  · rw [dif_neg h_le] at h
    cases h
    exact ⟨rfl, Nat.lt_of_not_le h_le⟩

theorem initSyncMessage_eq_ok (h : p.initSyncMessage c e msgType work = .ok msg) :
    msgType.doesCarrySync = true ∧ msg.type = msgType ∧ msg.masterID = p.masterID ∧
      msg.deltaToNextSyncPoint.get = p.syncOffset c e := by
  unfold initSyncMessage at h
  obtain ⟨h_carries, h⟩ := require_bind_eq_ok.1 h
  obtain ⟨d, h_d, rfl⟩ := bind_return_eq_ok.1 h
  exact ⟨h_carries, rfl, rfl, setDeltaToNextSyncPoint_eq_ok h_d⟩

/-- A sync message is not built for a type that does not carry sync, or where the
    sync point is more than a period away. -/
theorem initSyncMessage_eq_error {flt : Fault}
    (h : p.initSyncMessage c e msgType work = .error flt) :
    (flt = .doesNotCarrySync ∧ msgType.doesCarrySync = false) ∨
      (flt = .deltaSyncRange ∧
        ScheduleParameters.normalSyncPeriodDuration < p.syncOffset c e) := by
  unfold initSyncMessage at h
  rcases require_bind_eq_error.1 h with ⟨h_not, h_flt⟩ | ⟨-, h⟩
  · exact Or.inl ⟨h_flt, eq_false_of_ne_true h_not⟩
  · obtain ⟨h_flt, h_lt⟩ := setDeltaToNextSyncPoint_eq_error (bind_return_eq_error.1 h)
    exact Or.inr ⟨h_flt, h_lt⟩

/-- Of a type that carries sync, with the sync point in range, it is built. -/
theorem initSyncMessage_ok (work : Payload) (h_carries : msgType.doesCarrySync = true)
    (h_le : p.syncOffset c e ≤ ScheduleParameters.normalSyncPeriodDuration) :
    ∃ msg, p.initSyncMessage c e msgType work = .ok msg := by
  cases h : p.initSyncMessage c e msgType work with
  | ok msg => exact ⟨msg, rfl⟩
  | error flt =>
      rcases initSyncMessage_eq_error h with ⟨-, h_not⟩ | ⟨-, h_lt⟩
      · rw [h_not] at h_carries
        cases h_carries
      · exact absurd h_le (Nat.not_le_of_lt h_lt)

theorem initSyncMessage_work (h : p.initSyncMessage c e msgType work = .ok msg) :
    msg.work = work := by
  obtain ⟨-, h_rest⟩ := require_bind_eq_ok.1 h
  obtain ⟨d, -, rfl⟩ := bind_return_eq_ok.1 h_rest
  rfl

theorem initNonSyncMessage_eq_ok (h : p.initNonSyncMessage msgType work = .ok msg) :
    msg.type = msgType ∧ msg.masterID = p.masterID := by
  obtain ⟨d, -, rfl⟩ := bind_return_eq_ok.1 h
  exact ⟨rfl, rfl⟩

theorem makeMergeMsg_eq_ok (h : p.makeMergeMsg c e = .ok msg) :
    p.cliqueMerger.isActive = true ∧ msg.type = p.cliqueMerger.kindOfMerger ∧
      msg.masterID = p.cliqueMerger.superiorMasterID := by
  unfold makeMergeMsg at h
  obtain ⟨h_active, h⟩ := require_bind_eq_ok.1 h
  obtain ⟨d, -, rfl⟩ := bind_return_eq_ok.1 h
  exact ⟨h_active, rfl, rfl⟩

/-- A merge message is not built by a merger that is not active, or where the sync
    point is more than a period away. -/
theorem makeMergeMsg_eq_error {flt : Fault} (h : p.makeMergeMsg c e = .error flt) :
    (flt = .mergerNotActive ∧ p.cliqueMerger.isActive = false) ∨
      (flt = .deltaSyncRange ∧ ScheduleParameters.normalSyncPeriodDuration <
        p.schedule.deltaNowToNextUnadjustedSyncPoint c.tm e.now) := by
  unfold makeMergeMsg at h
  rcases require_bind_eq_error.1 h with ⟨h_not, h_flt⟩ | ⟨-, h⟩
  · exact Or.inl ⟨h_flt, eq_false_of_ne_true h_not⟩
  · obtain ⟨h_flt, h_lt⟩ := setDeltaToNextSyncPoint_eq_error (bind_return_eq_error.1 h)
    exact Or.inr ⟨h_flt, h_lt⟩

/-- A message that carries sync is from the clique of its sender, unless a
    merger's kind of message carries sync. -/
theorem transmit_masterID {t : Transmission}
    (h_kind : p.cliqueMerger.kindOfMerger.doesCarrySync = false)
    (h : p.transmit c e t = .ok msg) (h_carries : msg.type.doesCarrySync = true) :
    msg.masterID = p.masterID := by
  cases t with
  | masterSync => exact (initSyncMessage_eq_ok h).2.2.1
  | workSync work => exact (initSyncMessage_eq_ok h).2.2.1
  | controlSync => exact (initSyncMessage_eq_ok h).2.2.1
  | mergeSync =>
      obtain ⟨-, h_type, -⟩ := makeMergeMsg_eq_ok h
      rw [h_type, h_kind] at h_carries
      cases h_carries
  | abandonMastership => exact (initNonSyncMessage_eq_ok h).2
  | info work => exact (initNonSyncMessage_eq_ok h).2

end Spec

end Protocol

end SleepSync
