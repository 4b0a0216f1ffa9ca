/-
  SleepSync.Message

  The message a unit sends and receives: its types with their two encodings
  (the enumeration value the sender casts, and the switch the receiver reads
  it with), and its fields.

  The signal strength field is left out: it travels only in builds with range
  filtering, which the source does not enable.
-/

import SleepSync.Parameters

namespace SleepSync

open ScheduleParameters

inductive MessageType
  | masterSync
  | workSync
  | controlNetGranularity
  | controlScatterClique
  | controlWorkTime
  | controlWorkCycle
  | mergeOther
  | mergeMyMasterDepart
  | mergeMySlaveDepart
  | abandonMastership
  | info
  | invalid
  deriving DecidableEq

namespace MessageType

/-- The value of the enumeration, which starts at one. -/
def toRaw : MessageType → BitVec 8
  | masterSync => 1
  | workSync => 2
  | controlNetGranularity => 3
  | controlScatterClique => 4
  | controlWorkTime => 5
  | controlWorkCycle => 6
  | mergeOther => 7
  | mergeMyMasterDepart => 8
  | mergeMySlaveDepart => 9
  | abandonMastership => 10
  | info => 11
  | invalid => 12

/-- `SyncMessage::messageTypeFromRaw`.  The two work controls have no case. -/
def messageTypeFromRaw (receivedType : BitVec 8) : MessageType :=
  match receivedType.toNat with
  | 1 => masterSync
  | 2 => workSync
  | 3 => controlNetGranularity
  | 4 => controlScatterClique
  | 5 => mergeOther
  | 6 => mergeMyMasterDepart
  | 7 => mergeMySlaveDepart
  | 8 => abandonMastership
  | 9 => info
  | _ => invalid

/-- `SyncMessage::doesCarrySync`. -/
def doesCarrySync : MessageType → Bool
  | masterSync | workSync | controlNetGranularity | controlScatterClique => true
  | _ => false

/-- The messages of mergers. -/
def isMerge : MessageType → Bool
  | mergeOther | mergeMyMasterDepart | mergeMySlaveDepart => true
  | _ => false

theorem doesCarrySync_of_isMerge {t : MessageType} (h : t.isMerge = true) :
    t.doesCarrySync = false := by
  cases t <;> first | rfl | cases h

/-- The types whose two encodings agree are those that carry sync. -/
theorem messageTypeFromRaw_toRaw (t : MessageType) :
    messageTypeFromRaw t.toRaw = t ↔ t.doesCarrySync = true ∨ t = invalid := by
  cases t <;> decide

/-- A byte is the encoding of the type it is read as exactly when it is one of
    the first four. -/
theorem toRaw_messageTypeFromRaw (b : BitVec 8) (h : messageTypeFromRaw b ≠ invalid) :
    (messageTypeFromRaw b).toRaw = b ↔ b.toNat ≤ 4 := by
  have h_all : ∀ n : Fin 256, messageTypeFromRaw (BitVec.ofFin n) ≠ invalid →
      ((messageTypeFromRaw (BitVec.ofFin n)).toRaw = BitVec.ofFin n ↔ n.val ≤ 4) := by
    decide +kernel
  exact h_all b.toFin h

end MessageType

/-- A duration to a sync point, which is at most one period. -/
structure DeltaSync where
  get : Nat
  isValidValue : get ≤ normalSyncPeriodDuration
  deriving DecidableEq

namespace DeltaSync

/-- `DeltaSync::set`, whose assertion is the `none`. -/
def set (value : Nat) : Option DeltaSync :=
  if h : value ≤ normalSyncPeriodDuration then some ⟨value, h⟩ else none

@[simp] theorem set_get (d : DeltaSync) : set d.get = some d :=
  dif_pos d.isValidValue

theorem set_eq_some {value : Nat} {d : DeltaSync} :
    set value = some d ↔ d.get = value := by
  constructor
  · intro h
    unfold set at h
    by_cases h_v : value ≤ normalSyncPeriodDuration
    · rw [dif_pos h_v] at h
      cases h
      rfl
    · rw [dif_neg h_v] at h
      cases h
  · rintro rfl
    exact d.set_get

end DeltaSync

structure SyncMessage where
  type : MessageType
  deltaToNextSyncPoint : DeltaSync
  masterID : Nat
  work : Payload
  deriving DecidableEq

namespace SyncMessage

/-- Time on the local clock when the sender started to transmit. -/
def timeOfTransmittal (toa : Nat) : Nat :=
  LongTime.sub toa PhysicalParameters.guessedSendLatency

end SyncMessage

end SleepSync
