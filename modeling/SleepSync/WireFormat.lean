/-
  SleepSync.WireFormat

  What a message becomes on its way through the radio buffer.

  The three fields that are truncated copies of wider integers survive: an ID
  below 2^48, an offset of at most one period and a work byte come back as they
  were sent (`unserialize_serialize`), and the bytes of these fields are
  reproduced when a received message is written out again
  (`serialize_unserialize`).  The type does not: the sender casts the
  enumeration, the receiver reads a switch without the two work controls, and
  from there on every type is shifted.  The two directions agree exactly on the
  four types that carry sync.
-/

import SleepSync.Serializer

namespace SleepSync

namespace Serializer

open Lib OTAPayload MessageType

/-- What `MessageFactory` can build: any type but the invalid one, with a
    system ID, which has 48 bits. -/
def IsBuildable (m : SyncMessage) : Prop :=
  m.type ≠ invalid ∧ m.masterID < 2 ^ 48

instance (m : SyncMessage) : Decidable (IsBuildable m) :=
  inferInstanceAs (Decidable (_ ∧ _))

-- ============================================================================
-- The fields of a written buffer
-- ============================================================================

section Written

variable (m : SyncMessage) (buf : RadioBuffer)

theorem read_type_serialize :
    (serializeSyncMessageIntoRadioBuffer m buf).read typeTSSIndex typeTSSLength =
      [m.type.toRaw] := by
  unfold serializeSyncMessageIntoRadioBuffer serializeWorkCommonIntoStream
    serializeOffsetCommonIntoStream serializeMasterIDCommonIntoStream
    serializeTypeCommonIntoStream
  rw [RadioBuffer.read_write_other _ _ (Or.inl (by decide)),
    RadioBuffer.read_write_other _ _ (Or.inl (by decide)),
    RadioBuffer.read_write_other _ _ (Or.inl (by decide))]
  exact RadioBuffer.read_write_self _ _ rfl

theorem read_masterID_serialize :
    (serializeSyncMessageIntoRadioBuffer m buf).read masterIndex masterIDLength =
      leBytes masterIDLength m.masterID := by
  unfold serializeSyncMessageIntoRadioBuffer serializeWorkCommonIntoStream
    serializeOffsetCommonIntoStream serializeMasterIDCommonIntoStream
  rw [RadioBuffer.read_write_other _ _ (Or.inl (by decide)),
    RadioBuffer.read_write_other _ _ (Or.inl (by decide)),
    RadioBuffer.read_write_self _ _ (leBytes_length _ _)]

theorem read_offset_serialize :
    (serializeSyncMessageIntoRadioBuffer m buf).read offsetIndex offsetLength =
      leBytes offsetLength m.deltaToNextSyncPoint.get := by
  unfold serializeSyncMessageIntoRadioBuffer serializeWorkCommonIntoStream
    serializeOffsetCommonIntoStream
  rw [RadioBuffer.read_write_other _ _ (Or.inl (by decide)),
    RadioBuffer.read_write_self _ _ (leBytes_length _ _)]

theorem read_work_serialize :
    (serializeSyncMessageIntoRadioBuffer m buf).read workIndex workLength = [m.work] := by
  unfold serializeSyncMessageIntoRadioBuffer serializeWorkCommonIntoStream
  exact RadioBuffer.read_write_self _ _ rfl

theorem unserializeType_serialize :
    unserializeType (serializeSyncMessageIntoRadioBuffer m buf) =
      messageTypeFromRaw m.type.toRaw := by
  rw [unserializeType, read_type_serialize]
  rfl

theorem unserializeWork_serialize :
    unserializeWork (serializeSyncMessageIntoRadioBuffer m buf) = m.work := by
  rw [unserializeWork, read_work_serialize]
  rfl

/-- An offset of at most one period fits three bytes. -/
theorem unserializeOffset_serialize :
    unserializeOffset (serializeSyncMessageIntoRadioBuffer m buf) =
      m.deltaToNextSyncPoint.get := by
  have h_fit : m.deltaToNextSyncPoint.get < 256 ^ offsetLength :=
    Nat.lt_of_le_of_lt m.deltaToNextSyncPoint.isValidValue (by decide)
  rw [unserializeOffset, read_offset_serialize, leValue_leBytes, Nat.mod_eq_of_lt h_fit]

/-- A system ID fits six bytes. -/
theorem unserializeMasterID_serialize (h : m.masterID < 2 ^ 48) :
    unserializeMasterID (serializeSyncMessageIntoRadioBuffer m buf) = m.masterID := by
  have h_fit : m.masterID < 256 ^ masterIDLength :=
    Nat.lt_of_lt_of_eq h (by decide)
  rw [unserializeMasterID, read_masterID_serialize, leValue_leBytes, Nat.mod_eq_of_lt h_fit]

end Written

-- ============================================================================
-- Sending, then receiving
-- ============================================================================

/-- A sent message arrives with the type its byte is read as and every other
    field unchanged, or is dropped where the byte is not read as a type. -/
theorem unserialize_serialize (m : SyncMessage) (buf : RadioBuffer) (h : m.masterID < 2 ^ 48) :
    unserialize (serializeSyncMessageIntoRadioBuffer m buf) =
      .ok (if messageTypeFromRaw m.type.toRaw = invalid then none
        else some { m with type := messageTypeFromRaw m.type.toRaw }) := by
  unfold unserialize
  rw [unserializeType_serialize, unserializeOffset_serialize, DeltaSync.set_get,
    unserializeMasterID_serialize m buf h, unserializeWork_serialize]
  by_cases h_inv : messageTypeFromRaw m.type.toRaw = invalid
  · rw [if_neg (not_not_intro h_inv), if_pos h_inv]
  · rw [if_pos h_inv, if_neg h_inv]

theorem unserialize_serialize_iff (m : SyncMessage) (buf : RadioBuffer) (h : IsBuildable m) :
    unserialize (serializeSyncMessageIntoRadioBuffer m buf) = .ok (some m) ↔
      m.type.doesCarrySync = true := by
  obtain ⟨h_type, h_id⟩ := h
  rw [unserialize_serialize m buf h_id]
  have h_agree := messageTypeFromRaw_toRaw m.type
  by_cases h_inv : messageTypeFromRaw m.type.toRaw = invalid
  · rw [if_pos h_inv]
    have h_no : ¬ m.type.doesCarrySync = true := by
      intro h_carry
      rw [h_agree.2 (Or.inl h_carry)] at h_inv
      exact h_type h_inv
    exact iff_of_false (fun h => by cases h) h_no
  · rw [if_neg h_inv]
    refine ⟨fun h_eq => ?_, fun h_carry => ?_⟩
    · have h_msg := Option.some.inj (Except.ok.inj h_eq)
      rcases h_agree.1 (congrArg SyncMessage.type h_msg) with h_carry | h_bad
      · exact h_carry
      · exact absurd h_bad h_type
    · rw [h_agree.2 (Or.inl h_carry)]

-- ============================================================================
-- Receiving, then sending
-- ============================================================================

/-- The message an accepted buffer is read as. -/
theorem unserialize_eq_some {buf : RadioBuffer} {m : SyncMessage}
    (h : unserialize buf = .ok (some m)) :
    unserializeType buf ≠ invalid ∧ m.type = unserializeType buf ∧
      m.masterID = unserializeMasterID buf ∧
      m.deltaToNextSyncPoint.get = unserializeOffset buf ∧
      m.work = unserializeWork buf := by
  unfold unserialize at h
  by_cases h_type : unserializeType buf ≠ invalid
  · rw [if_pos h_type] at h
    rcases h_set : DeltaSync.set (unserializeOffset buf) with _ | d
    · rw [h_set] at h
      cases h
    · rw [h_set] at h
      have h_msg := Option.some.inj (Except.ok.inj h)
      subst h_msg
      exact ⟨h_type, rfl, rfl, DeltaSync.set_eq_some.1 h_set, rfl⟩
  · rw [if_neg h_type] at h
    cases h

/-- A one-byte field is its byte. -/
theorem read_one (buf : RadioBuffer) {i : Nat} (h : i + 1 ≤ fixedPayloadCount) :
    buf.read i 1 = [(buf.read i 1).headD 0] := by
  have h_len := buf.read_length h
  rcases h_read : buf.read i 1 with _ | ⟨b, _ | ⟨c, bs⟩⟩
  · rw [h_read] at h_len
    cases h_len
  · rfl
  · rw [h_read] at h_len
    cases h_len

/-- Written out again, an accepted buffer keeps every byte but the first. -/
theorem serialize_unserialize {buf : RadioBuffer} {m : SyncMessage} (buf₀ : RadioBuffer)
    (h : unserialize buf = .ok (some m)) :
    serializeSyncMessageIntoRadioBuffer m buf₀ = buf ↔
      m.type.toRaw = (buf.read typeTSSIndex typeTSSLength).headD 0 := by
  obtain ⟨-, -, h_id, h_offset, h_work⟩ := unserialize_eq_some h
  refine ⟨fun h_eq => ?_, fun h_type => ?_⟩
  · rw [← h_eq, read_type_serialize]
    rfl
  · refine RadioBuffer.ext_fields ?_ ?_ ?_ ?_
    · rw [read_type_serialize, h_type]
      exact (read_one buf (by decide)).symm
    · have h_len : (buf.read masterIndex masterIDLength).length = masterIDLength :=
        buf.read_length (by decide)
      rw [read_masterID_serialize, h_id, unserializeMasterID]
      exact (congrArg (leBytes · _) h_len.symm).trans (leBytes_leValue _)
    · have h_len : (buf.read offsetIndex offsetLength).length = offsetLength :=
        buf.read_length (by decide)
      rw [read_offset_serialize, h_offset, unserializeOffset]
      exact (congrArg (leBytes · _) h_len.symm).trans (leBytes_leValue _)
    · rw [read_work_serialize, h_work]
      exact (read_one buf (by decide)).symm

theorem serialize_unserialize_iff {buf : RadioBuffer} {m : SyncMessage} (buf₀ : RadioBuffer)
    (h : unserialize buf = .ok (some m)) :
    serializeSyncMessageIntoRadioBuffer m buf₀ = buf ↔
      ((buf.read typeTSSIndex typeTSSLength).headD 0).toNat ≤ 4 := by
  rw [serialize_unserialize buf₀ h]
  obtain ⟨h_type, h_m, -⟩ := unserialize_eq_some h
  rw [h_m]
  exact toRaw_messageTypeFromRaw _ h_type

-- ============================================================================
-- The codec
-- ============================================================================

/-- Both round trips hold exactly for the types below five: a built message
    comes back if and only if its type carries sync, and an accepted buffer is
    reproduced if and only if its first byte is at most four. -/
theorem codec_round_trips (buf₀ : RadioBuffer) :
    (∀ m, IsBuildable m →
      (unserialize (serializeSyncMessageIntoRadioBuffer m buf₀) = .ok (some m) ↔
        m.type = masterSync ∨ m.type = workSync ∨ m.type = controlNetGranularity ∨
          m.type = controlScatterClique)) ∧
    (∀ buf m, unserialize buf = .ok (some m) →
      (serializeSyncMessageIntoRadioBuffer m buf₀ = buf ↔
        ((buf.read typeTSSIndex typeTSSLength).headD 0).toNat ≤ 4)) := by
  refine ⟨fun m h => ?_, fun buf m h => serialize_unserialize_iff buf₀ h⟩
  rw [unserialize_serialize_iff m buf₀ h]
  cases m.type <;> decide

/-- The message by which a slave that left tells its former clique. -/
def departMessage : SyncMessage where
  type := mergeMySlaveDepart
  deltaToNextSyncPoint := ⟨71234, by decide⟩
  masterID := 0xA1B2C3D4E5
  work := 7

theorem codec_round_trips_masterSync :
    unserialize (serializeSyncMessageIntoRadioBuffer { departMessage with type := masterSync }
      emptyBuffer) = .ok (some { departMessage with type := masterSync }) :=
  ((codec_round_trips emptyBuffer).1 { departMessage with type := masterSync }
    (by decide)).2 (Or.inl rfl)

/-- Sent as a departing slave's merge message, received as information, and not
    the same bytes when sent on. -/
theorem codec_departMessage :
    IsBuildable departMessage ∧
    unserialize (serializeSyncMessageIntoRadioBuffer departMessage emptyBuffer) ≠
      .ok (some departMessage) ∧
    unserialize (serializeSyncMessageIntoRadioBuffer departMessage emptyBuffer) =
      .ok (some { departMessage with type := info }) ∧
    serializeSyncMessageIntoRadioBuffer { departMessage with type := info } emptyBuffer ≠
      serializeSyncMessageIntoRadioBuffer departMessage emptyBuffer := by
  have h_received := unserialize_serialize departMessage emptyBuffer (by decide)
  refine ⟨by decide, ?_, h_received, by decide⟩
  rw [h_received]
  intro h
  cases h

end Serializer

end SleepSync
