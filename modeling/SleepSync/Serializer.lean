/-
  SleepSync.Serializer

  The over-the-air payload: eleven bytes, one field after the other, each field
  written and read by a matched pair of functions that copy bytes at the
  offsets of `OTAPayload` (little-endian machine, no range filtering).
-/

import SleepSync.Environment
import SleepSync.Lib.LittleEndian

namespace SleepSync

open Lib

namespace OTAPayload

def typeTSSIndex : Nat := 0
def typeTSSLength : Nat := 1
def masterIndex : Nat := 1
def masterIDLength : Nat := 6
def offsetIndex : Nat := 7
def offsetLength : Nat := 3
def workIndex : Nat := 10
def workLength : Nat := 1

end OTAPayload

/-- `Radio::FixedPayloadCount` -/
def fixedPayloadCount : Nat := 11

/-- The radio's buffer. -/
structure RadioBuffer where
  bytes : List Byte
  length_eq : bytes.length = fixedPayloadCount
  deriving DecidableEq

namespace RadioBuffer

/-- A `memcpy` of the bytes `bs` into the buffer. -/
def write (buf : RadioBuffer) (i : Nat) (bs : List Byte)
    (h : i + bs.length ≤ fixedPayloadCount) : RadioBuffer where
  bytes := splice buf.bytes i bs
  length_eq := by rw [splice_length (by rw [buf.length_eq]; exact h), buf.length_eq]

/-- A `memcpy` of `n` bytes out of the buffer. -/
def read (buf : RadioBuffer) (i n : Nat) : List Byte :=
  slice buf.bytes i n

theorem read_length (buf : RadioBuffer) {i n : Nat} (h : i + n ≤ fixedPayloadCount) :
    (buf.read i n).length = n :=
  slice_length (by rw [buf.length_eq]; exact h)

theorem read_write_self (buf : RadioBuffer) {i n : Nat} {bs : List Byte}
    (h : i + bs.length ≤ fixedPayloadCount) (h_n : bs.length = n) :
    (buf.write i bs h).read i n = bs := by
  subst h_n
  exact slice_splice_self (by rw [buf.length_eq]; omega)

/-- A read that a write does not overlap. -/
theorem read_write_other (buf : RadioBuffer) {i j n : Nat} {bs : List Byte}
    (h : i + bs.length ≤ fixedPayloadCount) (h_off : j + n ≤ i ∨ i + bs.length ≤ j) :
    (buf.write i bs h).read j n = buf.read j n := by
  have h_i : i ≤ buf.bytes.length := by rw [buf.length_eq]; omega
  rcases h_off with h_before | h_after
  · exact slice_splice_before h_before h_i
  · exact slice_splice_after h_after h_i

/-- A buffer is determined by its four fields. -/
theorem ext_fields {a b : RadioBuffer}
    (h_type : a.read OTAPayload.typeTSSIndex OTAPayload.typeTSSLength =
      b.read OTAPayload.typeTSSIndex OTAPayload.typeTSSLength)
    (h_master : a.read OTAPayload.masterIndex OTAPayload.masterIDLength =
      b.read OTAPayload.masterIndex OTAPayload.masterIDLength)
    (h_offset : a.read OTAPayload.offsetIndex OTAPayload.offsetLength =
      b.read OTAPayload.offsetIndex OTAPayload.offsetLength)
    (h_work : a.read OTAPayload.workIndex OTAPayload.workLength =
      b.read OTAPayload.workIndex OTAPayload.workLength) : a = b := by
  have h₁ : a.bytes.take (0 + 1) = b.bytes.take (0 + 1) := eq_of_slices rfl h_type
  have h₇ : a.bytes.take (1 + 6) = b.bytes.take (1 + 6) := eq_of_slices h₁ h_master
  have h₁₀ : a.bytes.take (7 + 3) = b.bytes.take (7 + 3) := eq_of_slices h₇ h_offset
  have h₁₁ : a.bytes.take (10 + 1) = b.bytes.take (10 + 1) := eq_of_slices h₁₀ h_work
  have h_bytes : a.bytes = b.bytes := by
    have h_a : a.bytes.length ≤ 10 + 1 := Nat.le_of_eq a.length_eq
    have h_b : b.bytes.length ≤ 10 + 1 := Nat.le_of_eq b.length_eq
    rwa [List.take_of_length_le h_a, List.take_of_length_le h_b] at h₁₁
  cases a
  cases b
  congr

end RadioBuffer

namespace Serializer

open OTAPayload MessageType

-- ============================================================================
-- Matched pairs for each field
-- ============================================================================

def unserializeType (buf : RadioBuffer) : MessageType :=
  messageTypeFromRaw ((buf.read typeTSSIndex typeTSSLength).headD 0)

def serializeTypeCommonIntoStream (m : SyncMessage) (buf : RadioBuffer) : RadioBuffer :=
  buf.write typeTSSIndex [m.type.toRaw] (by rw [List.length_singleton]; decide)

/-- Six bytes into the low end of a cleared 64-bit integer. -/
def unserializeMasterID (buf : RadioBuffer) : Nat :=
  leValue (buf.read masterIndex masterIDLength)

/-- The low six bytes of a 64-bit integer. -/
def serializeMasterIDCommonIntoStream (m : SyncMessage) (buf : RadioBuffer) : RadioBuffer :=
  buf.write masterIndex (leBytes masterIDLength m.masterID)
    (by rw [leBytes_length]; decide)

/-- Three bytes into the low end of a cleared 32-bit integer. -/
def unserializeOffset (buf : RadioBuffer) : Nat :=
  leValue (buf.read offsetIndex offsetLength)

/-- The low three bytes of a 32-bit integer. -/
def serializeOffsetCommonIntoStream (m : SyncMessage) (buf : RadioBuffer) : RadioBuffer :=
  buf.write offsetIndex (leBytes offsetLength m.deltaToNextSyncPoint.get)
    (by rw [leBytes_length]; decide)

def unserializeWork (buf : RadioBuffer) : Payload :=
  (buf.read workIndex workLength).headD 0

def serializeWorkCommonIntoStream (m : SyncMessage) (buf : RadioBuffer) : RadioBuffer :=
  buf.write workIndex [m.work] (by rw [List.length_singleton]; decide)

-- ============================================================================
-- Whole messages
-- ============================================================================

/-- A radio buffer with nothing in it. -/
def emptyBuffer : RadioBuffer where
  bytes := List.replicate fixedPayloadCount 0
  length_eq := List.length_replicate

/-- `none` where the type is not valid; the offset is checked by an assertion. -/
def unserialize (buf : RadioBuffer) : Except Fault (Option SyncMessage) :=
  let type := unserializeType buf
  if type ≠ invalid then
    match DeltaSync.set (unserializeOffset buf) with
    | none => .error .deltaSyncRange
    | some offset => .ok (some
        { type := type
          masterID := unserializeMasterID buf
          deltaToNextSyncPoint := offset
          work := unserializeWork buf })
  else
    .ok none

def serializeSyncMessageIntoRadioBuffer (m : SyncMessage) (buf : RadioBuffer) : RadioBuffer :=
  serializeWorkCommonIntoStream m
    (serializeOffsetCommonIntoStream m
      (serializeMasterIDCommonIntoStream m
        (serializeTypeCommonIntoStream m buf)))

end Serializer

end SleepSync
