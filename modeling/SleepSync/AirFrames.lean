/-
  SleepSync.AirFrames

  Units as their tasks run them, on one radio channel.

  What goes over the air is a frame: the eleven bytes of a message, and the time
  at which the sender read its clock for the offset in it.  The frames of a unit
  are in its trace.  They leave it in two tasks only, with a message that the
  unit builds at that time (`AgentStep.frames_eq`), and what a receiver reads
  from one is the message that was sent, where it is read as one that carries
  sync; a type that does not is read as another type (`read_bufferOf`).

  The clocks of the units have one rate and any offsets.  A frame arrives the
  send latency of its sender after the sender read its clock, at any of the
  units that listen, or it is lost.
-/

import SleepSync.Lib.Air
import SleepSync.Election
import SleepSync.TaskRefinement

namespace SleepSync

open Lib

/-- A message on the air, with the time of the sender's clock it was built at. -/
structure Frame where
  sentAt : Nat
  buffer : RadioBuffer
  deriving DecidableEq

def Occurrence.frame (o : Occurrence) : Option Frame :=
  match o.what with
  | .transmit msg => some ⟨o.now, bufferOf msg⟩
  | _ => none

/-- What a unit has transmitted, latest first. -/
def Agent.frames (a : Agent) : List Frame := a.trace.filterMap Occurrence.frame

namespace Units

variable {ι : Type}

/-- The units on the air.  `zero i` is what a common clock reads when the clock
    of unit `i` reads zero. -/
def stations (u : Units ι) (zero : ι → ℤ) :
    Stations ι Agent (Env × AgentEvent) Frame TaskFault where
  station i := agentSystem (u.config i)
  onAir := Agent.frames
  deaf l :=
    match l.2 with
    | .packet (some _) => False
    | _ => True
  arrives j i f l := l.2 = .packet (some f.buffer) ∧
    zero i + l.1.timeOfArrival =
      zero j + f.sentAt + PhysicalParameters.sendLatency (u.config j).platform

instance (u : Units ι) (zero : ι → ℤ) (l : Env × AgentEvent) :
    Decidable ((u.stations zero).deaf l) :=
  match l with
  | (_, .packet (some _)) => isFalse id
  | (_, .packet none) | (_, .timer _ _) | (_, .provisionerSucceed _) | (_, .provisionerFail) =>
      isTrue trivial

instance (u : Units ι) (zero : ι → ℤ) (j i : ι) (f : Frame) (l : Env × AgentEvent) :
    Decidable ((u.stations zero).arrives j i f l) :=
  inferInstanceAs (Decidable (_ ∧ _))

instance (u : Units ι) (zero : ι → ℤ) (i : ι) (a : Agent) (l : Env × AgentEvent) :
    Decidable (((u.stations zero).station i).enabled a l) :=
  inferInstanceAs (Decidable ((agentSystem (u.config i)).enabled a l))

end Units

-- ============================================================================
-- What is transmitted
-- ============================================================================

namespace Agent

variable {c : Config} {e : Env} {a a' : Agent} {ev : AgentEvent} {msg : SyncMessage}

section Frames

theorem frames_cons {b : Agent} {o : Occurrence} (h : b.trace = o :: a.trace)
    (h_o : o.frame = none) : b.frames = a.frames := by
  unfold frames
  rw [h, List.filterMap_cons_none h_o]

@[simp] theorem schedule_frames (e : Env) (a : Agent) (task : Task) (delay : Nat) :
    (a.schedule e task delay).frames = a.frames :=
  frames_cons rfl rfl

@[simp] theorem startReceiving_frames (e : Env) (a : Agent) (handler : MessageHandler) :
    (a.startReceiving e handler).frames = a.frames :=
  frames_cons rfl rfl

@[simp] theorem bookkept_frames (e : Env) (a : Agent) (p : Protocol) :
    (a.bookkept e p).frames = a.frames :=
  frames_cons rfl rfl

@[simp] theorem rolled_frames (e : Env) (a : Agent) (task : Task) :
    (a.rolled e task).frames = a.frames :=
  frames_cons rfl rfl

@[simp] theorem dequeued_frames (e : Env) (a : Agent) (task : Task) (expiry : Nat) :
    (a.dequeued e task expiry).frames = a.frames :=
  frames_cons rfl rfl

@[simp] theorem sendMessage_frames (e : Env) (a : Agent) (msg : SyncMessage) :
    (a.sendMessage e msg).frames = ⟨e.now, bufferOf msg⟩ :: a.frames :=
  rfl

@[simp] theorem withProtocol_frames (a : Agent) (p : Protocol) :
    ({ a with protocol := p } : Agent).frames = a.frames :=
  rfl

@[simp] theorem undo_frames (a : Agent) : a.undo.frames = a.frames := rfl

@[simp] theorem stopReceive_frames (a : Agent) : a.stopReceive.frames = a.frames := rfl

@[simp] theorem doIt_frames (e : Env) (a : Agent) : (a.doIt e).frames = a.frames := rfl

theorem SyncSlotNext.frames {u : Bool} (h : SyncSlotNext c e a u a') : a'.frames = a.frames := by
  cases h <;> simp

theorem NonSyncScheduled.frames (h : NonSyncScheduled c e a a') : a'.frames = a.frames := by
  cases h with
  | merges => split <;> simp
  | fishesFar => exact frames_cons rfl rfl
  | _ => simp

theorem PacketTaken.frames {handler : MessageHandler} {packet : Option RadioBuffer}
    (h : PacketTaken c e a handler packet a') : a'.frames = a.frames := by
  cases h <;> rfl

end Frames

/-- The messages that a unit builds and transmits at once, by the task it does it in. -/
inductive Transmits (c : Config) (e : Env) (a : Agent) : AgentEvent → SyncMessage → Prop
  | inSyncSlot {x : Nat} {msg : SyncMessage} (h_msg : a.syncSlotMessage c e = .ok msg) :
      Transmits c e a (.timer .sendSync x) msg
  | inMergeSlot {x : Nat} {msg : SyncMessage} (h_msg : a.protocol.makeMergeMsg c e = .ok msg) :
      Transmits c e a (.timer .mergerStartAndEnd x) msg

/-- A step puts nothing on the air, or one message. -/
theorem AgentStep.frames_eq (h : AgentStep c e a ev a') :
    a'.frames = a.frames ∨
      ∃ msg, Transmits c e a ev msg ∧ a'.frames = ⟨e.now, bufferOf msg⟩ :: a.frames := by
  cases h with
  | @ran t x _ _ _ _ _ h_ran =>
      cases h_ran with
      | @sent msg h_msg => exact Or.inr ⟨msg, Transmits.inSyncSlot h_msg, rfl⟩
      | @merged msg p _ h_msg _ h_next =>
          refine Or.inr ⟨msg, Transmits.inMergeSlot h_msg, ?_⟩
          rw [h_next.frames]
          rfl
      | listened _ _ _ h_next => exact Or.inl h_next.frames
      | sentOver _ _ h_next => exact Or.inl h_next.frames
      | fished _ _ h_next => exact Or.inl h_next.frames
      | failsToProvision _ _ h_next => exact Or.inl h_next.frames
      | provisioned h_next => exact Or.inl h_next.frames
      | _ => exact Or.inl rfl
  | heard _ _ _ h_taken => exact Or.inl h_taken.frames
  | succeeded => exact Or.inl rfl
  | failed => exact Or.inl rfl

/-- The message of a sync slot carries sync. -/
theorem syncSlotMessage_eq_ok (h : a.syncSlotMessage c e = .ok msg) :
    ∃ t work, t.doesCarrySync = true ∧ a.protocol.initSyncMessage c e t work = .ok msg := by
  have h_init : ∀ {t work}, ofProtocol (a.protocol.initSyncMessage c e t work) = .ok msg →
      ∃ t work, t.doesCarrySync = true ∧ a.protocol.initSyncMessage c e t work = .ok msg := by
    intro t work h_ok
    have h_msg := ofProtocol_eq_ok.1 h_ok
    exact ⟨t, work, (Protocol.initSyncMessage_eq_ok h_msg).1, h_msg⟩
  unfold syncSlotMessage at h
  cases h_kind : a.kind <;> rw [h_kind] at h
  · exact h_init h
  · exact h_init h
  · exact h_init h
  · cases h

end Agent

-- ============================================================================
-- What is received
-- ============================================================================

namespace Serializer

variable {m m' : SyncMessage}

/-- A type that a sent byte is read as is the one sent, if it carries sync. -/
theorem type_of_read_carries (t : MessageType)
    (h : (MessageType.messageTypeFromRaw t.toRaw).doesCarrySync = true) :
    MessageType.messageTypeFromRaw t.toRaw = t := by
  cases t <;> first | rfl | cases h

/-- What is read as a message that carries sync was sent so. -/
theorem read_bufferOf (h : unserialize (bufferOf m) = .ok (some m'))
    (h_carries : m'.type.doesCarrySync = true) :
    m.type = m'.type ∧ m.deltaToNextSyncPoint = m'.deltaToNextSyncPoint ∧ m.work = m'.work ∧
      (m.masterID < 2 ^ 48 → m.masterID = m'.masterID) := by
  obtain ⟨-, h_type, h_master, h_offset, h_work⟩ := unserialize_eq_some h
  have h_read : m'.type = MessageType.messageTypeFromRaw m.type.toRaw :=
    h_type.trans (unserializeType_serialize m emptyBuffer)
  refine ⟨?_, ?_, ?_, fun h_fits => ?_⟩
  · rw [h_read] at h_carries ⊢
    exact (type_of_read_carries m.type h_carries).symm
  · have h_get : m.deltaToNextSyncPoint.get = m'.deltaToNextSyncPoint.get :=
      (unserializeOffset_serialize m emptyBuffer).symm.trans h_offset.symm
    cases h_m : m.deltaToNextSyncPoint
    cases h_m' : m'.deltaToNextSyncPoint
    rw [h_m, h_m'] at h_get
    cases h_get
    rfl
  · exact ((unserializeWork_serialize m emptyBuffer).symm.trans h_work.symm)
  · exact (unserializeMasterID_serialize m emptyBuffer h_fits).symm.trans h_master.symm

end Serializer

end SleepSync
