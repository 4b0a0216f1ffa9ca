/-
  SleepSync.PacketSafety

  What a packet can do to a unit, whoever has sent it.

  The decoder gives up a packet whose type is not valid, and the dispatcher then
  listens on; an offset that is longer than a period is not given up but
  stopped at an assertion, though the decoder promises the same for it.  Of what
  is left the handlers survive everything but a sync message that they adopt
  and whose event time the schedule does not accept: every other assertion on
  the way rests on an invariant of the unit and not on what was received.
-/

import SleepSync.InferiorTraffic
import SleepSync.RoleConsistency
import SleepSync.WireFormat

namespace SleepSync

open Lib ScheduleParameters Protocol

-- ============================================================================
-- The decoder
-- ============================================================================

/-- The fields of the buffer, as those of a message. -/
structure RadioBuffer.Reads (buf : RadioBuffer) (msg : SyncMessage) : Prop where
  type : msg.type = Serializer.unserializeType buf
  masterID : msg.masterID = Serializer.unserializeMasterID buf
  offset : msg.deltaToNextSyncPoint.get = Serializer.unserializeOffset buf
  work : msg.work = Serializer.unserializeWork buf

namespace Serializer

variable {buf : RadioBuffer} {msg : SyncMessage}

theorem unserialize_eq_none_iff :
    unserialize buf = .ok none ↔ unserializeType buf = .invalid := by
  unfold unserialize
  by_cases h_type : unserializeType buf = .invalid
  · simp [h_type]
  · rw [if_pos h_type]
    cases DeltaSync.set (unserializeOffset buf) <;> simp [h_type]

theorem unserialize_eq_some_iff :
    unserialize buf = .ok (some msg) ↔ unserializeType buf ≠ .invalid ∧ buf.Reads msg := by
  refine ⟨fun h => ?_, fun ⟨h_type, h_reads⟩ => ?_⟩
  · obtain ⟨h_type, h_t, h_m, h_o, h_w⟩ := unserialize_eq_some h
    exact ⟨h_type, h_t, h_m, h_o, h_w⟩
  · obtain ⟨type, offset, masterID, work⟩ := msg
    obtain ⟨h_t, h_m, h_o, h_w⟩ := h_reads
    dsimp only at h_t h_m h_o h_w
    unfold unserialize
    rw [if_pos h_type, ← h_o, DeltaSync.set_get, h_t, h_m, h_w]

theorem exists_reads (h : unserializeOffset buf ≤ normalSyncPeriodDuration) :
    ∃ msg, buf.Reads msg :=
  ⟨⟨_, ⟨_, h⟩, _, _⟩, rfl, rfl, rfl, rfl⟩

end Serializer

-- ============================================================================
-- The handlers
-- ============================================================================

namespace Protocol

variable {c : Config} {e : Env} {p : Protocol} {msg : SyncMessage}

/-- In the sync slot only an adopted message can stop. -/
theorem SyncSlot.handle_ok (h_bounds : p.schedule.InBounds) (h_session : p.fishing.SessionBounded)
    (h_toa : p.schedule.startTimeOfSyncPeriod ≤ e.timeOfArrival)
    (h_accepts : ScheduleAccepts c p e (.hearInSyncSlot msg)) :
    ∃ x, SyncSlot.handle c e p msg = .ok x := by
  cases h_handle : SyncSlot.handle c e p msg with
  | ok x => exact ⟨x, rfl⟩
  | error flt =>
      exfalso
      rcases SyncSlot.handle_eq_error h_handle with ⟨h_adopts, h_adjust⟩ | ⟨-, h_scatter⟩
      · obtain ⟨s, h_s⟩ := (Schedule.adjustBySyncMsg_ok_iff h_bounds h_toa).2 (h_accepts h_adopts)
        rw [h_s] at h_adjust
        cases h_adjust
      · obtain ⟨i, h_cancel⟩ := cancelAnyUpstreamingInProgress_eq c p
        obtain ⟨f, h_f⟩ := h_session.restart
        obtain ⟨s, h_s⟩ := Schedule.adjustWithRandomAddedTime_ok h_bounds e.randomOffset
        have h_ok := scatterSync_eq_ok (c := c) (p := { p with intraClique := i }).2
          ⟨f, s, h_f, h_s, rfl⟩
        unfold handleScatterMessage at h_scatter
        rw [h_cancel, h_ok] at h_scatter
        split at h_scatter
        · split at h_scatter <;> cases h_scatter
        · cases h_scatter

/-- What is fished is merged or caught, if the schedule accepts what is adopted. -/
theorem doFishedSyncMsg_ok (h_bounds : p.schedule.InBounds)
    (h_role : p.fishing.mode = .trolling → p.role = .fisher) (h_le : p.masterID ≤ c.id)
    (h_type : msg.type = .masterSync ∨ msg.type = .workSync)
    (h_toa : p.schedule.startTimeOfSyncPeriod ≤ e.timeOfArrival)
    (h_accepts : ScheduleAccepts c p e (.hearInFishSlot msg)) :
    ∃ x, p.doFishedSyncMsg c e msg = .ok x := by
  have h_carries := doesCarrySync_of_type h_type
  have h_adjust : p.isOtherCliqueBetter msg.masterID = true →
      ∃ s, p.schedule.adjustBySyncMsg msg e.timeOfArrival = .ok s := fun h_better =>
    (Schedule.adjustBySyncMsg_ok_iff h_bounds h_toa).2
      (h_accepts (adoptsInFishSlot_iff.2 ⟨h_type, h_better⟩))
  cases h_mode : p.fishing.mode with
  | trolling =>
      obtain ⟨p', h_init⟩ := initFromMsg_ok (c := c) (e := e) (p := { p with role := .merger })
        h_mode h_carries fun h_better => by
          have h_lt : msg.masterID < p.masterID := of_decide_eq_true h_better
          exact ⟨by omega, h_adjust h_better⟩
      have h_merger : p.toMergerFromFisher c e msg = .ok p' :=
        require_bind_eq_ok.2 ⟨h_carries, require_bind_eq_ok.2 ⟨h_role h_mode, h_init⟩⟩
      unfold doFishedSyncMsg
      rw [h_mode]
      exact ⟨_, bind_return_eq_ok.2 ⟨p', h_merger, rfl⟩⟩
  | deepFishing =>
      by_cases h_better : p.isOtherCliqueBetter msg.masterID = true
      · obtain ⟨s, h_s⟩ := h_adjust h_better
        exact ⟨_, Agent.doFishedSyncMsg_catches h_mode h_carries h_better h_s⟩
      · exact ⟨_, Agent.doFishedSyncMsg_ignores h_mode h_carries (eq_false_of_ne_true h_better)⟩

/-- In the fish slot only an adopted message can stop, if the unit is a fisher
    where it trolls. -/
theorem FishSlot.handle_ok (h_bounds : p.schedule.InBounds)
    (h_role : p.fishing.mode = .trolling → p.role = .fisher) (h_le : p.masterID ≤ c.id)
    (h_toa : p.schedule.startTimeOfSyncPeriod ≤ e.timeOfArrival)
    (h_accepts : ScheduleAccepts c p e (.hearInFishSlot msg)) :
    ∃ x, FishSlot.handle c e p msg = .ok x := by
  have h_fished := fun h_type => doFishedSyncMsg_ok h_bounds h_role h_le h_type h_toa h_accepts
  unfold FishSlot.handle
  split
  · exact h_fished (Or.inl ‹_›)
  · obtain ⟨x, h_x⟩ := h_fished (Or.inr ‹_›)
    exact ⟨_, bind_return_eq_ok.2 ⟨x, h_x, rfl⟩⟩
  all_goals exact ⟨_, rfl⟩

end Protocol

-- ============================================================================
-- The dispatcher
-- ============================================================================

namespace Agent

/-- The state of the algorithm is the same, and so is what is listened for. -/
structure Ignored (a a' : Agent) : Prop where
  protocol : a'.protocol = a.protocol
  prelude : a'.prelude = a.prelude
  kind : a'.kind = a.kind
  pending : a'.pending = a.pending
  isProvisioning : a'.isProvisioning = a.isProvisioning
  radio : a'.radio = a.radio

/-- What the dispatcher should do with a packet whose check sum is right: ignore it as
    garbled, or hand the handler a message of a valid type and offset. -/
def Survives (c : Config) (e : Env) (a : Agent) (handler : MessageHandler)
    (buffer : RadioBuffer) : Prop :=
  ∃ a', stepAgent c a e (.packet (some buffer)) = .ok a' ∧
    ((Serializer.unserialize buffer = .ok none ∧ a.Ignored a') ∨
      ∃ msg, Serializer.unserialize buffer = .ok (some msg) ∧ msg.type ≠ .invalid ∧
        msg.deltaToNextSyncPoint.get ≤ normalSyncPeriodDuration ∧
        stepProtocol c a.protocol e (hears handler msg) = .ok a'.protocol)

/-- The type is not valid, or the offset is sane and the schedule accepts what the
    handler adopts. -/
def Survivable (c : Config) (e : Env) (a : Agent) (handler : MessageHandler)
    (buffer : RadioBuffer) : Prop :=
  Serializer.unserializeType buffer = .invalid ∨
    (Serializer.unserializeOffset buffer ≤ normalSyncPeriodDuration ∧
      ∀ msg, buffer.Reads msg → ScheduleAccepts c a.protocol e (hears handler msg))

section Dispatch

variable {c : Config} {e : Env} {a : Agent} {handler : MessageHandler} {buffer : RadioBuffer}
  {msg : SyncMessage}

theorem dispatch_none (h_radio : a.radio = some handler)
    (h_read : Serializer.unserialize buffer = .ok none) :
    ∃ a', stepAgent c a e (.packet (some buffer)) = .ok a' ∧ a.Ignored a' := by
  refine ⟨(a.received e).startReceiving e handler, ?_, rfl, rfl, rfl, rfl, rfl, h_radio.symm⟩
  unfold stepAgent
  dsimp only
  rw [h_radio]
  dsimp only [dispatch]
  rw [h_read]
  rfl

theorem dispatch_some {r : HandlingResult} {p : Protocol} (h_radio : a.radio = some handler)
    (h_read : Serializer.unserialize buffer = .ok (some msg))
    (h_handle : a.handle c e handler msg = .ok (r, p)) :
    ∃ a', stepAgent c a e (.packet (some buffer)) = .ok a' ∧ a'.protocol = p := by
  have h_hears : stepAgent c a e (.packet (some buffer)) =
      (a.received e).handleValidMessageAndSetContinuation c e handler msg := by
    unfold stepAgent
    dsimp only
    rw [h_radio]
    dsimp only [dispatch]
    rw [h_read]
    rfl
  have h_handles : (a.received e).handle c e handler msg = .ok (r, p) := h_handle
  rw [h_hears, handleValidMessageAndSetContinuation, h_handles]
  by_cases h_keep : r = .keepListening
  · exact ⟨_, if_pos h_keep, rfl⟩
  · exact ⟨_, if_neg h_keep, rfl⟩

theorem survives_of_invalid (h_radio : a.radio = some handler)
    (h_type : Serializer.unserializeType buffer = .invalid) :
    a.Survives c e handler buffer := by
  have h_read := Serializer.unserialize_eq_none_iff.2 h_type
  obtain ⟨a', h_step, h_ignored⟩ := dispatch_none h_radio h_read
  exact ⟨a', h_step, Or.inl ⟨h_read, h_ignored⟩⟩

theorem stepProtocol_of_handle {r : HandlingResult} {p : Protocol}
    (h : a.handle c e handler msg = .ok (r, p)) :
    stepProtocol c a.protocol e (hears handler msg) = .ok p := by
  cases handler <;> exact bind_return_eq_ok.2 ⟨(r, p), h, rfl⟩

/-- What a message that is handled has been accepted by. -/
theorem scheduleAccepts_of_ok {p p' : Protocol} (h_bounds : p.schedule.InBounds)
    (h_toa : p.schedule.startTimeOfSyncPeriod ≤ e.timeOfArrival)
    (h_step : stepProtocol c p e (hears handler msg) = .ok p') :
    ScheduleAccepts c p e (hears handler msg) := by
  cases handler with
  | syncSlot =>
      intro h_adopts
      refine (Schedule.adjustBySyncMsg_ok_iff h_bounds h_toa).1 ⟨p'.schedule, ?_⟩
      exact ProtocolEvent.Adopts.adjusts (Or.inl ⟨rfl, h_adopts⟩) h_step
  | fishSlot =>
      intro h_adopts
      refine (Schedule.adjustBySyncMsg_ok_iff h_bounds h_toa).1 ⟨p'.schedule, ?_⟩
      exact ProtocolEvent.Adopts.adjusts (Or.inr ⟨rfl, h_adopts⟩) h_step

end Dispatch

end Agent

-- ============================================================================
-- Runs
-- ============================================================================

section Runs

variable {c : Config} {e : Env} {a : Agent} {handler : MessageHandler} {buffer : RadioBuffer}
  {msg : SyncMessage}

/-- In a slot with the receiver on, only an adopted message can stop the handler. -/
theorem agentSystem_handle_ok (h : (agentSystem c).Reachable a)
    (h_radio : a.radio = some handler)
    (h_toa : a.protocol.schedule.startTimeOfSyncPeriod ≤ e.timeOfArrival)
    (h_accepts : ScheduleAccepts c a.protocol e (Agent.hears handler msg)) :
    ∃ x, a.handle c e handler msg = .ok x := by
  have h_reach := agentSystem_listening h h_radio
  have h_bounds := protocolSystem_inBounds h_reach
  cases handler with
  | syncSlot =>
      exact SyncSlot.handle_ok h_bounds (protocolSystem_sessionBounded h_reach) h_toa h_accepts
  | fishSlot =>
      obtain ⟨y, h_pending⟩ := (agentSystem_oneTask h.guarded_true).radio _ h_radio
      have h_waits := (agentSystem_roleKept h).waiting _ _ h_pending
      have h_fisher : a.protocol.role = .fisher :=
        h_waits.fits (by rw [h_radio]; exact Option.some_ne_none _)
      exact FishSlot.handle_ok h_bounds (fun _ => h_fisher) (agentSystem_masterID_le h) h_toa
        h_accepts

/-- In every state in which a unit listens, whatever it has done before: a packet is
    survived exactly if its type is not valid, or its offset is at most a period
    and the schedule accepts the message where the handler adopts it. -/
theorem any_packet_survived_iff (h : (agentSystem c).Reachable a)
    (h_radio : a.radio = some handler)
    (h_en : (agentSystem c).enabled a (e, .packet (some buffer))) :
    a.Survives c e handler buffer ↔ a.Survivable c e handler buffer := by
  obtain ⟨-, -, h_toa, -⟩ := h_en
  have h_bounds := protocolSystem_inBounds (agentSystem_listening h h_radio)
  refine ⟨?_, ?_⟩
  · rintro ⟨a', h_step, ⟨h_read, -⟩ | ⟨msg, h_read, -, h_offset, h_handled⟩⟩
    · exact Or.inl (Serializer.unserialize_eq_none_iff.1 h_read)
    · obtain ⟨h_type, h_reads⟩ := Serializer.unserialize_eq_some_iff.1 h_read
      refine Or.inr ⟨h_reads.offset ▸ h_offset, fun msg' h_reads' => ?_⟩
      have h_read' := Serializer.unserialize_eq_some_iff.2 ⟨h_type, h_reads'⟩
      rw [h_read] at h_read'
      cases h_read'
      exact Agent.scheduleAccepts_of_ok h_bounds h_toa h_handled
  · rintro (h_type | ⟨h_offset, h_accepts⟩)
    · exact Agent.survives_of_invalid h_radio h_type
    by_cases h_type : Serializer.unserializeType buffer = .invalid
    · exact Agent.survives_of_invalid h_radio h_type
    obtain ⟨msg, h_reads⟩ := Serializer.exists_reads h_offset
    have h_read := Serializer.unserialize_eq_some_iff.2 ⟨h_type, h_reads⟩
    obtain ⟨⟨r, p⟩, h_handle⟩ := agentSystem_handle_ok h h_radio h_toa (h_accepts msg h_reads)
    obtain ⟨a', h_step, h_p⟩ := Agent.dispatch_some h_radio h_read h_handle
    refine ⟨a', h_step, Or.inr ⟨msg, h_read, h_reads.type ▸ h_type, h_reads.offset ▸ h_offset, ?_⟩⟩
    rw [h_p]
    exact Agent.stepProtocol_of_handle h_handle

end Runs

-- ============================================================================
-- An offset of three bytes
-- ============================================================================

/-- Unit five up to its first sync slot, in which it listens from 80000. -/
def untilListening : List (Env × AgentEvent) :=
  [onTime .startSyncPeriodMaintain 0,
    onTime .theRadioPreludeTaskWSync 79950,
    onTime .startSyncSlotAfterPrelude 80000]

/-- A better clique is joined. -/
theorem any_packet_survived_iff_joinsThree :
    ∃ a, (agentSystem unitFive).Reachable a ∧
      a.Survives unitFive (arriving 80010) .syncSlot
        (bufferOf (masterSyncFrom 3 ⟨79990, by decide⟩)) := by
  obtain ⟨a, h, h_radio, h_en, h_accepts⟩ :=
    System.Reachable.exists_of_play (M := agentSystem unitFive)
      (P := fun a => a.radio = some .syncSlot ∧
        (agentSystem unitFive).enabled a
          (arriving 80010, .packet (some (bufferOf (masterSyncFrom 3 ⟨79990, by decide⟩)))) ∧
        a.protocol.schedule.AcceptsEventTime 160000)
      untilListening ⟨0, 0, Nat.le_refl 0, rfl⟩ (by decide +kernel)
  refine ⟨a, h, (any_packet_survived_iff h h_radio h_en).2 (Or.inr ⟨by decide +kernel, ?_⟩)⟩
  intro msg h_reads _
  have h_offset : msg.deltaToNextSyncPoint.get = 79990 :=
    h_reads.offset.trans (by decide +kernel)
  show a.protocol.schedule.AcceptsEventTime (Schedule.adjustedEventTimeFromMsg msg 80010)
  rw [Schedule.adjustedEventTimeFromMsg, h_offset]
  exact h_accepts

/-- A MasterSync with all ones for its offset. -/
def longOffset : RadioBuffer :=
  (bufferOf (masterSyncFrom 9 (.ofTicks 0))).write OTAPayload.offsetIndex [255, 255, 255]
    (by decide)

/-- Unit five stops at the assertion of the setter. -/
theorem long_offset_stops :
    ∃ a, (agentSystem unitFive).Reachable a ∧ a.radio = some .syncSlot ∧
      (agentSystem unitFive).enabled a (arriving 80010, .packet (some longOffset)) ∧
      Serializer.unserializeType longOffset ≠ .invalid ∧
      stepAgent unitFive a (arriving 80010) (.packet (some longOffset)) =
        .error (.protocol .deltaSyncRange) ∧
      ¬ a.Survives unitFive (arriving 80010) .syncSlot longOffset := by
  obtain ⟨a, h, h_radio, h_en, h_type, h_stops⟩ :=
    System.Reachable.exists_of_play (M := agentSystem unitFive)
      (P := fun a => a.radio = some .syncSlot ∧
        (agentSystem unitFive).enabled a (arriving 80010, .packet (some longOffset)) ∧
        Serializer.unserializeType longOffset ≠ .invalid ∧
        stepAgent unitFive a (arriving 80010) (.packet (some longOffset)) =
          .error (.protocol .deltaSyncRange))
      untilListening ⟨0, 0, Nat.le_refl 0, rfl⟩ (by decide +kernel)
  refine ⟨a, h, h_radio, h_en, h_type, h_stops, ?_⟩
  rintro ⟨a', h_step, -⟩
  rw [h_stops] at h_step
  cases h_step

end SleepSync
