/-
  SleepSync.AirControl

  What units on the air can make each other do.

  In every run, whatever is announced, told on the air, enacted or passed on to an
  app is about a property that some unit was provisioned with.

  The messages of mergers are not read as what they are: the receiver's switch
  knows no work control, and reads each of the three types as the one two places
  after it.
-/

import SleepSync.AirElection
import SleepSync.ControlSources
import SleepSync.DeepEpisode
import SleepSync.PeriodShape
import SleepSync.ProvisioningRelay

namespace SleepSync

open Lib

-- ============================================================================
-- What is read from a frame
-- ============================================================================

namespace Serializer

variable {buffer : RadioBuffer} {m msg : SyncMessage} {n : Nat}

/-- No byte is read as one of the work controls. -/
theorem type_not_workControl (h : unserialize buffer = .ok (some msg)) :
    msg.type ≠ .controlWorkTime ∧ msg.type ≠ .controlWorkCycle := by
  have h_raw : ∀ raw, MessageType.messageTypeFromRaw raw ≠ .controlWorkTime ∧
      MessageType.messageTypeFromRaw raw ≠ .controlWorkCycle := by
    intro raw
    unfold MessageType.messageTypeFromRaw
    split <;> exact ⟨MessageType.noConfusion, MessageType.noConfusion⟩
  obtain ⟨-, h_type, -⟩ := unserialize_eq_some h
  rw [h_type]
  exact h_raw _

/-- What is read as telling a property was sent so. -/
theorem tells_of_read (h : unserialize (bufferOf m) = .ok (some msg)) (h_tells : msg.Tells n) :
    m.Tells n ∧ m.type.doesCarrySync = true := by
  obtain ⟨h_time, h_cycle⟩ := type_not_workControl h
  have h_sent : msg.type.doesCarrySync = true → m.type = msg.type ∧ m.work = msg.work := by
    intro h_carries
    obtain ⟨h_type, -, h_work, -⟩ := read_bufferOf h h_carries
    exact ⟨h_type, h_work⟩
  cases h_tells with
  | workTime h_type => exact absurd h_type h_time
  | workCycle h_type => exact absurd h_type h_cycle
  | scatter h_type =>
      obtain ⟨h_same, -⟩ := h_sent (by rw [h_type]; rfl)
      rw [h_type] at h_same
      exact ⟨.scatter h_same, by rw [h_same]; rfl⟩
  | granularity h_type =>
      obtain ⟨h_same, -⟩ := h_sent (by rw [h_type]; rfl)
      rw [h_type] at h_same
      exact ⟨.granularity h_same, by rw [h_same]; rfl⟩
  | master h_type h_medium =>
      obtain ⟨h_same, h_work⟩ := h_sent (by rw [h_type]; rfl)
      rw [h_type] at h_same
      rw [← h_work] at h_medium
      exact ⟨.master h_same h_medium, by rw [h_same]; rfl⟩

end Serializer

-- ============================================================================
-- Control
-- ============================================================================

namespace Units

variable {ι : Type} {u : Units ι} {zero : ι → ℤ} {told : Nat → Prop}

/-- The steps in which no unit is provisioned but with a property in `told`. -/
def ProvisionedOnly (told : Nat → Prop) (_ : ι → Agent) (l : ι × (Env × AgentEvent)) : Prop :=
  ∀ provision ∈ l.2.2.provisioned, told provision.index

instance (told : Nat → Prop) [DecidablePred told] (s : ι → Agent)
    (l : ι × (Env × AgentEvent)) : Decidable (ProvisionedOnly told s l) :=
  inferInstanceAs (Decidable (∀ provision ∈ l.2.2.provisioned, told provision.index))

/-- A frame tells only what is in `told`. -/
def TellsOnly (told : Nat → Prop) (f : Frame) : Prop :=
  ∀ msg n, Serializer.unserialize f.buffer = .ok (some msg) → msg.Tells n → told n

theorem tellsOnly_of_transmits {c : Config} {a : Agent} {e : Env} {ev : AgentEvent}
    {msg : SyncMessage} (h : a.protocol.ControlledBy told) (h_reach : (agentSystem c).Reachable a)
    (h_transmits : a.Transmits c e ev msg) : TellsOnly told ⟨e.now, bufferOf msg⟩ := by
  intro msg' n h_read h_tells
  obtain ⟨h_sent, h_carries⟩ := Serializer.tells_of_read h_read h_tells
  cases h_transmits with
  | inSyncSlot h_msg => exact Agent.syncSlotMessage_tells h h_msg h_sent
  | inMergeSlot h_msg =>
      have h_merge := (agentSystem_saysMerge h_reach).isMerge h_msg
      rw [MessageType.doesCarrySync_of_isMerge h_merge] at h_carries
      cases h_carries

variable [DecidableEq ι] {w : ι → Agent}

/-- Nothing is controlled that nobody asked for.  In every run in which units are
    provisioned only with properties in `told`, what a unit announces, the medium
    granularity, what its app is told to do, and what any frame on the air tells are
    about properties in `told`. -/
theorem air_control_told
    (h : ((u.stations zero).air.guarded (ProvisionedOnly told)).Reachable w) :
    ∀ i, (w i).protocol.ControlledBy told ∧ ∀ f ∈ (w i).frames, TellsOnly told f := by
  obtain ⟨w₀, h_init, h_run⟩ := h
  refine air_keeps (fun _ p => p.ControlledBy told) (fun _ f => TellsOnly told f)
    (System.Reachable.start h_init) h_run ?_ ?_ ?_
  · intro i
    obtain ⟨initTime, loopTime, -, h_boot⟩ := h_init i
    rw [h_boot]
    refine ⟨Protocol.ControlledBy.booted told _ initTime loopTime, fun f h_f => ?_⟩
    cases h_f
  · intro i s e ev p event p' h_ok h_part h_p _ h_heard h_step
    refine h_p.step (fun n h_asks => ?_) h_step
    cases h_asks with
    | @heard msg n h_tells =>
        obtain ⟨j, f, h_f, h_from⟩ := h_heard msg rfl
        exact h_f msg n h_from.read h_tells
    | @provisioned provision => exact h_ok provision h_part.provisioned
  · intro i s e ev msg _ h_p h_reach _ h_transmits
    exact tellsOnly_of_transmits h_p h_reach h_transmits

/-- Unit five with a softdevice, and unit three. -/
def provisionableAndThree : Units (Fin 2) where
  config i := if i = five then unitFiveProvisionable else unitThree
  id_injective := by
    have h_ids : ∀ i j : Fin 2,
        (if i = five then unitFiveProvisionable else unitThree).id =
          (if j = five then unitFiveProvisionable else unitThree).id → i = j := by decide
    exact fun i j h => h_ids i j h
  id_lt := by decide

/-- Unit five is told to scatter its clique, and announces it in its next sync slot. -/
def announcesScatter : List (Fin 2 × (Env × AgentEvent)) :=
  (labelsFrom unitFiveProvisionable (Agent.boot unitFiveProvisionable 0 0)
    (List.replicate 44 (runsNext Env.quiet) ++
      [runsNext startsBLE, fun _ => provisionsAt 640060 ⟨1, 0, 0⟩] ++
      List.replicate 4 (runsNext tossesControl))).map (Prod.mk five)

theorem air_control_told_announcesScatter :
    ∃ w, ((provisionableAndThree.stations 0).air.guarded (ProvisionedOnly (· = 1))).Reachable w ∧
      (w 0).frames ≠ [] ∧ (w 0).protocol.intraClique.isActive = true ∧
      (w 0).protocol.ControlledBy (· = 1) ∧ ∀ f ∈ (w 0).frames, TellsOnly (· = 1) f := by
  obtain ⟨w, h, h_frames, h_active⟩ :=
    System.Reachable.exists_of_play
      (M := (provisionableAndThree.stations 0).air.guarded (ProvisionedOnly (· = 1)))
      (P := fun w => (w 0).frames ≠ [] ∧ (w 0).protocol.intraClique.isActive = true)
      announcesScatter
      (show (provisionableAndThree.stations 0).air.init
        (fun i => Agent.boot (provisionableAndThree.config i) 0 0) from
          fun i => ⟨0, 0, Nat.le_refl _, rfl⟩)
      (by decide +kernel)
  exact ⟨w, h, h_frames, h_active, air_control_told h 0⟩

end Units

-- ============================================================================
-- Merging
-- ============================================================================

namespace MessageType

/-- The types of what a merger says, before it is one and after. -/
def ofMerger : MessageType → Bool
  | mergeOther | mergeMyMasterDepart | mergeMySlaveDepart | invalid => true
  | _ => false

theorem ofMerger_of_isMerge {t : MessageType} (h : t.isMerge = true) : t.ofMerger = true := by
  cases t <;> first | rfl | cases h

/-- `ReadAs t t'`: what is sent with type `t` is read with type `t'`. -/
inductive ReadAs : MessageType → MessageType → Prop
  | sync {t : MessageType} (h_carries : t.doesCarrySync = true) : ReadAs t t
  | enticing : ReadAs mergeOther mergeMySlaveDepart
  | masterDeparts : ReadAs mergeMyMasterDepart abandonMastership
  | slaveDeparts : ReadAs mergeMySlaveDepart info

theorem readAs_of_raw {t : MessageType} (h_sent : t.doesCarrySync = true ∨ t.ofMerger = true)
    (h_read : messageTypeFromRaw t.toRaw ≠ invalid) : ReadAs t (messageTypeFromRaw t.toRaw) := by
  rcases h_sent with h_carries | h_merger
  · rw [(messageTypeFromRaw_toRaw t).2 (Or.inl h_carries)]
    exact ReadAs.sync h_carries
  · cases t with
    | mergeOther => exact ReadAs.enticing
    | mergeMyMasterDepart => exact ReadAs.masterDeparts
    | mergeMySlaveDepart => exact ReadAs.slaveDeparts
    | invalid => exact absurd rfl h_read
    | _ => cases h_merger

/-- No message is read as telling that the master has merged away. -/
theorem ReadAs.ne_mergeMyMasterDepart {t t' : MessageType} (h : ReadAs t t') :
    t' ≠ mergeMyMasterDepart := by
  cases h with
  | sync h_carries =>
      rintro rfl
      cases h_carries
  | _ => exact MessageType.noConfusion

end MessageType

namespace Protocol

/-- A unit that says what mergers say, and has nothing to recover after deep fishing. -/
structure MergesPlainly (p : Protocol) : Prop where
  kind : p.cliqueMerger.kindOfMerger.ofMerger = true
  callback : p.fishing.deep.fishPolicyDoneCallback ≠ some .endWithRecoverMaster

section Merging

variable {c : Config} {e : Env} {p p' : Protocol} {ev : ProtocolEvent} {msg : SyncMessage}

theorem MergesPlainly.booted (c : Config) (initTime loopTime : Nat) :
    (boot c initTime loopTime).MergesPlainly where
  kind := rfl
  callback h := by cases h

theorem MergesPlainly.step_kind (h : p.MergesPlainly) (h_step : stepProtocol c p e ev = .ok p') :
    p'.cliqueMerger.kindOfMerger.ofMerger = true := by
  cases stepProtocol_merger h_step with
  | kept _ h_merger =>
      rw [h_merger]
      exact h.kind
  | left _ h_merger =>
      rcases h_merger with h_eq | h_eq <;> rw [h_eq] <;> exact h.kind
  | became _ _ _ _ _ _ h_kind => exact MessageType.ofMerger_of_isMerge h_kind

/-- Deep fishing that begins with another message has nothing to recover. -/
theorem MergesPlainly.switchToDeepFishing (h : p.MergesPlainly) (d : Nat) :
    (p.fishing.switchToDeepFishing d .endWithNoAction).deep.fishPolicyDoneCallback ≠
      some .endWithRecoverMaster := by
  unfold Fishing.switchToDeepFishing
  split
  · exact fun h_eq => DeepFishingCallback.noConfusion (Option.some.inj h_eq)
  · exact h.callback

theorem MergesPlainly.handle {r : HandlingResult} (h : p.MergesPlainly)
    (h_msg : msg.type ≠ .mergeMyMasterDepart) (h_handle : SyncSlot.handle c e p msg = .ok (r, p')) :
    p'.fishing.deep.fishPolicyDoneCallback ≠ some .endWithRecoverMaster := by
  by_cases h_entices : msg.type = .mergeOther ∨ msg.type = .mergeMySlaveDepart
  · unfold SyncSlot.handle at h_handle
    rcases h_entices with h_type | h_type
    · rw [h_type] at h_handle
      cases h_handle
      exact h.switchToDeepFishing _
    · rw [h_type] at h_handle
      cases h_handle
      exact h.switchToDeepFishing _
  · cases SyncSlot.handle_heard h_handle with
    | scattered _ _ _ h_f =>
        have h_same := (Fishing.restartTrollingMode_sameDeep h_f).2
        rw [h_same]
        exact h.callback
    | enticed h_type =>
        rcases h_type with h_type | h_type | h_type
        · exact absurd (Or.inl h_type) h_entices
        · exact absurd h_type h_msg
        · exact absurd (Or.inr h_type) h_entices
    | _ => exact h.callback

theorem MergesPlainly.step (h : p.MergesPlainly)
    (h_heard : ∀ msg ∈ ev.heard, msg.type ≠ .mergeMyMasterDepart)
    (h_step : stepProtocol c p e ev = .ok p') : p'.MergesPlainly := by
  refine ⟨h.step_kind h_step, ?_⟩
  have h_same : p.fishing.SameDeep p'.fishing →
      p'.fishing.deep.fishPolicyDoneCallback ≠ some .endWithRecoverMaster := by
    intro h_deep
    rw [h_deep.2]
    exact h.callback
  by_cases h_about : ev.isAboutDeep = false
  · exact h_same (stepProtocol_sameDeep h_step h_about)
  cases stepProtocol_done h_step with
  | heard =>
      obtain ⟨⟨r, p₁⟩, h_handle, rfl⟩ := bind_return_eq_ok.1 h_step
      exact h.handle (h_heard _ rfl) h_handle
  | fished h_fished => cases h_fished <;> exact h.callback
  | startsFishing =>
      rw [(setStartAndEndTimes_deep p).2]
      split <;> exact h.callback
  | checked h_checked => cases h_checked <;> exact h.callback
  | _ => exact absurd rfl h_about

end Merging

end Protocol

namespace Units

variable {ι : Type} {u : Units ι} {zero : ι → ℤ}

/-- A frame was sent with a type that carries sync, or is a merger's. -/
def SentPlainly (f : Frame) : Prop :=
  ∃ m, f.buffer = bufferOf m ∧ (m.type.doesCarrySync = true ∨ m.type.ofMerger = true)

theorem SentPlainly.readAs {f : Frame} {msg : SyncMessage} (h : SentPlainly f)
    (h_read : Serializer.unserialize f.buffer = .ok (some msg)) :
    ∃ m, f.buffer = bufferOf m ∧ MessageType.ReadAs m.type msg.type := by
  obtain ⟨m, h_m, h_type⟩ := h
  rw [h_m] at h_read
  obtain ⟨h_valid, h_is, -⟩ := Serializer.unserialize_eq_some h_read
  have h_raw : Serializer.unserializeType (bufferOf m) =
      MessageType.messageTypeFromRaw m.type.toRaw := Serializer.unserializeType_serialize m _
  rw [h_raw] at h_is h_valid
  refine ⟨m, h_m, ?_⟩
  rw [h_is]
  exact MessageType.readAs_of_raw h_type h_valid

theorem sentPlainly_of_transmits {c : Config} {a : Agent} {e : Env} {ev : AgentEvent}
    {msg : SyncMessage} (h : a.protocol.MergesPlainly) (h_transmits : a.Transmits c e ev msg) :
    SentPlainly ⟨e.now, bufferOf msg⟩ := by
  refine ⟨msg, rfl, ?_⟩
  cases h_transmits with
  | inSyncSlot h_msg =>
      obtain ⟨t, work, h_carries, h_init⟩ := Agent.syncSlotMessage_eq_ok h_msg
      rw [(Protocol.initSyncMessage_eq_ok h_init).2.1]
      exact Or.inl h_carries
  | inMergeSlot h_msg =>
      rw [(Protocol.makeMergeMsg_eq_ok h_msg).2.1]
      exact Or.inr h.kind

variable [DecidableEq ι] {w : ι → Agent}

/-- Of what mergers say, units only hear what entices them, and as what a departing
    slave says: a master's departure is heard as abandoned mastership, that of a slave
    as information.  So in no run does the deep fishing of a unit end with the recovery
    of its mastership. -/
theorem air_merges_misread (h : (u.stations zero).air.Reachable w) :
    (∀ i, ∀ f ∈ (w i).frames, ∀ msg, Serializer.unserialize f.buffer = .ok (some msg) →
      ∃ m, f.buffer = bufferOf m ∧ MessageType.ReadAs m.type msg.type) ∧
    ∀ i, (w i).protocol.fishing.deep.fishPolicyDoneCallback ≠ some .endWithRecoverMaster := by
  obtain ⟨w₀, h_init, h_run⟩ := h.guarded_true
  have h_all := air_keeps (fun _ p => p.MergesPlainly) (fun _ f => SentPlainly f)
    (System.Reachable.start h_init) h_run (by
      intro i
      obtain ⟨initTime, loopTime, -, h_boot⟩ := h_init i
      rw [h_boot]
      refine ⟨Protocol.MergesPlainly.booted _ initTime loopTime, fun f h_f => ?_⟩
      cases h_f) (by
      intro i s e ev p event p' _ _ h_p _ h_heard h_step
      refine h_p.step (fun msg h_msg => ?_) h_step
      obtain ⟨j, f, h_f, h_from⟩ := h_heard msg h_msg
      obtain ⟨m, -, h_as⟩ := h_f.readAs h_from.read
      exact h_as.ne_mergeMyMasterDepart) (by
      intro i s e ev msg _ h_p _ _ h_transmits
      exact sentPlainly_of_transmits h_p h_transmits)
  exact ⟨fun i f h_f msg h_read => ((h_all i).2 f h_f).readAs h_read,
    fun i => (h_all i).1.callback⟩

/-- The sync slots of three are in the first fish slots of five. -/
def fishSlotApart (i : Fin 2) : ℤ := if i = three then 110 else 0

def tossesMerge (now : Nat) : Env := { Env.quiet now with mergeCoinToss := true }

/-- Five catches the better clique three in its first fish slot, and tells its own. -/
def mergesIntoThree : List (Fin 2 × (Env × AgentEvent)) :=
  [(three, onTime .startSyncPeriodMaintain 0), (three, onTime .theRadioPreludeTaskWSync 79950),
    (three, ({ Env.quiet 80000 with syncCoinToss := true },
      .timer .startSyncSlotAfterPrelude 80000)),
    (three, onTime .sendSync 80015)] ++
  (labelsFrom unitFive (Agent.boot unitFive 0 0)
    (List.replicate 5 (runsNext Env.quiet) ++ [fun _ => arrives 80135 syncOfThree] ++
      List.replicate 5 (runsNext tossesMerge))).map (Prod.mk five)

/-- What five says on its way to three is heard as abandoned mastership. -/
theorem air_merges_misread_mergesIntoThree :
    ∃ w, (fiveAndThree.stations fishSlotApart).air.Reachable w ∧
      ∃ f ∈ (w 0).frames, ∃ msg m, Serializer.unserialize f.buffer = .ok (some msg) ∧
        msg.type = .abandonMastership ∧ f.buffer = bufferOf m ∧
        MessageType.ReadAs m.type .abandonMastership := by
  obtain ⟨w, h, f, h_f, msg, h_read, h_type⟩ :=
    System.Reachable.exists_of_play (M := (fiveAndThree.stations fishSlotApart).air)
      (P := fun w => ∃ f ∈ (w 0).frames, ∃ msg ∈ Agent.messageOf (some f.buffer),
        msg.type = .abandonMastership) mergesIntoThree
      (show (fiveAndThree.stations fishSlotApart).air.init
        (fun i => Agent.boot (fiveAndThree.config i) 0 0) from
          fun i => ⟨0, 0, Nat.le_refl _, rfl⟩)
      (by decide +kernel)
  obtain ⟨buffer, h_buffer, h_ok⟩ := Agent.messageOf_eq_some h_read
  cases h_buffer
  obtain ⟨m, h_m, h_as⟩ := (air_merges_misread h).1 0 f h_f msg h_ok
  rw [h_type] at h_as
  exact ⟨w, h, f, h_f, msg, m, h_ok, h_type, h_m, h_as⟩

end Units

end SleepSync
