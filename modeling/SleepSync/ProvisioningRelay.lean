/-
  SleepSync.ProvisioningRelay

  A provisioning that reaches the master, and the same one that reaches a slave of
  it, which relays it in its sync slots: the repeater, the building of the message,
  its bytes on the air, and the handler of the master's sync slot.

  A work control is never relayed, since the message cannot be built.  A granularity
  is relayed, and is read with the order of the encoding reversed, so that only the
  one in the middle arrives as it was provisioned.  A garbled granularity is ignored
  by both.
-/

import SleepSync.Granularity
import SleepSync.WireFormat

namespace SleepSync

open Lib ScheduleParameters

-- ============================================================================
-- The two ways
-- ============================================================================

/-- The property has a value: `WorkTime`, `WorkCycle` or `NetGranularity`. -/
def ProvisionedValue.HasValue (provision : ProvisionedValue) : Prop :=
  provision.index = 0 ∨ provision.index = 2 ∨ provision.index = 3

/-- A slave of unit `c` that repeats nothing is provisioned. -/
structure SlaveProvisioned (c cS : Config) (provision : ProvisionedValue) (a a' : Agent) :
    Prop where
  reachable : (agentSystem cS).Reachable a
  isSlave : a.protocol.isSelfMaster cS = false
  clique : a.protocol.masterID = c.id
  idle : a.repeater.isActive = false
  step : ∃ e, (agentSystem cS).enabled a (e, .provisionerSucceed provision) ∧
    stepAgent cS a e (.provisionerSucceed provision) = .ok a'

/-- At some time after that, still in the clique of unit `c`, the slave sends what it
    then began to repeat. -/
structure SlaveRelays (c cS : Config) (e : Env) (a' b : Agent) : Prop where
  leads : (agentSystem cS).Leads a' b
  messageType : b.repeater.messageType = a'.repeater.messageType
  aValue : b.repeater.aValue = a'.repeater.aValue
  onDone : b.repeater.onDoneCallback = a'.repeater.onDoneCallback
  clique : b.protocol.masterID = c.id
  kind : b.kind = .sendControlSync
  enabled : ∃ x, (agentSystem cS).enabled b (e, .timer .sendSync x)

/-- The control message of `b`, over the air, to the sync slot of the master. -/
def relayTo (c cS : Config) (e eM : Env) (b pm : Protocol) : Except Fault Protocol := do
  let msg ← b.sendControlSync cS e
  let received ← Serializer.unserialize (bufferOf msg)
  match received with
  | none => return pm
  | some heard => stepProtocol c pm eM (.hearInSyncSlot heard)

/-- What the master in state `pm` has of the provisioning of a slave: nothing, where
    the slave has nothing to relay. -/
inductive MasterLearns (c cS : Config) (provision : ProvisionedValue) (eM : Env) (pm : Protocol) :
    Except Fault Protocol → Prop
  | ignored {a a' : Agent} (h : SlaveProvisioned c cS provision a a')
      (h_idle : a'.repeater.isActive = false) : MasterLearns c cS provision eM pm (.ok pm)
  | relayed {a a' b : Agent} {e : Env} (h : SlaveProvisioned c cS provision a a')
      (h_active : a'.repeater.isActive = true) (h_relays : SlaveRelays c cS e a' b) :
      MasterLearns c cS provision eM pm (relayTo c cS e eM b.protocol pm)

/-- The callbacks are given the same, and the same granularity is announced. -/
def SameControl (x y : Except Fault Protocol) : Prop :=
  ∃ p q, x = .ok p ∧ y = .ok q ∧ p.appCalls = q.appCalls ∧ p.intraClique = q.intraClique

theorem SameControl.refl (p : Protocol) : SameControl (.ok p) (.ok p) :=
  ⟨p, p, rfl, rfl, rfl, rfl⟩

theorem not_sameControl_error (x : Except Fault Protocol) (flt : Fault) :
    ¬ SameControl x (.error flt) := by
  rintro ⟨p, q, -, h_error, -⟩
  cases h_error

-- ============================================================================
-- The slave
-- ============================================================================

/-- What a provisioned slave is told to relay. -/
def ProvisionedValue.control (cS : Config) (provision : ProvisionedValue) : Option ControlKind :=
  match provision.index with
  | 0 => some (.upstreamWorkTime (cS.elapsedToAdvanceConverterFunc
      (Protocol.calculateElapsedSyncPeriods provision.offset)))
  | 1 => some .upstreamScatter
  | 2 => some (.upstreamWorkCycle provision.value.toNat)
  | 3 =>
      if Granularity.getFromRaw provision.value = .invalid then none
      else some (.upstreamCliqueSizeChange (Granularity.getFromRaw provision.value))
  | _ => none

section Slave

variable {c cS : Config} {provision : ProvisionedValue} {e : Env} {a a' b : Agent}

theorem provisionSucceed_slave {p p' : Protocol} (h_slave : p.isSelfMaster cS = false)
    (h : p.provisionSucceed cS provision = .ok p') :
    p'.intraClique =
      match provision.control cS with
      | some k => k.start p.intraClique
      | none => p.intraClique := by
  have h_not : ¬ p.isSelfMaster cS = true := ne_true_of_eq_false h_slave
  unfold ProvisionedValue.control
  unfold Protocol.provisionSucceed at h
  split at h
  case h_1 h_index =>
    cases h
    rw [h_index]
    unfold Protocol.provisionWorkTime
    dsimp only
    rw [if_neg h_not]
    rfl
  case h_2 h_index =>
    cases h
    rw [h_index]
    unfold Protocol.handleScatterProvisioning
    rw [if_neg h_not]
    rfl
  case h_3 h_index =>
    cases h
    rw [h_index]
    unfold Protocol.provisionWorkCycle
    rw [if_neg h_not]
    rfl
  case h_4 h_index =>
    cases h
    rw [h_index]
    unfold Protocol.handleNetGranularityProvisioning
    dsimp only
    by_cases h_invalid : Granularity.getFromRaw provision.value = .invalid
    · rw [if_pos h_invalid, if_pos h_invalid]
      rfl
    · rw [if_neg h_invalid, if_neg h_invalid, if_neg h_not]
      rfl
  case h_5 h_index =>
    cases h
    rw [h_index]
    rfl
  case h_6 => cases h

/-- The repeater of an idle slave holds what it was told to relay, and nothing else
    becomes active. -/
theorem SlaveProvisioned.repeater (h : SlaveProvisioned c cS provision a a') :
    a'.repeater =
      match provision.control cS with
      | some k => k.repeater
      | none => a.repeater := by
  obtain ⟨e, -, h_step⟩ := h.step
  obtain ⟨p, h_p, rfl⟩ := bind_return_eq_ok.1 h_step
  have h_provision : a.protocol.provisionSucceed cS provision = .ok p :=
    Agent.ofProtocol_eq_ok.1 h_p
  have h_start := provisionSucceed_slave h.isSlave h_provision
  have h_idle : ¬ a.protocol.intraClique.isActive = true := ne_true_of_eq_false h.idle
  show p.intraClique.repeater = _
  rw [h_start]
  cases provision.control cS with
  | none => rfl
  | some k =>
      dsimp only
      rw [k.start_repeater, if_neg h_idle]

theorem SlaveProvisioned.control_of_active (h : SlaveProvisioned c cS provision a a')
    (h_active : a'.repeater.isActive = true) :
    ∃ k, provision.control cS = some k ∧ a'.repeater = k.repeater := by
  have h_repeater := h.repeater
  cases h_control : provision.control cS with
  | none =>
      rw [h_control] at h_repeater
      rw [h_repeater, h.idle] at h_active
      cases h_active
  | some k =>
      rw [h_control] at h_repeater
      exact ⟨k, rfl, h_repeater⟩

theorem SlaveProvisioned.control_of_idle (h : SlaveProvisioned c cS provision a a')
    (h_idle : a'.repeater.isActive = false) : provision.control cS = none := by
  have h_repeater := h.repeater
  cases h_control : provision.control cS with
  | none => rfl
  | some k =>
      rw [h_control] at h_repeater
      rw [h_repeater] at h_idle
      cases h_idle

/-- A message upstream that waits to be sent was begun in a period whose end has not
    been adjusted, even the last one: its action does nothing. -/
theorem Agent.ControlStep.sends_unadjusted {ev : AgentEvent}
    (h : Agent.ControlStep cS e a ev a') (h_sends : a'.SendsControl)
    (h_upstream : a'.repeater.onDoneCallback = .onDoneRepeatingUpstream) :
    a'.protocol.schedule.endTimeOfSyncPeriod =
      a'.protocol.schedule.unadjustedEndTimeOfSyncPeriod := by
  cases h with
  | counts _ _ _ h_protocol =>
      rw [h_protocol]
      rfl
  | finishes _ _ _ h_done =>
      have h_callback : a'.repeater.onDoneCallback =
          a.protocol.intraClique.repeater.onDoneCallback := by
        unfold Agent.repeater
        rw [Protocol.onDone_intraClique h_done]
        rfl
      rw [← h_callback, h_upstream] at h_done
      obtain ⟨-, h_rest⟩ := require_bind_eq_ok.1 h_done
      have h_protocol := (Except.ok.inj h_rest).symm
      rw [h_protocol]
      rfl
  | sends _ _ _ h_after => exact absurd h_sends h_after
  | rests _ _ _ _ h_after => exact absurd h_sends h_after
  | changes _ _ _ _ h_after => exact absurd h_sends h_after

theorem agentSystem_sends_unadjusted (h : (agentSystem cS).Reachable b) (h_sends : b.SendsControl)
    (h_upstream : b.repeater.onDoneCallback = .onDoneRepeatingUpstream) :
    b.protocol.schedule.endTimeOfSyncPeriod =
      b.protocol.schedule.unadjustedEndTimeOfSyncPeriod := by
  have h_inv : b.SendsControl → b.repeater.onDoneCallback = .onDoneRepeatingUpstream →
      b.protocol.schedule.endTimeOfSyncPeriod =
        b.protocol.schedule.unadjustedEndTimeOfSyncPeriod := by
    refine Agent.invariant (fun b => b.SendsControl →
      b.repeater.onDoneCallback = .onDoneRepeatingUpstream →
      b.protocol.schedule.endTimeOfSyncPeriod =
        b.protocol.schedule.unadjustedEndTimeOfSyncPeriod) h.guarded_true ?_ ?_
    · intro i l _ h_boot
      refine absurd h_boot ?_
      apply Agent.not_sendsControl_schedule
      · rfl
      · exact Task.noConfusion
    · intro a e ev a' _ _ _ _ h_step
      exact h_step.controls.sends_unadjusted
  exact h_inv h_sends h_upstream

end Slave

-- ============================================================================
-- The master
-- ============================================================================

section Master

variable {c cS : Config} {provision : ProvisionedValue} {e eM : Env} {a a' b : Agent}
  {pm : Protocol} {r : Except Fault Protocol}

/-- A relayed message that carries sync is built. -/
theorem SlaveRelays.sends (h : SlaveRelays c cS e a' b) (h_a : (agentSystem cS).Reachable a')
    (h_upstream : a'.repeater.onDoneCallback = .onDoneRepeatingUpstream)
    (h_carries : a'.repeater.messageType.doesCarrySync = true) :
    ∃ msg, b.protocol.sendControlSync cS e = .ok msg := by
  have h_b := h_a.leads h.leads
  obtain ⟨x, h_clock, h_mem, -⟩ := h.enabled
  have h_pending := (agentSystem_oneTask h_b.guarded_true).pending_eq h_mem
  have h_end := agentSystem_sends_unadjusted h_b ⟨h.kind, x, h_pending⟩
    (h.onDone.trans h_upstream)
  refine sendControlSync_ok ?_ (syncOffset_le_of_sends h_b h_clock h_pending h_end)
  have h_type : b.protocol.intraClique.repeater.messageType = a'.repeater.messageType :=
    h.messageType
  rw [h_type]
  exact h_carries

/-- What cannot be built stops the slave. -/
theorem SlaveRelays.stops (h : SlaveRelays c cS e a' b)
    (h_not : a'.repeater.messageType.doesCarrySync = false) :
    ∃ flt, relayTo c cS e eM b.protocol pm = .error flt := by
  cases h_msg : b.protocol.sendControlSync cS e with
  | error flt =>
      refine ⟨flt, ?_⟩
      unfold relayTo
      rw [h_msg]
      rfl
  | ok msg =>
      obtain ⟨h_type, -, -, h_carries⟩ := sendControlSync_eq_ok h_msg
      have h_same : b.protocol.intraClique.repeater.messageType = a'.repeater.messageType :=
        h.messageType
      rw [h_type, h_same, h_not] at h_carries
      cases h_carries

/-- A relayed granularity is announced by the master as it reads it. -/
theorem SlaveRelays.granularity {g : NetGranularity} (h : SlaveRelays c cS e a' b)
    (h_a : (agentSystem cS).Reachable a') (h_id : c.id < 2 ^ 48)
    (h_master : pm.isSelfMaster c = true) (h_valid : g ≠ .invalid)
    (h_repeater : a'.repeater = (ControlKind.upstreamCliqueSizeChange g).repeater) :
    relayTo c cS e eM b.protocol pm =
      .ok (pm.masterTellCliqueGranularityChange
        (Granularity.getFromRaw (Granularity.getRaw g))) := by
  obtain ⟨msg, h_msg⟩ := h.sends h_a (by rw [h_repeater]; rfl) (by rw [h_repeater]; rfl)
  obtain ⟨h_type, h_work, h_from, h_carries⟩ := sendControlSync_eq_ok h_msg
  have h_control : msg.type = .controlNetGranularity := by
    rw [h_type]
    exact h.messageType.trans (by rw [h_repeater]; rfl)
  have h_payload : msg.work = Granularity.getRaw g := by
    rw [h_work]
    exact h.aValue.trans (by rw [h_repeater]; rfl)
  have h_clique : msg.masterID = c.id := h_from.trans h.clique
  have h_received : Serializer.unserialize (bufferOf msg) = .ok (some msg) := by
    refine (Serializer.unserialize_serialize_iff msg _ ⟨?_, ?_⟩).2 h_carries
    · rw [h_control]
      exact MessageType.noConfusion
    · rw [h_clique]
      exact h_id
  have h_mine : pm.isMsgFromMyClique msg.masterID = true := by
    rw [h_clique]
    exact h_master
  have h_read : Granularity.getFromRaw msg.work ≠ .invalid := by
    rw [h_payload]
    exact Granularity.getFromRaw_getRaw_ne_invalid h_valid
  have h_handled : pm.handleNetGranularityMessage c msg =
      pm.masterTellCliqueGranularityChange (Granularity.getFromRaw (Granularity.getRaw g)) := by
    unfold Protocol.handleNetGranularityMessage
    dsimp only
    rw [if_neg h_read, if_pos h_mine, if_pos h_master, h_payload]
  have h_handle : Protocol.SyncSlot.handle c eM pm msg =
      .ok (.keepListening, pm.handleNetGranularityMessage c msg) := by
    unfold Protocol.SyncSlot.handle
    rw [h_control]
  have h_step : stepProtocol c pm eM (.hearInSyncSlot msg) =
      .ok (pm.handleNetGranularityMessage c msg) :=
    bind_return_eq_ok.2 ⟨_, h_handle, rfl⟩
  unfold relayTo
  rw [h_msg]
  show (Serializer.unserialize (bufferOf msg) >>= _) = _
  rw [h_received]
  show stepProtocol c pm eM (.hearInSyncSlot msg) = _
  rw [h_step, h_handled]

/-- A granularity that reaches the master itself. -/
theorem handleNetGranularityProvisioning_master (h_master : pm.isSelfMaster c = true)
    (value : BitVec 8) :
    pm.handleNetGranularityProvisioning c value =
      if Granularity.getFromRaw value = .invalid then pm
      else pm.masterTellCliqueGranularityChange (Granularity.getFromRaw value) := by
  unfold Protocol.handleNetGranularityProvisioning
  dsimp only
  rw [if_pos h_master]

theorem masterTell_sameControl_iff {g g' : NetGranularity} :
    SameControl (.ok (pm.masterTellCliqueGranularityChange g))
      (.ok (pm.masterTellCliqueGranularityChange g')) ↔ g' = g := by
  refine ⟨?_, ?_⟩
  · rintro ⟨p, q, h_p, h_q, -, h_same⟩
    cases h_p
    cases h_q
    exact (congrArg IntraCliqueManager.granularity h_same).symm
  · rintro rfl
    exact SameControl.refl _

/-- Which bytes are read as medium, or not at all. -/
theorem getFromRaw_kept_iff (value : BitVec 8) :
    (Granularity.getFromRaw value = .medium ∨ Granularity.getFromRaw value = .invalid) ↔
      value ≠ 0 ∧ value ≠ 2 := by
  have h_all : ∀ n : Fin 256,
      (Granularity.getFromRaw (BitVec.ofFin n) = .medium ∨
        Granularity.getFromRaw (BitVec.ofFin n) = .invalid) ↔
        BitVec.ofFin n ≠ (0 : BitVec 8) ∧ BitVec.ofFin n ≠ (2 : BitVec 8) := by
    decide +kernel
  exact h_all value.toFin

/-- Of the kinds of control that have a value, only a granularity carries sync. -/
theorem ProvisionedValue.control_work {k : ControlKind} (h_value : provision.HasValue)
    (h_index : provision.index ≠ 3) (h : provision.control cS = some k) :
    k.messageType.doesCarrySync = false := by
  unfold ProvisionedValue.control at h
  rcases h_value with h_0 | h_2 | h_3
  · rw [h_0] at h
    cases h
    rfl
  · rw [h_2] at h
    cases h
    rfl
  · exact absurd h_3 h_index

theorem ProvisionedValue.control_isSome (h_value : provision.HasValue)
    (h_index : provision.index ≠ 3) : provision.control cS ≠ none := by
  unfold ProvisionedValue.control
  rcases h_value with h_0 | h_2 | h_3
  · rw [h_0]
    exact Option.some_ne_none _
  · rw [h_2]
    exact Option.some_ne_none _
  · exact absurd h_3 h_index

/-- A work control that reaches a slave never reaches its master. -/
theorem MasterLearns.work_stops (h : MasterLearns c cS provision eM pm r)
    (h_value : provision.HasValue) (h_index : provision.index ≠ 3) : ∃ flt, r = .error flt := by
  cases h with
  | ignored h_slave h_idle =>
      exact absurd (h_slave.control_of_idle h_idle) (provision.control_isSome h_value h_index)
  | relayed h_slave h_active h_relays =>
      obtain ⟨k, h_control, h_repeater⟩ := h_slave.control_of_active h_active
      refine h_relays.stops ?_
      rw [h_repeater]
      exact ProvisionedValue.control_work h_value h_index h_control

/-- A granularity that reaches a slave reaches its master with the encoding reversed,
    unless it is garbled. -/
theorem MasterLearns.granularity (h : MasterLearns c cS provision eM pm r)
    (h_id : c.id < 2 ^ 48) (h_master : pm.isSelfMaster c = true) (h_index : provision.index = 3) :
    r = if Granularity.getFromRaw provision.value = .invalid then .ok pm
      else .ok (pm.masterTellCliqueGranularityChange (Granularity.getFromRaw
        (Granularity.getRaw (Granularity.getFromRaw provision.value)))) := by
  have h_control : provision.control cS =
      if Granularity.getFromRaw provision.value = .invalid then none
      else some (.upstreamCliqueSizeChange (Granularity.getFromRaw provision.value)) := by
    unfold ProvisionedValue.control
    rw [h_index]
    rfl
  by_cases h_valid : Granularity.getFromRaw provision.value = .invalid
  · rw [if_pos h_valid] at h_control ⊢
    cases h with
    | ignored => rfl
    | relayed h_slave h_active =>
        obtain ⟨k, h_k, -⟩ := h_slave.control_of_active h_active
        rw [h_control] at h_k
        cases h_k
  · rw [if_neg h_valid] at h_control ⊢
    cases h with
    | ignored h_slave h_idle =>
        rw [h_slave.control_of_idle h_idle] at h_control
        cases h_control
    | relayed h_slave h_active h_relays =>
        obtain ⟨k, h_k, h_repeater⟩ := h_slave.control_of_active h_active
        rw [h_control] at h_k
        cases h_k
        obtain ⟨e, h_en, h_step⟩ := h_slave.step
        have h_a := h_slave.reachable.next h_en h_step
        exact h_relays.granularity h_a h_id h_master h_valid h_repeater

end Master

/-- Whatever unit `c` as master and its slave are in: a provisioned value has the same
    effect by way of the slave exactly if it is a granularity that is read as medium
    or, by both, not at all. -/
theorem provisioning_relayed_same_iff {c cS : Config} {provision : ProvisionedValue} {eM : Env}
    {pm : Protocol} {r : Except Fault Protocol} (h_id : c.id < 2 ^ 48)
    (h_value : provision.HasValue) (h_master : pm.isSelfMaster c = true)
    (h : MasterLearns c cS provision eM pm r) :
    SameControl (pm.provisionSucceed c provision) r ↔
      provision.index = 3 ∧ provision.value ≠ 0 ∧ provision.value ≠ 2 := by
  by_cases h_index : provision.index = 3
  · have h_direct : pm.provisionSucceed c provision =
        .ok (pm.handleNetGranularityProvisioning c provision.value) := by
      unfold Protocol.provisionSucceed
      rw [h_index]
      rfl
    rw [h.granularity h_id h_master h_index, h_direct,
      handleNetGranularityProvisioning_master h_master, ← getFromRaw_kept_iff]
    by_cases h_valid : Granularity.getFromRaw provision.value = .invalid
    · rw [if_pos h_valid, if_pos h_valid]
      exact iff_of_true (SameControl.refl pm) ⟨h_index, Or.inr h_valid⟩
    · rw [if_neg h_valid, if_neg h_valid, masterTell_sameControl_iff,
        Granularity.getFromRaw_getRaw_iff]
      exact ⟨fun h_kept => ⟨h_index, h_kept⟩, fun h_kept => h_kept.2⟩
  · obtain ⟨flt, rfl⟩ := h.work_stops h_value h_index
    exact iff_of_false (not_sameControl_error _ _) fun h_kept => h_index h_kept.1

-- ============================================================================
-- A slave of three
-- ============================================================================

/-- Unit five with a softdevice, which lets it be provisioned. -/
def unitFiveProvisionable : Config := { unitFive with softdevicePresent := true }

/-- The pending task runs when it expires. -/
def runsNext (env : Nat → Env) (a : Agent) : Env × AgentEvent :=
  match a.pending with
  | (t, x) :: _ => (env x, .timer t x)
  | [] => (env a.clock, .provisionerFail)

/-- The labels of a script in which each one may depend on the state it is met in. -/
def labelsFrom (c : Config) (a : Agent) :
    List (Agent → Env × AgentEvent) → List (Env × AgentEvent)
  | [] => []
  | label :: labels =>
      label a ::
        match stepAgent c a (label a).1 (label a).2 with
        | .ok a' => labelsFrom c a' labels
        | .error _ => []

def startsBLE (now : Nat) : Env := { Env.quiet now with isBLEStartedOK := true }

def tossesControl (now : Nat) : Env := { Env.quiet now with repeaterCoinToss := true }

/-- Unit five joins the clique of three in its first sync slot, and is ready to be
    provisioned after that of its eighth period. -/
def awaitsProvisioning : List (Env × AgentEvent) :=
  labelsFrom unitFiveProvisionable (Agent.boot unitFiveProvisionable 0 0)
    (List.replicate 3 (runsNext Env.quiet) ++
      [fun _ => arrives 80020 (masterSyncFrom 3 (.ofTicks 79980))] ++
      List.replicate 41 (runsNext Env.quiet) ++ [runsNext startsBLE])

/-- In the next sync slot it is its turn. -/
def relaysNext (a : Agent) : List (Env × AgentEvent) :=
  labelsFrom unitFiveProvisionable a (List.replicate 3 (runsNext tossesControl))

def provisionsAt (now : Nat) (provision : ProvisionedValue) : Env × AgentEvent :=
  (Env.quiet now, .provisionerSucceed provision)

/-- The provisioned slave and the slave that relays. -/
def RelaysToThree (a a' : Agent) : Prop :=
  a.protocol.isSelfMaster unitFiveProvisionable = false ∧ a.protocol.masterID = unitThree.id ∧
    a.repeater.isActive = false ∧ a'.repeater.isActive = true ∧
    ∃ b ∈ (agentSystem unitFiveProvisionable).play a' (relaysNext a'),
      b.repeater.messageType = a'.repeater.messageType ∧
        b.repeater.aValue = a'.repeater.aValue ∧
        b.repeater.onDoneCallback = a'.repeater.onDoneCallback ∧
        b.protocol.masterID = unitThree.id ∧ b.kind = .sendControlSync ∧
        (agentSystem unitFiveProvisionable).enabled b (Env.quiet 720015, .timer .sendSync 720015)

instance (a a' : Agent) : Decidable (RelaysToThree a a') :=
  inferInstanceAs (Decidable (_ ∧ _))

theorem masterLearns_of_play (provision : ProvisionedValue) (eM : Env) (pm : Protocol)
    (h : ∃ a ∈ (agentSystem unitFiveProvisionable).play (Agent.boot unitFiveProvisionable 0 0)
        awaitsProvisioning,
      (agentSystem unitFiveProvisionable).enabled a (provisionsAt 640060 provision) ∧
        ∃ a' ∈ (agentSystem unitFiveProvisionable).play a [provisionsAt 640060 provision],
          RelaysToThree a a') :
    ∃ r, MasterLearns unitThree unitFiveProvisionable provision eM pm r := by
  have h_boot : (agentSystem unitFiveProvisionable).init (Agent.boot unitFiveProvisionable 0 0) :=
    ⟨0, 0, Nat.le_refl 0, rfl⟩
  obtain ⟨a, a', h_reach, h_en, h_step, h_relays⟩ :=
    System.Reachable.exists_step_of_play awaitsProvisioning (provisionsAt 640060 provision) h_boot h
  obtain ⟨h_slave, h_clique, h_idle, h_active, b, h_play, h_type, h_value, h_done, h_still, h_kind,
    h_sends⟩ := h_relays
  have h_provisioned : SlaveProvisioned unitThree unitFiveProvisionable provision a a' :=
    ⟨h_reach, h_slave, h_clique, h_idle, _, h_en, h_step⟩
  have h_relayed : SlaveRelays unitThree unitFiveProvisionable (Env.quiet 720015) a' b :=
    ⟨System.play_leads h_play, h_type, h_value, h_done, h_still, h_kind, _, h_sends⟩
  exact ⟨_, MasterLearns.relayed h_provisioned h_active h_relayed⟩

def provisionsGranularity (value : BitVec 8) : ProvisionedValue where
  index := 3
  value := value
  offset := 0

/-- Medium has the same effect either way. -/
theorem provisioning_relayed_same_iff_medium :
    ∃ r, MasterLearns unitThree unitFiveProvisionable (provisionsGranularity 1) (Env.quiet 720025)
        (Protocol.boot unitThree 0 0) r ∧
      SameControl ((Protocol.boot unitThree 0 0).provisionSucceed unitThree
        (provisionsGranularity 1)) r := by
  obtain ⟨r, h⟩ := masterLearns_of_play (provisionsGranularity 1) (Env.quiet 720025)
    (Protocol.boot unitThree 0 0) (by decide +kernel)
  refine ⟨r, h, ?_⟩
  exact (provisioning_relayed_same_iff (by decide) (Or.inr (Or.inr rfl)) rfl h).2 (by decide)

/-- Large, provisioned at a slave, is announced as small. -/
theorem provisioned_large_relayed_small :
    ∃ p, MasterLearns unitThree unitFiveProvisionable (provisionsGranularity 0) (Env.quiet 720025)
        (Protocol.boot unitThree 0 0) (.ok p) ∧ p.intraClique.granularity = .small ∧
      ¬ SameControl ((Protocol.boot unitThree 0 0).provisionSucceed unitThree
        (provisionsGranularity 0)) (.ok p) := by
  obtain ⟨r, h⟩ := masterLearns_of_play (provisionsGranularity 0) (Env.quiet 720025)
    (Protocol.boot unitThree 0 0) (by decide +kernel)
  have h_r := h.granularity (by decide) rfl rfl
  have h_small : r = .ok ((Protocol.boot unitThree 0 0).masterTellCliqueGranularityChange
    .small) := h_r
  rw [h_small] at h
  refine ⟨_, h, rfl, fun h_same => ?_⟩
  have h_large := masterTell_sameControl_iff.1 h_same
  cases h_large

end SleepSync
