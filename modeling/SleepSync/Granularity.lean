/-
  SleepSync.Granularity

  The granularity of a unit: its two encodings, what changes it, and that no
  garbled one is ever kept, remembered or announced.

  A slave takes it from the MasterSyncs it hears in its sync slots, and from
  nothing else; a master sets it also where it completes an announcement.
-/

import SleepSync.EpisodeIntegrity
import SleepSync.TaskRefinement

namespace SleepSync

open Lib

-- ============================================================================
-- The encoding
-- ============================================================================

namespace Granularity

/-- What `trySetGranularity` makes of the granularity: a garbled one is ignored. -/
def tried (old new : NetGranularity) : NetGranularity :=
  if new = .invalid then old else new

theorem tried_of_valid {old new : NetGranularity} (h : new ≠ .invalid) : tried old new = new :=
  if_neg h

theorem tried_ne_invalid {old new : NetGranularity} (h : old ≠ .invalid) :
    tried old new ≠ .invalid := by
  unfold tried
  split
  · exact h
  · assumption

/-- What is sent is what is read only where it is in the middle of the order. -/
theorem getFromRaw_getRaw_iff (g : NetGranularity) :
    getFromRaw (getRaw g) = g ↔ g = .medium ∨ g = .invalid := by
  cases g <;> decide

theorem getFromRaw_getRaw_ne_invalid {g : NetGranularity} (h : g ≠ .invalid) :
    getFromRaw (getRaw g) ≠ .invalid := by
  cases g with
  | invalid => exact absurd rfl h
  | _ => exact NetGranularity.noConfusion

end Granularity

-- ============================================================================
-- What changes the granularity of a unit
-- ============================================================================

/-- The event is a MasterSync in the sync slot. -/
def ProtocolEvent.hearsMasterSync : ProtocolEvent → Bool
  | .hearInSyncSlot msg => msg.type = .masterSync
  | _ => false

namespace Protocol

section Changes

variable {c : Config} {e : Env} {p p' : Protocol} {ev : ProtocolEvent} {msg : SyncMessage}

theorem trySetGranularity_granularity (p : Protocol) (granularity : NetGranularity) :
    (p.trySetGranularity granularity).granularity =
      Granularity.tried p.granularity granularity := by
  unfold trySetGranularity Granularity.tried
  split <;> rfl

theorem handleGranularityAspect_granularity (p : Protocol) (msg : SyncMessage) :
    (p.handleGranularityAspectOfMasterSync msg).granularity =
      Granularity.tried p.granularity (Granularity.getFromRaw msg.work) := by
  unfold handleGranularityAspectOfMasterSync
  dsimp only
  split
  · exact trySetGranularity_granularity p _
  · rename_i h_same
    rw [not_not.1 h_same]
    unfold Granularity.tried
    rw [ite_self]

theorem handleSyncAspect_granularity {r : HandlingResult}
    (h : p.handleSyncAspectOfSyncCarryingMsg e msg = .ok (r, p')) :
    p'.granularity = p.granularity := by
  obtain ⟨⟨b, p₁⟩, h_filter, h_eq⟩ := bind_return_eq_ok.1 h
  obtain rfl : p' = p₁ := (Prod.mk.inj h_eq).2
  rcases filterSyncMsg_eq_ok h_filter with ⟨-, s, -, rfl⟩ | ⟨-, rfl⟩ <;> rfl

/-- Whoever sent it: the granularity is taken before the message is filtered. -/
theorem handle_masterSync_granularity {r : HandlingResult} (h_type : msg.type = .masterSync)
    (h : SyncSlot.handle c e p msg = .ok (r, p')) :
    p'.granularity = Granularity.tried p.granularity (Granularity.getFromRaw msg.work) := by
  unfold SyncSlot.handle at h
  rw [h_type] at h
  have h_sync := handleSyncAspect_granularity h
  rw [h_sync, handleGranularityAspect_granularity]

theorem handle_other_granularity {r : HandlingResult} (h_type : msg.type ≠ .masterSync)
    (h : SyncSlot.handle c e p msg = .ok (r, p')) : p'.granularity = p.granularity := by
  unfold SyncSlot.handle at h
  cases h_t : msg.type <;> rw [h_t] at h
  case masterSync => exact absurd h_t h_type
  case workSync =>
    obtain ⟨w, a, h_w⟩ := handleWorkAspectOfWorkCarryingMsg_eq p msg
    have h_sync := handleSyncAspect_granularity h
    rw [h_sync, h_w]
  case controlNetGranularity =>
    cases h
    obtain ⟨i, h_i⟩ := handleNetGranularityMessage_eq c p msg
    rw [h_i]
  case controlScatterClique =>
    obtain ⟨p₁, h_scatter, h_eq⟩ := bind_return_eq_ok.1 h
    obtain rfl : p' = p₁ := (Prod.mk.inj h_eq).2
    rcases handleScatterMessage_eq_ok h_scatter with ⟨i, rfl⟩ | ⟨-, -, i, f, s, -, -, rfl⟩ <;> rfl
  case controlWorkTime =>
    cases h
    obtain ⟨a, h_a⟩ := handleWorkTimeMessage_eq c p msg
    rw [h_a]
  case controlWorkCycle =>
    cases h
    obtain ⟨a, h_a⟩ := handleWorkCycleMessage_eq c p msg
    rw [h_a]
  all_goals
    cases h
    rfl

theorem onDone_granularity (h : p.onDone c e .onDoneGranularityWithAction = .ok p') :
    p.isSelfMaster c = true ∧ ∃ x, p' = { p with
      granularity := Granularity.tried p.granularity p.intraClique.granularity
      xmitPower := x } := by
  obtain ⟨h_master, h_rest⟩ := require_bind_eq_ok.1 h
  cases h_rest
  obtain ⟨g, x, h_eq⟩ := trySetGranularity_eq p p.intraClique.granularity
  have h_g := trySetGranularity_granularity p p.intraClique.granularity
  rw [h_eq] at h_g ⊢
  exact ⟨h_master, x, by rw [← h_g]⟩

theorem onDone_other_granularity {callback : OnDoneCallback}
    (h_callback : callback ≠ .onDoneGranularityWithAction) (h : p.onDone c e callback = .ok p') :
    p'.granularity = p.granularity := by
  cases callback with
  | onDoneGranularityWithAction => exact absurd rfl h_callback
  | onDoneRepeatingUpstream =>
      obtain ⟨-, h_rest⟩ := require_bind_eq_ok.1 h
      cases h_rest
      rfl
  | onDoneScatter =>
      obtain ⟨-, h_scatter⟩ := require_bind_eq_ok.1 h
      obtain ⟨f, s, -, -, rfl⟩ := scatterSync_eq_ok.1 h_scatter
      rfl

/-- A sync slot sets the granularity only where it completes a master's
    announcement of one. -/
theorem dispatch_granularity (h : stepProtocol c p e .dispatchSyncSlotKind = .ok p') :
    p'.granularity = p.granularity ∨
      (p.isSelfMaster c = true ∧
        p'.granularity = Granularity.tried p.granularity p.intraClique.granularity) := by
  by_cases h_control : (p.decideKind c e).1 = .sendControlSync
  · rcases dispatch_control h_control h with ⟨-, rfl⟩ | ⟨-, h_done⟩
    · exact Or.inl rfl
    · by_cases h_callback :
          p.intraClique.repeater.onDoneCallback = .onDoneGranularityWithAction
      · rw [h_callback] at h_done
        obtain ⟨h_master, x, rfl⟩ := onDone_granularity h_done
        exact Or.inr ⟨h_master, rfl⟩
      · have h_same := onDone_other_granularity h_callback h_done
        exact Or.inl h_same
  · rw [dispatch_other h_control h]
    exact Or.inl rfl

/-- Everything else leaves it alone. -/
theorem other_granularity (h_hears : ev.hearsMasterSync = false)
    (h_ev : ev ≠ .dispatchSyncSlotKind) (h : stepProtocol c p e ev = .ok p') :
    p'.granularity = p.granularity := by
  cases stepProtocol_done h with
  | heard =>
      obtain ⟨⟨r, p₁⟩, h_handle, rfl⟩ := bind_return_eq_ok.1 h
      exact handle_other_granularity (of_decide_eq_false h_hears) h_handle
  | fished h_fished => cases h_fished <;> rfl
  | decided => exact absurd rfl h_ev
  | listened h_ended => cases h_ended <;> rfl
  | checked h_checked => cases h_checked <;> rfl
  | _ => rfl

/-- A slave takes its granularity from the MasterSyncs of its sync slots only. -/
theorem slave_granularity (h_slave : p.isSelfMaster c = false)
    (h_hears : ev.hearsMasterSync = false) (h : stepProtocol c p e ev = .ok p') :
    p'.granularity = p.granularity := by
  by_cases h_ev : ev = .dispatchSyncSlotKind
  · subst h_ev
    refine (dispatch_granularity h).resolve_right ?_
    rintro ⟨h_master, -⟩
    rw [h_slave] at h_master
    cases h_master
  · exact other_granularity h_hears h_ev h

end Changes

end Protocol

-- ============================================================================
-- No garbled granularity is kept or sent
-- ============================================================================

/-- The granularities of a unit, its own and those of an announcement, are three of
    the enumeration. -/
structure Protocol.GranularityValid (p : Protocol) : Prop where
  own : p.granularity ≠ .invalid
  remembered : p.intraClique.granularity ≠ .invalid
  announced : p.intraClique.repeater.messageType = .masterSync →
    Granularity.getFromRaw p.intraClique.repeater.aValue ≠ .invalid
  downstream : p.intraClique.repeater.onDoneCallback = .onDoneGranularityWithAction →
    p.intraClique.repeater.messageType = .masterSync

section Valid

variable {c : Config} {e : Env} {p p' : Protocol} {ev : ProtocolEvent}

theorem ControlKind.IsValid.announced {k : ControlKind} (h : k.IsValid)
    (h_type : k.messageType = .masterSync) : Granularity.getFromRaw k.payload ≠ .invalid := by
  cases k with
  | downstreamCliqueSizeChange granularity => exact Granularity.getFromRaw_getRaw_ne_invalid h
  | _ => cases h_type

theorem ControlKind.messageType_of_onDone {k : ControlKind}
    (h : k.onDone = .onDoneGranularityWithAction) : k.messageType = .masterSync := by
  cases k with
  | downstreamCliqueSizeChange granularity => rfl
  | _ => cases h

theorem stepProtocol_own_ne_invalid (h_p : p.GranularityValid)
    (h : stepProtocol c p e ev = .ok p') : p'.granularity ≠ .invalid := by
  by_cases h_ev : ev = .dispatchSyncSlotKind
  · subst h_ev
    rcases Protocol.dispatch_granularity h with h_same | ⟨-, h_tried⟩
    · rw [h_same]
      exact h_p.own
    · rw [h_tried]
      exact Granularity.tried_ne_invalid h_p.own
  by_cases h_hears : ev.hearsMasterSync = true
  · cases ev with
    | hearInSyncSlot msg =>
        obtain ⟨⟨r, p₁⟩, h_handle, rfl⟩ := bind_return_eq_ok.1 h
        rw [Protocol.handle_masterSync_granularity (of_decide_eq_true h_hears) h_handle]
        exact Granularity.tried_ne_invalid h_p.own
    | _ => cases h_hears
  · rw [Protocol.other_granularity (eq_false_of_ne_true h_hears) h_ev h]
    exact h_p.own

theorem stepProtocol_granularityValid (h_p : p.GranularityValid)
    (h : stepProtocol c p e ev = .ok p') : p'.GranularityValid := by
  have h_own := stepProtocol_own_ne_invalid h_p h
  have h_same : p'.intraClique.granularity = p.intraClique.granularity →
      p'.intraClique.repeater.messageType = p.intraClique.repeater.messageType →
      p'.intraClique.repeater.aValue = p.intraClique.repeater.aValue →
      p'.intraClique.repeater.onDoneCallback = p.intraClique.repeater.onDoneCallback →
      p'.GranularityValid := by
    intro h_remembered h_type h_value h_callback
    refine ⟨h_own, ?_, ?_, ?_⟩
    · rw [h_remembered]
      exact h_p.remembered
    · rw [h_type, h_value]
      exact h_p.announced
    · rw [h_type, h_callback]
      exact h_p.downstream
  have h_change := Protocol.stepProtocol_episode h
  generalize h_i : p'.intraClique = i at h_change h_same
  cases h_change with
  | requested k _ _ h_valid =>
      have h_remembered : p'.intraClique.granularity ≠ .invalid := by
        rw [h_i, k.start_granularity]
        cases k with
        | downstreamCliqueSizeChange granularity => exact h_valid
        | _ => exact h_p.remembered
      have h_repeater := k.start_repeater p.intraClique
      rw [← h_i] at h_repeater
      by_cases h_active : p.intraClique.isActive = true
      · rw [if_pos h_active] at h_repeater
        refine ⟨h_own, h_remembered, ?_, ?_⟩
        · rw [h_repeater]
          exact h_p.announced
        · rw [h_repeater]
          exact h_p.downstream
      · rw [if_neg h_active] at h_repeater
        refine ⟨h_own, h_remembered, ?_, ?_⟩
        · rw [h_repeater]
          exact h_valid.announced
        · rw [h_repeater]
          exact ControlKind.messageType_of_onDone
  | _ => exact h_same rfl rfl rfl rfl

theorem Protocol.boot_granularityValid (c : Config) (initTime loopTime : Nat) :
    (Protocol.boot c initTime loopTime).GranularityValid where
  own := NetGranularity.noConfusion
  remembered := NetGranularity.noConfusion
  announced h_type := MessageType.noConfusion h_type
  downstream h_callback := OnDoneCallback.noConfusion h_callback

theorem protocolSystem_granularityValid (h : (protocolSystem c).Reachable p) :
    p.GranularityValid := by
  refine h.invariant (fun p => p.GranularityValid) ?_ ?_
  · rintro p ⟨initTime, loopTime, rfl⟩
    obtain ⟨h_own, h_remembered, h_announced, h_downstream⟩ :=
      Protocol.boot_granularityValid c initTime loopTime
    exact ⟨h_own, h_remembered, h_announced, h_downstream⟩
  · intro p l p' h_p _ h_step
    exact stepProtocol_granularityValid h_p h_step

theorem agentSystem_granularityValid {a : Agent} (h : (agentSystem c).Reachable a) :
    a.protocol.GranularityValid :=
  agentSystem_protocol h (Protocol.boot_granularityValid c)
    fun _ => protocolSystem_granularityValid

end Valid

end SleepSync
