/-
  SleepSync.ControlSources

  Who asks for the control of a clique.

  Nothing of it starts by itself.  What the repeater holds, the granularity that a
  unit has, and the work control that its app is told of all go back to a property
  that someone provisioned: the unit itself, or the sender of a message that says
  so (`Asks`).  `ControlledBy told` is what holds as long as only the properties
  in `told` are asked for.
-/

import SleepSync.Granularity
import SleepSync.AppCalls

namespace SleepSync

open Lib

/-- The index of the property that starts a control when it is provisioned. -/
def ControlKind.index : ControlKind → Nat
  | upstreamWorkTime _ => 0
  | upstreamScatter | downstreamScatter => 1
  | upstreamWorkCycle _ => 2
  | upstreamCliqueSizeChange _ | downstreamCliqueSizeChange _ => 3

/-- The property that a call of the app is about. -/
def AppCall.index : AppCall → Option Nat
  | .workTimeControl _ => some 0
  | .workCycleControl _ => some 2
  | _ => none

/-- The property that a message is about.  Each master sync tells a granularity: that
    with which a unit boots is told as another one, but never as medium. -/
inductive SyncMessage.Tells (msg : SyncMessage) : Nat → Prop
  | workTime (h_type : msg.type = .controlWorkTime) : Tells msg 0
  | scatter (h_type : msg.type = .controlScatterClique) : Tells msg 1
  | workCycle (h_type : msg.type = .controlWorkCycle) : Tells msg 2
  | granularity (h_type : msg.type = .controlNetGranularity) : Tells msg 3
  | master (h_type : msg.type = .masterSync) (h_work : Granularity.getFromRaw msg.work = .medium) :
      Tells msg 3

namespace Protocol

/-- The properties that an event asks a unit for. -/
inductive Asks (p : Protocol) : ProtocolEvent → Nat → Prop
  | heard {msg : SyncMessage} {n : Nat} (h_tells : msg.Tells n)
      (h_mine : msg.type = .masterSync ∨ p.isMsgFromMyClique msg.masterID = true) :
      Asks p (.hearInSyncSlot msg) n
  | provisioned {provision : ProvisionedValue} : Asks p (.provisionSucceed provision) provision.index

/-- Only what is in `told` is or has been announced. -/
def AnnouncesOnly (told : Nat → Prop) (p : Protocol) : Prop :=
  (p.intraClique.repeater.messageType = .invalid ∧
      p.intraClique.repeater.onDoneCallback = .onDoneRepeatingUpstream) ∨
    ∃ k : ControlKind, told k.index ∧ p.intraClique.repeater.messageType = k.messageType ∧
      p.intraClique.repeater.onDoneCallback = k.onDone

/-- Only what is in `told` has any effect on a unit. -/
structure ControlledBy (told : Nat → Prop) (p : Protocol) : Prop where
  announces : p.AnnouncesOnly told
  granularity : p.granularity = .medium → told 3
  calls : ∀ call ∈ p.appCalls, ∀ n ∈ call.index, told n

section Announces

variable {told : Nat → Prop} {c : Config} {e : Env} {p p' : Protocol} {ev : ProtocolEvent}
  {msg : SyncMessage} {r : HandlingResult}

theorem AnnouncesOnly.booted (told : Nat → Prop) (c : Config) (initTime loopTime : Nat) :
    (boot c initTime loopTime).AnnouncesOnly told :=
  Or.inl ⟨rfl, rfl⟩

theorem AnnouncesOnly.of_same (h : p.AnnouncesOnly told)
    (h_same : p'.intraClique = p.intraClique) : p'.AnnouncesOnly told := by
  unfold AnnouncesOnly
  rw [h_same]
  exact h

/-- An episode of what is told, accepted or not. -/
theorem AnnouncesOnly.start (h : p.AnnouncesOnly told) {k : ControlKind} (h_k : told k.index)
    (h_start : p'.intraClique = k.start p.intraClique) : p'.AnnouncesOnly told := by
  unfold AnnouncesOnly
  rw [h_start, ControlKind.start_repeater]
  split
  · exact h
  · exact Or.inr ⟨k, h_k, rfl, rfl⟩

theorem AnnouncesOnly.cancel (h : p.AnnouncesOnly told) :
    (p.cancelAnyUpstreamingInProgress c).AnnouncesOnly told := by
  unfold cancelAnyUpstreamingInProgress
  split <;> exact h

/-- The scatter is announced only where it is told. -/
theorem AnnouncesOnly.onDoneScatter (h : p.AnnouncesOnly told)
    (h_done : p.intraClique.repeater.onDoneCallback = .onDoneScatter) : told 1 := by
  rcases h with ⟨-, h_initial⟩ | ⟨k, h_k, -, h_callback⟩
  · rw [h_initial] at h_done
    cases h_done
  · rw [h_callback] at h_done
    cases k <;> first | exact h_k | cases h_done

/-- So is a change of the granularity. -/
theorem AnnouncesOnly.onDoneGranularity (h : p.AnnouncesOnly told)
    (h_done : p.intraClique.repeater.onDoneCallback = .onDoneGranularityWithAction) : told 3 := by
  rcases h with ⟨-, h_initial⟩ | ⟨k, h_k, -, h_callback⟩
  · rw [h_initial] at h_done
    cases h_done
  · rw [h_callback] at h_done
    cases k <;> first | exact h_k | cases h_done

/-- Giving a sync slot to a control starts none. -/
theorem AnnouncesOnly.dispatch (h : p.AnnouncesOnly told)
    (h_step : stepProtocol c p e .dispatchSyncSlotKind = .ok p') : p'.AnnouncesOnly told := by
  have h_kept : ∀ {i}, EpisodeChange c p .dispatchSyncSlotKind i →
      i.repeater.messageType = p.intraClique.repeater.messageType ∧
        i.repeater.onDoneCallback = p.intraClique.repeater.onDoneCallback := by
    intro i h_change
    cases h_change with
    | requested _ h_ev => exact absurd rfl h_ev
    | aborted h_ev => exact absurd rfl h_ev
    | _ => exact ⟨rfl, rfl⟩
  obtain ⟨h_type, h_done⟩ := h_kept (dispatch_episode h_step)
  unfold AnnouncesOnly
  rw [h_type, h_done]
  exact h

/-- Of the messages of the sync slot two kinds are about what is announced. -/
theorem handle_intraClique (h_granularity : msg.type ≠ .controlNetGranularity)
    (h_scatter : msg.type ≠ .controlScatterClique)
    (h : SyncSlot.handle c e p msg = .ok (r, p')) : p'.intraClique = p.intraClique := by
  unfold SyncSlot.handle at h
  cases h_type : msg.type <;> rw [h_type] at h
  case masterSync =>
    obtain ⟨g, x, h_g⟩ := handleGranularityAspectOfMasterSync_eq p msg
    have h_same := handleSyncAspect_intraClique h
    rw [h_g] at h_same
    exact h_same
  case workSync =>
    obtain ⟨w, a, h_w⟩ := handleWorkAspectOfWorkCarryingMsg_eq p msg
    have h_same := handleSyncAspect_intraClique h
    rw [h_w] at h_same
    exact h_same
  case controlNetGranularity => exact absurd h_type h_granularity
  case controlScatterClique => exact absurd h_type h_scatter
  case controlWorkTime =>
    cases h
    obtain ⟨a, h_a⟩ := handleWorkTimeMessage_eq c p msg
    rw [h_a]
  case controlWorkCycle =>
    cases h
    obtain ⟨a, h_a⟩ := handleWorkCycleMessage_eq c p msg
    rw [h_a]
  all_goals
    cases h
    rfl

theorem AnnouncesOnly.handle (h : p.AnnouncesOnly told)
    (h_asks : ∀ n, p.Asks (.hearInSyncSlot msg) n → told n)
    (h_handle : SyncSlot.handle c e p msg = .ok (r, p')) : p'.AnnouncesOnly told := by
  by_cases h_granularity : msg.type = .controlNetGranularity
  · unfold SyncSlot.handle at h_handle
    rw [h_granularity] at h_handle
    cases h_handle
    unfold handleNetGranularityMessage
    dsimp only
    split
    · exact h
    · split
      · rename_i h_mine
        have h_told : told 3 := h_asks 3 (Asks.heard (.granularity h_granularity) (Or.inr h_mine))
        split
        · exact h.start (k := .downstreamCliqueSizeChange _) h_told rfl
        · exact h.cancel
      · exact h
  · by_cases h_scatter : msg.type = .controlScatterClique
    · unfold SyncSlot.handle at h_handle
      rw [h_scatter] at h_handle
      obtain ⟨p₁, h_scattered, h_eq⟩ := bind_return_eq_ok.1 h_handle
      obtain ⟨-, rfl⟩ := Prod.mk.inj h_eq
      unfold handleScatterMessage at h_scattered
      split at h_scattered
      · rename_i h_mine
        have h_told : told 1 := h_asks 1 (Asks.heard (.scatter h_scatter) (Or.inr h_mine))
        split at h_scattered
        · cases h_scattered
          exact h.start (k := .downstreamScatter) h_told rfl
        · obtain ⟨f, s, -, -, rfl⟩ := scatterSync_eq_ok.1 h_scattered
          exact h.cancel
      · cases h_scattered
        exact h
    · exact h.of_same (handle_intraClique h_granularity h_scatter h_handle)

theorem AnnouncesOnly.provisionSucceed {provision : ProvisionedValue} (h : p.AnnouncesOnly told)
    (h_told : told provision.index) (h_step : p.provisionSucceed c provision = .ok p') :
    p'.AnnouncesOnly told := by
  unfold Protocol.provisionSucceed at h_step
  split at h_step
  case h_1 h_index =>
    cases h_step
    rw [h_index] at h_told
    unfold provisionWorkTime
    dsimp only
    split
    · exact h
    · exact h.start (k := .upstreamWorkTime _) h_told rfl
  case h_2 h_index =>
    cases h_step
    rw [h_index] at h_told
    unfold handleScatterProvisioning
    split
    · exact h.start (k := .downstreamScatter) h_told rfl
    · exact h.start (k := .upstreamScatter) h_told rfl
  case h_3 h_index =>
    cases h_step
    rw [h_index] at h_told
    unfold provisionWorkCycle
    split
    · exact h
    · exact h.start (k := .upstreamWorkCycle _) h_told rfl
  case h_4 h_index =>
    cases h_step
    rw [h_index] at h_told
    unfold handleNetGranularityProvisioning
    dsimp only
    split
    · exact h
    · split
      · exact h.start (k := .downstreamCliqueSizeChange _) h_told rfl
      · exact h.start (k := .upstreamCliqueSizeChange _) h_told rfl
  case h_5 =>
    cases h_step
    exact h
  case h_6 => cases h_step

/-- What is announced was asked for. -/
theorem AnnouncesOnly.step (h : p.AnnouncesOnly told) (h_asks : ∀ n, p.Asks ev n → told n)
    (h_step : stepProtocol c p e ev = .ok p') : p'.AnnouncesOnly told := by
  cases stepProtocol_done h_step with
  | heard =>
      obtain ⟨⟨r, p₁⟩, h_handle, rfl⟩ := bind_return_eq_ok.1 h_step
      exact h.handle h_asks h_handle
  | fished h_fished => cases h_fished <;> exact h
  | decided => exact h.dispatch h_step
  | scattered => exact h.dispatch h_step
  | listened h_ended => cases h_ended <;> exact h
  | checked h_checked => cases h_checked <;> exact h
  | provisioned => exact h.provisionSucceed (h_asks _ Asks.provisioned) h_step
  | _ => exact h

end Announces

section Controlled

variable {told : Nat → Prop} {c : Config} {e : Env} {p p' : Protocol} {ev : ProtocolEvent}
  {msg : SyncMessage} {r : HandlingResult}

/-- The action that is taken when a control has been announced often enough changes
    the granularity only if that was announced. -/
theorem dispatch_other_granularity
    (h_done : p.intraClique.repeater.onDoneCallback ≠ .onDoneGranularityWithAction)
    (h : stepProtocol c p e .dispatchSyncSlotKind = .ok p') : p'.granularity = p.granularity := by
  by_cases h_control : (p.decideKind c e).1 = .sendControlSync
  · rcases dispatch_control h_control h with ⟨-, rfl⟩ | ⟨-, h_enacted⟩
    · rfl
    · have h_same := onDone_other_granularity h_done h_enacted
      exact h_same
  · rw [dispatch_other h_control h]

theorem ControlledBy.step_granularity (h : p.ControlledBy told)
    (h_asks : ∀ n, p.Asks ev n → told n) (h_step : stepProtocol c p e ev = .ok p')
    (h_medium : p'.granularity = .medium) : told 3 := by
  have h_same : p'.granularity = p.granularity → told 3 :=
    fun h_eq => h.granularity (h_eq.symm.trans h_medium)
  by_cases h_ev : ev = .dispatchSyncSlotKind
  · subst h_ev
    by_cases h_done : p.intraClique.repeater.onDoneCallback = .onDoneGranularityWithAction
    · exact h.announces.onDoneGranularity h_done
    · exact h_same (dispatch_other_granularity h_done h_step)
  by_cases h_hears : ev.hearsMasterSync = true
  · cases ev with
    | hearInSyncSlot msg =>
        have h_type : msg.type = .masterSync := of_decide_eq_true h_hears
        obtain ⟨⟨r, p₁⟩, h_handle, rfl⟩ := bind_return_eq_ok.1 h_step
        have h_tried := handle_masterSync_granularity h_type h_handle
        unfold Granularity.tried at h_tried
        split at h_tried
        · exact h_same h_tried
        · exact h_asks 3 (Asks.heard (.master h_type (h_tried.symm.trans h_medium)) (Or.inl h_type))
    | _ => cases h_hears
  · exact h_same (other_granularity (eq_false_of_ne_true h_hears) h_ev h_step)

/-- A call about the work of the clique is one that was asked for. -/
theorem callsOf_index {call : AppCall} {n : Nat} (h_call : call ∈ callsOf c p ev)
    (h_n : n ∈ call.index) : p.Asks ev n := by
  cases ev with
  | bookkeepingAtPreludeToSyncSlot =>
      rw [List.mem_singleton.1 h_call] at h_n
      cases h_n
  | hearInSyncSlot msg =>
      have h_message : call ∈ callsOfMessage c p msg := h_call
      unfold callsOfMessage at h_message
      cases h_type : msg.type <;> simp only [h_type] at h_message
      case workSync =>
        split at h_message
        · rw [List.mem_singleton.1 h_message] at h_n
          cases h_n
        · cases h_message
      case controlWorkTime =>
        split at h_message
        · rename_i h_self
          rw [List.mem_singleton.1 h_message] at h_n
          cases h_n
          exact Asks.heard (.workTime h_type) (Or.inr (of_decide_eq_true h_self).1)
        · cases h_message
      case controlWorkCycle =>
        split at h_message
        · rename_i h_self
          rw [List.mem_singleton.1 h_message] at h_n
          cases h_n
          exact Asks.heard (.workCycle h_type) (Or.inr (of_decide_eq_true h_self).1)
        · cases h_message
      all_goals cases h_message
  | provisionSucceed provision =>
      have h_provision : call ∈ callsOfProvision c p provision := h_call
      unfold callsOfProvision at h_provision
      split at h_provision
      · have h_asked : provision.index = n → p.Asks (.provisionSucceed provision) n := by
          rintro rfl
          exact Asks.provisioned
        split at h_provision
        · rename_i h_index
          rw [List.mem_singleton.1 h_provision] at h_n
          cases h_n
          exact h_asked h_index
        · rename_i h_index
          rw [List.mem_singleton.1 h_provision] at h_n
          cases h_n
          exact h_asked h_index
        · cases h_provision
      · cases h_provision
  | _ => cases h_call

/-- What controls a unit is what it has been asked for. -/
theorem ControlledBy.step (h : p.ControlledBy told) (h_asks : ∀ n, p.Asks ev n → told n)
    (h_step : stepProtocol c p e ev = .ok p') : p'.ControlledBy told where
  announces := h.announces.step h_asks h_step
  granularity := h.step_granularity h_asks h_step
  calls := by
    intro call h_call n h_n
    rw [stepProtocol_appCalls h_step, List.mem_append] at h_call
    rcases h_call with h_new | h_old
    · exact h_asks n (callsOf_index h_new h_n)
    · exact h.calls call h_old n h_n

theorem ControlledBy.booted (told : Nat → Prop) (c : Config) (initTime loopTime : Nat) :
    (boot c initTime loopTime).ControlledBy told where
  announces := AnnouncesOnly.booted told c initTime loopTime
  granularity := NetGranularity.noConfusion
  calls := fun call h_call => by cases h_call

end Controlled

-- ============================================================================
-- What a unit tells
-- ============================================================================

section Telling

variable {told : Nat → Prop} {c : Config} {e : Env} {p : Protocol} {msg : SyncMessage}

/-- A control message is about the property that is announced. -/
theorem AnnouncesOnly.sends (h : p.AnnouncesOnly told) {n : Nat} (h_tells : msg.Tells n)
    (h_type : msg.type = p.intraClique.repeater.messageType) : told n := by
  rcases h with ⟨h_invalid, -⟩ | ⟨k, h_k, h_message, -⟩
  · rw [h_invalid] at h_type
    cases h_tells with
    | workTime h_is => cases h_is.symm.trans h_type
    | scatter h_is => cases h_is.symm.trans h_type
    | workCycle h_is => cases h_is.symm.trans h_type
    | granularity h_is => cases h_is.symm.trans h_type
    | master h_is => cases h_is.symm.trans h_type
  · have h_kind : msg.type = k.messageType := h_type.trans h_message
    cases h_tells with
    | workTime h_is => cases k <;> first | exact h_k | cases h_is.symm.trans h_kind
    | scatter h_is => cases k <;> first | exact h_k | cases h_is.symm.trans h_kind
    | workCycle h_is => cases k <;> first | exact h_k | cases h_is.symm.trans h_kind
    | granularity h_is => cases k <;> first | exact h_k | cases h_is.symm.trans h_kind
    | master h_is => cases k <;> first | exact h_k | cases h_is.symm.trans h_kind

/-- Medium is told as what it is. -/
theorem getFromRaw_getRaw_medium {g : NetGranularity}
    (h : Granularity.getFromRaw (Granularity.getRaw g) = .medium) : g = .medium := by
  cases g with
  | medium => rfl
  | small => cases h
  | large => cases h
  | invalid => cases h

/-- An ordinary master sync is about the granularity only if it is medium. -/
theorem ControlledBy.sendsMaster (h : p.ControlledBy told) {n : Nat} (h_tells : msg.Tells n)
    (h_type : msg.type = .masterSync) (h_work : msg.work = Granularity.getRaw p.granularity) :
    told n := by
  cases h_tells with
  | workTime h_is => cases h_is.symm.trans h_type
  | scatter h_is => cases h_is.symm.trans h_type
  | workCycle h_is => cases h_is.symm.trans h_type
  | granularity h_is => cases h_is.symm.trans h_type
  | master _ h_medium =>
      rw [h_work] at h_medium
      exact h.granularity (getFromRaw_getRaw_medium h_medium)

end Telling

end Protocol

namespace Agent

variable {told : Nat → Prop} {c : Config} {e : Env} {a : Agent} {msg : SyncMessage}

/-- The message of a sync slot is about a property only if that is told. -/
theorem syncSlotMessage_tells (h : a.protocol.ControlledBy told) {n : Nat}
    (h_msg : a.syncSlotMessage c e = .ok msg) (h_tells : msg.Tells n) : told n := by
  unfold syncSlotMessage at h_msg
  cases h_kind : a.kind <;> rw [h_kind] at h_msg
  case sendControlSync =>
    have h_init := ofProtocol_eq_ok.1 h_msg
    exact h.announces.sends h_tells (Protocol.initSyncMessage_eq_ok h_init).2.1
  case sendWorkSync =>
    have h_init := ofProtocol_eq_ok.1 h_msg
    have h_type : msg.type = .workSync := (Protocol.initSyncMessage_eq_ok h_init).2.1
    cases h_tells with
    | workTime h_is => cases h_is.symm.trans h_type
    | scatter h_is => cases h_is.symm.trans h_type
    | workCycle h_is => cases h_is.symm.trans h_type
    | granularity h_is => cases h_is.symm.trans h_type
    | master h_is => cases h_is.symm.trans h_type
  case sendSync =>
    have h_init := ofProtocol_eq_ok.1 h_msg
    exact h.sendsMaster h_tells (Protocol.initSyncMessage_eq_ok h_init).2.1
      (Protocol.initSyncMessage_work h_init)
  case listen => cases h_msg

end Agent

end SleepSync
