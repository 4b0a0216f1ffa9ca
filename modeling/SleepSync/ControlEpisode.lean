/-
  SleepSync.ControlEpisode

  Episodes of a control message: from the start of the repeater that is accepted,
  over the sync slots that a coin gives to the message, to the action that is
  taken when it has been repeated often enough, unless the episode is aborted.

  `EpisodeChange` says what an event does to the repeater, and `ControlStep` what
  a step of the task machine does to it.  There the decision for a sync slot, its
  count and the check whether this was the last one all come before the message is
  sent.
-/

import SleepSync.PeriodClock
import SleepSync.RoleConsistency

namespace SleepSync

open Lib ScheduleParameters

-- ============================================================================
-- The controls a unit starts
-- ============================================================================

/-- What the manager of the clique can be told to announce. -/
inductive ControlKind
  | upstreamCliqueSizeChange (granularity : NetGranularity)
  | downstreamCliqueSizeChange (granularity : NetGranularity)
  | upstreamScatter
  | downstreamScatter
  | upstreamWorkTime (clockAdvance : Nat)
  | upstreamWorkCycle (workCycle : Nat)
  deriving DecidableEq

namespace ControlKind

def isDownstream : ControlKind → Bool
  | downstreamCliqueSizeChange _ | downstreamScatter => true
  | _ => false

/-- A granularity is announced only if it is one of the three. -/
def IsValid : ControlKind → Prop
  | upstreamCliqueSizeChange granularity | downstreamCliqueSizeChange granularity =>
      granularity ≠ .invalid
  | _ => True

/-- The function of the manager that starts it. -/
def start (i : IntraCliqueManager) : ControlKind → IntraCliqueManager
  | upstreamCliqueSizeChange granularity => i.doUpstreamCliqueSizeChange granularity
  | downstreamCliqueSizeChange granularity => i.doDownstreamCliqueSizeChange granularity
  | upstreamScatter => i.doUpstreamScatter
  | downstreamScatter => i.doDownstreamScatter
  | upstreamWorkTime clockAdvance => i.doUpstreamWorkTime clockAdvance
  | upstreamWorkCycle workCycle => i.doUpstreamWorkCycle workCycle

def messageType : ControlKind → MessageType
  | upstreamCliqueSizeChange _ => .controlNetGranularity
  | downstreamCliqueSizeChange _ => .masterSync
  | upstreamScatter | downstreamScatter => .controlScatterClique
  | upstreamWorkTime _ => .controlWorkTime
  | upstreamWorkCycle _ => .controlWorkCycle

def payload : ControlKind → Payload
  | upstreamCliqueSizeChange granularity | downstreamCliqueSizeChange granularity =>
      Granularity.getRaw granularity
  | upstreamScatter | downstreamScatter => 1
  | upstreamWorkTime value | upstreamWorkCycle value => BitVec.ofNat 8 value

def onDone : ControlKind → OnDoneCallback
  | downstreamCliqueSizeChange _ => .onDoneGranularityWithAction
  | downstreamScatter => .onDoneScatter
  | _ => .onDoneRepeatingUpstream

/-- The repeater at the start of an episode of this kind. -/
def repeater (k : ControlKind) : SendRepeater where
  isActive := true
  messageType := k.messageType
  aValue := k.payload
  onDoneCallback := k.onDone
  counter := 0

/-- A start is accepted unless another message is being repeated. -/
theorem start_repeater (i : IntraCliqueManager) (k : ControlKind) :
    (k.start i).repeater = if i.isActive then i.repeater else k.repeater := by
  cases k <;> rfl

/-- Only a master's announcement of a granularity is remembered, accepted or not. -/
theorem start_granularity (i : IntraCliqueManager) (k : ControlKind) :
    (k.start i).granularity =
      match k with
      | downstreamCliqueSizeChange granularity => granularity
      | _ => i.granularity := by
  cases k <;> rfl

theorem onDone_eq_upstream_iff (k : ControlKind) :
    k.onDone = .onDoneRepeatingUpstream ↔ k.isDownstream = false := by
  cases k <;> simp [onDone, isDownstream]

end ControlKind

namespace Protocol

variable (p : Protocol)

/-- A sync slot has been given to the message that is repeated. -/
def counted : Protocol :=
  { p with intraClique := { p.intraClique with repeater :=
    { p.intraClique.repeater with counter := p.intraClique.repeater.counter + 1 } } }

/-- That was the last repetition. -/
def finished : Protocol :=
  { p with intraClique := { p.intraClique with repeater :=
    { p.intraClique.repeater with isActive := false, counter := 0 } } }

end Protocol

/-- What an event does to the control of the clique. -/
inductive EpisodeChange (c : Config) (p : Protocol) : ProtocolEvent → IntraCliqueManager → Prop
  | kept {ev : ProtocolEvent} : EpisodeChange c p ev p.intraClique
  | requested {ev : ProtocolEvent} (k : ControlKind) (h_ev : ev ≠ .dispatchSyncSlotKind)
      (h_role : k.isDownstream = p.isSelfMaster c) (h_valid : k.IsValid) :
      EpisodeChange c p ev (k.start p.intraClique)
  | aborted {ev : ProtocolEvent} (h_ev : ev ≠ .dispatchSyncSlotKind)
      (h_slave : p.isSelfMaster c = false) : EpisodeChange c p ev p.intraClique.abort
  | counted (h_active : p.intraClique.isActive = true)
      (h_count : p.intraClique.repeater.counter < Policy.countRepeatsPerControlSync) :
      EpisodeChange c p .dispatchSyncSlotKind p.counted.intraClique
  | finished (h_active : p.intraClique.isActive = true)
      (h_count : Policy.countRepeatsPerControlSync ≤ p.intraClique.repeater.counter) :
      EpisodeChange c p .dispatchSyncSlotKind p.finished.intraClique

namespace Protocol

section Episodes

variable {c : Config} {e : Env} {p p' : Protocol} {ev : ProtocolEvent} {msg : SyncMessage}

theorem cancelAnyUpstreamingInProgress_episode (h_ev : ev ≠ .dispatchSyncSlotKind) :
    EpisodeChange c p ev (p.cancelAnyUpstreamingInProgress c).intraClique := by
  unfold cancelAnyUpstreamingInProgress
  by_cases h : !p.isSelfMaster c ∧ p.intraClique.isActive
  · rw [if_pos h]
    exact EpisodeChange.aborted h_ev (by simpa using h.1)
  · rw [if_neg h]
    exact EpisodeChange.kept

theorem handleNetGranularityMessage_episode (h_ev : ev ≠ .dispatchSyncSlotKind) :
    EpisodeChange c p ev (p.handleNetGranularityMessage c msg).intraClique := by
  unfold handleNetGranularityMessage
  dsimp only
  split
  · exact EpisodeChange.kept
  · rename_i h_valid
    split
    · split
      · rename_i h_master
        exact EpisodeChange.requested (.downstreamCliqueSizeChange _) h_ev h_master.symm h_valid
      · exact cancelAnyUpstreamingInProgress_episode h_ev
    · exact EpisodeChange.kept

theorem handleScatterMessage_episode (h_ev : ev ≠ .dispatchSyncSlotKind)
    (h : p.handleScatterMessage c e msg = .ok p') : EpisodeChange c p ev p'.intraClique := by
  unfold handleScatterMessage at h
  split at h
  · split at h
    · rename_i h_master
      cases h
      exact EpisodeChange.requested .downstreamScatter h_ev h_master.symm trivial
    · obtain ⟨f, s, -, -, rfl⟩ := scatterSync_eq_ok.1 h
      exact cancelAnyUpstreamingInProgress_episode h_ev
  · cases h
    exact EpisodeChange.kept

theorem handleSyncAspect_intraClique {r : HandlingResult}
    (h : p.handleSyncAspectOfSyncCarryingMsg e msg = .ok (r, p')) :
    p'.intraClique = p.intraClique := by
  obtain ⟨⟨b, p₁⟩, h_filter, h_eq⟩ := bind_return_eq_ok.1 h
  obtain rfl : p' = p₁ := (Prod.mk.inj h_eq).2
  rcases filterSyncMsg_eq_ok h_filter with ⟨-, s, -, rfl⟩ | ⟨-, rfl⟩ <;> rfl

theorem EpisodeChange.of_same {i : IntraCliqueManager} (h : i = p.intraClique) :
    EpisodeChange c p ev i := by
  rw [h]
  exact EpisodeChange.kept

/-- Of the messages of the sync slot the two kinds of control that are about the
    clique change its control. -/
theorem handle_episode {r : HandlingResult} (h_ev : ev ≠ .dispatchSyncSlotKind)
    (h : SyncSlot.handle c e p msg = .ok (r, p')) : EpisodeChange c p ev p'.intraClique := by
  unfold SyncSlot.handle at h
  cases h_type : msg.type <;> rw [h_type] at h
  case masterSync =>
    obtain ⟨g, x, h_g⟩ := handleGranularityAspectOfMasterSync_eq p msg
    have h_sync : (p.handleGranularityAspectOfMasterSync msg).handleSyncAspectOfSyncCarryingMsg e
      msg = .ok (r, p') := h
    rw [h_g] at h_sync
    have h_same := handleSyncAspect_intraClique h_sync
    exact EpisodeChange.of_same h_same
  case workSync =>
    obtain ⟨w, a, h_w⟩ := handleWorkAspectOfWorkCarryingMsg_eq p msg
    have h_sync : (p.handleWorkAspectOfWorkCarryingMsg msg).handleSyncAspectOfSyncCarryingMsg e
      msg = .ok (r, p') := h
    rw [h_w] at h_sync
    have h_same := handleSyncAspect_intraClique h_sync
    exact EpisodeChange.of_same h_same
  case controlNetGranularity =>
    cases h
    exact handleNetGranularityMessage_episode h_ev
  case controlScatterClique =>
    obtain ⟨p₂, h_scatter, h_eq⟩ := bind_return_eq_ok.1 h
    obtain ⟨-, rfl⟩ := Prod.mk.inj h_eq
    exact handleScatterMessage_episode h_ev h_scatter
  case controlWorkTime =>
    cases h
    obtain ⟨a, h_a⟩ := handleWorkTimeMessage_eq c p msg
    exact EpisodeChange.of_same (by rw [h_a])
  case controlWorkCycle =>
    cases h
    obtain ⟨a, h_a⟩ := handleWorkCycleMessage_eq c p msg
    exact EpisodeChange.of_same (by rw [h_a])
  all_goals
    cases h
    exact EpisodeChange.of_same rfl

/-- Where no control message is sent, the repeater is left alone. -/
theorem decideKind_other (h : (p.decideKind c e).1 ≠ .sendControlSync) :
    (p.decideKind c e).2 = p := by
  have h_control : (p.intraClique.shouldSendControlSync e.repeaterCoinToss).1 = false := by
    by_contra h_true
    refine h ?_
    unfold decideKind
    dsimp only
    rw [if_pos (eq_true_of_ne_false h_true)]
  have h_snd : (p.decideKind c e).2 =
      { p with intraClique := (p.intraClique.shouldSendControlSync e.repeaterCoinToss).2 } := rfl
  rw [h_snd]
  unfold IntraCliqueManager.shouldSendControlSync SendRepeater.shouldSend at h_control ⊢
  by_cases h_active : p.intraClique.isActive = true
  · rw [if_pos h_active] at h_control ⊢
    by_cases h_coin : p.intraClique.repeater.isActive = true ∧ e.repeaterCoinToss = true
    · rw [if_pos h_coin] at h_control
      cases h_control
    · rw [if_neg h_coin]
  · rw [if_neg h_active]

/-- The kind of a sync slot is control exactly if a message is being repeated and
    the coin is for it. -/
theorem decideKind_eq_control_iff : (p.decideKind c e).1 = .sendControlSync ↔
    p.intraClique.isActive = true ∧ e.repeaterCoinToss = true := by
  have h_fst : (p.intraClique.shouldSendControlSync e.repeaterCoinToss).1 = true ↔
      p.intraClique.isActive = true ∧ e.repeaterCoinToss = true := by
    unfold IntraCliqueManager.shouldSendControlSync SendRepeater.shouldSend
    by_cases h_active : p.intraClique.isActive = true
    · rw [if_pos h_active]
      by_cases h_coin : p.intraClique.repeater.isActive = true ∧ e.repeaterCoinToss = true
      · rw [if_pos h_coin]
        exact iff_of_true rfl h_coin
      · rw [if_neg h_coin]
        exact iff_of_false Bool.false_ne_true h_coin
    · rw [if_neg h_active]
      exact iff_of_false Bool.false_ne_true (fun h => h_active h.1)
  rw [← h_fst]
  unfold decideKind
  dsimp only
  by_cases h_control : (p.intraClique.shouldSendControlSync e.repeaterCoinToss).1 = true
  · rw [if_pos h_control]
    exact iff_of_true rfl h_control
  · rw [if_neg h_control]
    refine iff_of_false ?_ h_control
    split
    · exact SyncSlotKind.noConfusion
    · split <;> exact SyncSlotKind.noConfusion

/-- A sync slot given to control: the message is counted, and after the last
    repetition the action is taken. -/
theorem dispatch_control (h_control : (p.decideKind c e).1 = .sendControlSync)
    (h : stepProtocol c p e .dispatchSyncSlotKind = .ok p') :
    (p.intraClique.repeater.counter < Policy.countRepeatsPerControlSync ∧ p' = p.counted) ∨
      (Policy.countRepeatsPerControlSync ≤ p.intraClique.repeater.counter ∧
        p.finished.onDone c e p.intraClique.repeater.onDoneCallback = .ok p') := by
  obtain ⟨h_active, h_counted⟩ := decideKind_control h_control
  have h_check : p.counted.checkDoneAndEnactControl c e = .ok p' := by
    rw [stepProtocol_dispatchSyncSlotKind, if_pos h_control, h_counted] at h
    exact h
  unfold checkDoneAndEnactControl SendRepeater.checkDone at h_check
  obtain ⟨⟨done, r⟩, h_done, h_rest⟩ := bind_eq_ok.1 h_check
  obtain ⟨-, h_done⟩ := require_bind_eq_ok.1 h_done
  split at h_done
  · rename_i h_count
    cases h_done
    exact Or.inr ⟨Nat.le_of_lt_succ h_count, h_rest⟩
  · rename_i h_count
    cases h_done
    cases h_rest
    exact Or.inl ⟨Nat.lt_of_succ_le (Nat.le_of_not_lt h_count), rfl⟩

theorem dispatch_other (h_other : (p.decideKind c e).1 ≠ .sendControlSync)
    (h : stepProtocol c p e .dispatchSyncSlotKind = .ok p') : p' = p := by
  rw [stepProtocol_dispatchSyncSlotKind, if_neg h_other, decideKind_other h_other] at h
  cases h
  rfl

/-- Taking the action does not start another message. -/
theorem onDone_intraClique {callback : OnDoneCallback} (h : p.onDone c e callback = .ok p') :
    p'.intraClique = p.intraClique := by
  rcases onDone_eq_ok h with ⟨g, x, rfl⟩ | ⟨-, h_scatter⟩
  · rfl
  · obtain ⟨f, s, -, -, rfl⟩ := scatterSync_eq_ok.1 h_scatter
    rfl

theorem dispatch_episode (h : stepProtocol c p e .dispatchSyncSlotKind = .ok p') :
    EpisodeChange c p .dispatchSyncSlotKind p'.intraClique := by
  by_cases h_control : (p.decideKind c e).1 = .sendControlSync
  · have h_active := (decideKind_eq_control_iff.1 h_control).1
    rcases dispatch_control h_control h with ⟨h_count, rfl⟩ | ⟨h_count, h_done⟩
    · exact EpisodeChange.counted h_active h_count
    · rw [onDone_intraClique h_done]
      exact EpisodeChange.finished h_active h_count
  · rw [dispatch_other h_control h]
    exact EpisodeChange.kept

theorem provisionSucceed_episode {provision : ProvisionedValue}
    (h : p.provisionSucceed c provision = .ok p') :
    EpisodeChange c p (.provisionSucceed provision) p'.intraClique := by
  have h_up : ∀ k : ControlKind, ¬ p.isSelfMaster c = true → k.isDownstream = false →
      k.IsValid → EpisodeChange c p (.provisionSucceed provision) (k.start p.intraClique) := by
    intro k h_slave h_k h_valid
    refine EpisodeChange.requested k ProtocolEvent.noConfusion ?_ h_valid
    rw [h_k]
    exact (eq_false_of_ne_true h_slave).symm
  have h_down : ∀ k : ControlKind, p.isSelfMaster c = true → k.isDownstream = true →
      k.IsValid → EpisodeChange c p (.provisionSucceed provision) (k.start p.intraClique) := by
    intro k h_master h_k h_valid
    exact EpisodeChange.requested k ProtocolEvent.noConfusion (h_k.trans h_master.symm) h_valid
  unfold provisionSucceed at h
  split at h
  · cases h
    unfold provisionWorkTime
    dsimp only
    split
    · exact EpisodeChange.kept
    · rename_i h_slave
      exact h_up (.upstreamWorkTime _) h_slave rfl trivial
  · cases h
    unfold handleScatterProvisioning
    split
    · rename_i h_master
      exact h_down .downstreamScatter h_master rfl trivial
    · rename_i h_slave
      exact h_up .upstreamScatter h_slave rfl trivial
  · cases h
    unfold provisionWorkCycle
    split
    · exact EpisodeChange.kept
    · rename_i h_slave
      exact h_up (.upstreamWorkCycle _) h_slave rfl trivial
  · cases h
    unfold handleNetGranularityProvisioning
    dsimp only
    split
    · exact EpisodeChange.kept
    · rename_i h_valid
      split
      · rename_i h_master
        exact h_down (.downstreamCliqueSizeChange _) h_master rfl h_valid
      · rename_i h_slave
        exact h_up (.upstreamCliqueSizeChange _) h_slave rfl h_valid
  · cases h
    exact EpisodeChange.kept
  · cases h

/-- Every completed event is such a change. -/
theorem stepProtocol_episode (h : stepProtocol c p e ev = .ok p') :
    EpisodeChange c p ev p'.intraClique := by
  cases stepProtocol_done h with
  | heard =>
      obtain ⟨⟨r, p₁⟩, h_handle, rfl⟩ := bind_return_eq_ok.1 h
      exact handle_episode ProtocolEvent.noConfusion h_handle
  | fished h_fished => cases h_fished <;> exact EpisodeChange.kept
  | decided => exact dispatch_episode h
  | scattered => exact dispatch_episode h
  | listened h_ended => cases h_ended <;> exact EpisodeChange.kept
  | checked h_checked => cases h_checked <;> exact EpisodeChange.kept
  | provisioned => exact provisionSucceed_episode h
  | _ => exact EpisodeChange.kept

theorem bookkeeping_intraClique (h : p.bookkeepingAtPreludeToSyncSlot c e = .ok p') :
    p'.intraClique = p.intraClique := by
  obtain ⟨m, r, k, n, f, a, rfl⟩ := bookkeeping_frame h
  rfl

theorem endListen_intraClique (h : p.endListen c e = .ok p') : p'.intraClique = p.intraClique := by
  cases endListen_ended h <;> rfl

theorem checkFishingDone_intraClique (h : p.checkFishingDone c = .ok p') :
    p'.intraClique = p.intraClique := by
  cases checkFishingDone_checked h <;> rfl

theorem mergeSyncSent_intraClique (h : p.mergeSyncSent = .ok p') :
    p'.intraClique = p.intraClique := by
  rcases (mergeSyncSent_eq_ok h).2 with ⟨-, rfl⟩ | ⟨-, rfl⟩ <;> rfl

theorem preFishing_intraClique (h : p.preFishing = .ok p') : p'.intraClique = p.intraClique := by
  obtain ⟨f, -, rfl⟩ := bind_return_eq_ok.1 h
  rfl

end Episodes

end Protocol

-- ============================================================================
-- Steps of the task machine
-- ============================================================================

namespace Agent

def repeater (a : Agent) : SendRepeater := a.protocol.intraClique.repeater

/-- A control message waits to be sent in the sync slot. -/
def SendsControl (a : Agent) : Prop :=
  a.kind = .sendControlSync ∧ ∃ x, a.pending = [(.sendSync, x)]

/-- The event gives a sync slot to the message that is repeated. -/
def givesSlotToControl (a : Agent) (e : Env) : AgentEvent → Bool
  | .timer t _ =>
      (t = .startSyncSlotAfterPrelude ∨ t = .startSyncSlotWithoutScheduledPrelude) ∧
        a.protocol.mode ≠ .maintain ∧ a.protocol.intraClique.isActive ∧ e.repeaterCoinToss
  | _ => false

/-- What a step does to the control of the clique, and to a control message that
    waits to be sent. -/
inductive ControlStep (c : Config) (e : Env) (a : Agent) : AgentEvent → Agent → Prop
  | counts {t : Task} {x : Nat} {a' : Agent}
      (h_given : a.givesSlotToControl e (.timer t x) = true) (h_before : ¬ a.SendsControl)
      (h_count : a.protocol.intraClique.repeater.counter < Policy.countRepeatsPerControlSync)
      (h_protocol : a'.protocol = a.protocol.preludeToSyncPeriod.counted)
      (h_after : a'.SendsControl) : ControlStep c e a (.timer t x) a'
  | finishes {t : Task} {x : Nat} {a' : Agent}
      (h_given : a.givesSlotToControl e (.timer t x) = true) (h_before : ¬ a.SendsControl)
      (h_count : Policy.countRepeatsPerControlSync ≤ a.protocol.intraClique.repeater.counter)
      (h_done : a.protocol.preludeToSyncPeriod.finished.onDone c e
        a.protocol.intraClique.repeater.onDoneCallback = .ok a'.protocol)
      (h_after : a'.SendsControl) : ControlStep c e a (.timer t x) a'
  | sends {x : Nat} {msg : SyncMessage} {a' : Agent} (h_before : a.SendsControl)
      (h_msg : a.protocol.sendControlSync c e = .ok msg) (h_protocol : a'.protocol = a.protocol)
      (h_after : ¬ a'.SendsControl) : ControlStep c e a (.timer .sendSync x) a'
  | rests {t : Task} {x : Nat} {a' : Agent} (h_pending : a.pending = [(t, x)])
      (h_given : a.givesSlotToControl e (.timer t x) = false) (h_before : ¬ a.SendsControl)
      (h_same : a'.protocol.intraClique = a.protocol.intraClique)
      (h_after : ¬ a'.SendsControl) : ControlStep c e a (.timer t x) a'
  | changes {ev : AgentEvent} {event : ProtocolEvent} {a' : Agent}
      (h_ev : ∀ t x, ev ≠ .timer t x) (h_event : event ≠ .dispatchSyncSlotKind)
      (h_before : ¬ a.SendsControl)
      (h_change : EpisodeChange c a.protocol event a'.protocol.intraClique)
      (h_after : ¬ a'.SendsControl) : ControlStep c e a ev a'

section ControlSteps

variable {c : Config} {e : Env} {a a' : Agent} {ev : AgentEvent} {t : Task} {x d : Nat}

theorem givesSlotToControl_iff : a.givesSlotToControl e (.timer t x) = true ↔
    startsSyncSlot t ∧ a.protocol.mode ≠ .maintain ∧
      (a.protocol.preludeToSyncPeriod.decideKind c e).1 = .sendControlSync := by
  rw [Protocol.decideKind_eq_control_iff]
  exact decide_eq_true_iff

theorem not_sendsControl_of_pending (h_pending : a.pending = [(t, x)]) (h_t : t ≠ .sendSync) :
    ¬ a.SendsControl := by
  rintro ⟨-, y, h_send⟩
  rw [h_pending] at h_send
  cases h_send
  exact h_t rfl

theorem not_sendsControl_of_idle (h_pending : a.pending = []) : ¬ a.SendsControl := by
  rintro ⟨-, y, h_send⟩
  rw [h_pending] at h_send
  cases h_send

theorem not_sendsControl_schedule (h_pending : a.pending = []) (h_t : t ≠ .sendSync) :
    ¬ (a.schedule e t d).SendsControl :=
  not_sendsControl_of_pending (schedule_pending_of_idle e t d h_pending) h_t

theorem not_sendsControl_of_awaits {ts : List Task} (h : a.Awaits ts) (h_ts : .sendSync ∉ ts) :
    ¬ a.SendsControl := by
  rintro ⟨-, y, h_send⟩
  exact h_ts (h.mem h_send)

theorem NonSyncScheduled.intraClique (h : NonSyncScheduled c e a a') :
    a'.protocol.intraClique = a.protocol.intraClique := by
  cases h with
  | merges => split <;> rfl
  | _ => rfl

/-- A task that gives no sync slot to control and sends no control message. -/
theorem TaskRan.rests (h : TaskRan c e a t a') (h_pending : a.pending = [])
    (h_given : a.givesSlotToControl e (.timer t x) = false)
    (h_send : t = .sendSync → a.kind ≠ .sendControlSync) :
    a'.protocol.intraClique = a.protocol.intraClique ∧ ¬ a'.SendsControl := by
  have h_not : startsSyncSlot t → a.protocol.mode ≠ .maintain →
      (a.protocol.preludeToSyncPeriod.decideKind c e).1 ≠ .sendControlSync := by
    intro h_t h_mode h_control
    rw [givesSlotToControl_iff.2 ⟨h_t, h_mode, h_control⟩] at h_given
    cases h_given
  have h_other : .sendSync ∉ t.next → ¬ a'.SendsControl :=
    not_sendsControl_of_awaits (h.awaits h_pending)
  cases h with
  | maintained _ _ h_book =>
      have h_same := Protocol.bookkeeping_intraClique h_book
      exact ⟨h_same, h_other (by decide)⟩
  | resumed _ _ h_book =>
      have h_same := Protocol.bookkeeping_intraClique h_book
      exact ⟨h_same, h_other (by decide)⟩
  | preludesSync h_book =>
      have h_same := Protocol.bookkeeping_intraClique h_book
      exact ⟨h_same, h_other (by decide)⟩
  | preludesFish => exact ⟨rfl, h_other (by decide)⟩
  | pauses =>
      have h_next : ¬ ((a.rolled e t).maintainSyncPeriod c e).SendsControl := by
        apply not_sendsControl_schedule
        · exact h_pending
        · exact Task.noConfusion
      exact ⟨rfl, h_next⟩
  | sends h_t _ _ h_mode _ h_decide h_step =>
      have h_kind : ((a.rolled e t).protocol.decideKind c e).1 ≠ .sendControlSync :=
        h_not h_t h_mode
      have h_same := congrArg Protocol.intraClique (Protocol.dispatch_other h_kind h_step)
      rw [h_decide] at h_kind
      exact ⟨h_same, fun h_sends => h_kind h_sends.1⟩
  | listens h_t _ _ h_mode h_decide h_step =>
      have h_same := congrArg Protocol.intraClique
        (Protocol.dispatch_other (h_not h_t h_mode) h_step)
      exact ⟨h_same, fun h_sends => SyncSlotKind.noConfusion h_sends.1⟩
  | sent => exact ⟨rfl, fun h_sends => h_send rfl h_sends.1⟩
  | listened _ h_end h_fish h_next =>
      refine ⟨?_, h_other (by decide)⟩
      rw [h_next.intraClique]
      exact (Protocol.preFishing_intraClique h_fish).trans (Protocol.endListen_intraClique h_end)
  | sentOver _ h_fish h_next =>
      refine ⟨?_, h_other (by decide)⟩
      rw [h_next.intraClique]
      exact Protocol.preFishing_intraClique h_fish
  | fishes => exact ⟨rfl, h_other (by decide)⟩
  | fished _ h_check h_next =>
      refine ⟨?_, h_other (by decide)⟩
      rw [h_next.protocol]
      exact Protocol.checkFishingDone_intraClique h_check
  | merged _ h_sent h_next =>
      refine ⟨?_, h_other (by decide)⟩
      rw [h_next.protocol]
      exact Protocol.mergeSyncSent_intraClique h_sent
  | provisions => exact ⟨rfl, h_other (by decide)⟩
  | failsToProvision _ _ h_next =>
      refine ⟨?_, h_other (by decide)⟩
      rw [h_next.protocol]
  | provisioned h_next =>
      refine ⟨?_, h_other (by decide)⟩
      rw [h_next.protocol]

/-- A task that gives its sync slot to control. -/
theorem TaskRan.gives (h : TaskRan c e a t a') (h_pending : a.pending = [])
    (h_given : a.givesSlotToControl e (.timer t x) = true) :
    stepProtocol c a.protocol.preludeToSyncPeriod e .dispatchSyncSlotKind = .ok a'.protocol ∧
      a'.SendsControl := by
  obtain ⟨h_t, h_mode, h_control⟩ := givesSlotToControl_iff.1 h_given
  have h_sent : ∀ {k : SyncSlotKind} {p p' : Protocol} {d : Nat},
      (a.rolled e t).protocol.decideKind c e = (k, p) →
      ({ ({ a.rolled e t with kind := k, protocol := p } : Agent).schedule e .sendSync d with
        protocol := p' } : Agent).SendsControl := by
    intro k p p' d h_decide
    have h_k : ((a.rolled e t).protocol.decideKind c e).1 = .sendControlSync := h_control
    rw [h_decide] at h_k
    refine ⟨h_k, e.now + d, ?_⟩
    show a.pending ++ _ = _
    rw [h_pending, List.nil_append]
  cases h with
  | sends _ _ _ _ _ h_decide h_step => exact ⟨h_step, h_sent h_decide⟩
  | listens _ _ _ _ h_decide =>
      have h_k : ((a.rolled e t).protocol.decideKind c e).1 = .sendControlSync := h_control
      rw [h_decide] at h_k
      cases h_k
  | pauses _ _ _ h_maintain => exact absurd h_maintain h_mode
  | _ => rcases h_t with h_t | h_t <;> cases h_t

theorem TaskRan.sends_control (h : TaskRan c e a .sendSync a')
    (h_pending : a.pending = []) (h_kind : a.kind = .sendControlSync) :
    ∃ msg, a.protocol.sendControlSync c e = .ok msg ∧ a'.protocol = a.protocol ∧
      ¬ a'.SendsControl := by
  have h_after : ¬ a'.SendsControl := not_sendsControl_of_awaits (h.awaits h_pending) (by decide)
  cases h with
  | @sent msg h_msg =>
      unfold syncSlotMessage at h_msg
      rw [h_kind] at h_msg
      exact ⟨msg, ofProtocol_eq_ok.1 h_msg, rfl, h_after⟩
  | pauses h_t => rcases h_t with h_t | h_t <;> cases h_t
  | sends h_t => rcases h_t with h_t | h_t <;> cases h_t
  | listens h_t => rcases h_t with h_t | h_t <;> cases h_t

theorem PacketTaken.episode {handler : MessageHandler} {packet : Option RadioBuffer}
    (h : PacketTaken c e a handler packet a') :
    ∃ event, event ≠ .dispatchSyncSlotKind ∧
      EpisodeChange c a.protocol event a'.protocol.intraClique := by
  have h_ev : ∀ msg, hears handler msg ≠ .dispatchSyncSlotKind := by
    intro msg
    cases handler <;> exact ProtocolEvent.noConfusion
  cases h with
  | ignored => exact ⟨.endListen, ProtocolEvent.noConfusion, EpisodeChange.kept⟩
  | goesOn _ h_step => exact ⟨_, h_ev _, Protocol.stepProtocol_episode h_step⟩
  | ends _ h_step => exact ⟨_, h_ev _, Protocol.stepProtocol_episode h_step⟩

/-- Every step is one of these. -/
theorem AgentStep.controls (h : AgentStep c e a ev a') : ControlStep c e a ev a' := by
  cases h with
  | @ran t x _ h_pending _ _ _ h_ran =>
      have h_none := dequeued_pending e t x h_pending
      by_cases h_given : a.givesSlotToControl e (.timer t x) = true
      · obtain ⟨h_step, h_after⟩ := h_ran.gives (x := x) h_none h_given
        obtain ⟨h_t, -, h_control⟩ := (givesSlotToControl_iff (c := c)).1 h_given
        have h_before : ¬ a.SendsControl := by
          refine not_sendsControl_of_pending h_pending ?_
          rcases h_t with rfl | rfl <;> exact Task.noConfusion
        rcases Protocol.dispatch_control h_control h_step with ⟨h_count, h_eq⟩ | ⟨h_count, h_done⟩
        · exact ControlStep.counts h_given h_before h_count h_eq h_after
        · exact ControlStep.finishes h_given h_before h_count h_done h_after
      by_cases h_send : t = .sendSync ∧ a.kind = .sendControlSync
      · obtain ⟨rfl, h_kind⟩ := h_send
        obtain ⟨msg, h_msg, h_same, h_after⟩ := h_ran.sends_control h_none h_kind
        exact ControlStep.sends ⟨h_kind, x, h_pending⟩ h_msg h_same h_after
      have h_not := eq_false_of_ne_true h_given
      obtain ⟨h_same, h_after⟩ := h_ran.rests (x := x) h_none h_not
        (fun h_t h_kind => h_send ⟨h_t, h_kind⟩)
      refine ControlStep.rests h_pending h_not ?_ h_same h_after
      rintro ⟨h_kind, y, h_sync⟩
      rw [h_pending] at h_sync
      cases h_sync
      exact h_send ⟨rfl, h_kind⟩
  | @heard packet handler x _ _ h_pending _ h_taken =>
      obtain ⟨event, h_event, h_change⟩ := h_taken.episode
      have h_end : endOf handler ≠ .sendSync := by
        cases handler <;> exact Task.noConfusion
      exact ControlStep.changes (fun _ _ => AgentEvent.noConfusion) h_event
        (not_sendsControl_of_pending h_pending h_end) h_change
        (not_sendsControl_of_pending (h_taken.pending.trans h_pending) h_end)
  | succeeded h_pending _ h_step =>
      refine ControlStep.changes (fun _ _ => AgentEvent.noConfusion) ProtocolEvent.noConfusion
        (not_sendsControl_of_idle h_pending) (Protocol.stepProtocol_episode h_step) ?_
      apply not_sendsControl_schedule
      · exact h_pending
      · exact Task.noConfusion
  | failed h_pending =>
      have h_kept : EpisodeChange c a.protocol .endListen a.protocol.intraClique :=
        EpisodeChange.kept
      refine ControlStep.changes (fun _ _ => AgentEvent.noConfusion) ProtocolEvent.noConfusion
        (not_sendsControl_of_idle h_pending) h_kept ?_
      apply not_sendsControl_schedule
      · exact h_pending
      · exact Task.noConfusion

end ControlSteps

end Agent

end SleepSync
