/-
  SleepSync.AppCalls

  What the app is told, and when.

  The agent calls the app back at each sync point, for work that it hears from
  its own clique, and for a provisioning of the app's work.  Each event of the
  protocol makes the calls of its own (`callsOf`) and keeps those made before; so
  in a run the app is told exactly what the steps of the run say, once and in
  their order.
-/

import SleepSync.TaskRefinement

namespace SleepSync

open Lib

-- ============================================================================
-- The calls of an event
-- ============================================================================

section Calls

variable (c : Config) (p : Protocol)

/-- The calls for a message heard in the sync slot. -/
def callsOfMessage (msg : SyncMessage) : List AppCall :=
  match msg.type with
  | .workSync => if p.isMsgFromMyClique msg.masterID then [.onWorkMsg msg.work] else []
  | .controlWorkTime =>
      if p.isMsgForSelfAsMaster c msg then [.workTimeControl msg.work.toNat] else []
  | .controlWorkCycle =>
      if p.isMsgForSelfAsMaster c msg then [.workCycleControl msg.work.toNat] else []
  | _ => []

/-- The calls for what the provisioner brings; a slave sends it upstream instead. -/
def callsOfProvision (provision : ProvisionedValue) : List AppCall :=
  if p.isSelfMaster c then
    match provision.index with
    | 0 => [.workTimeControl
        (c.elapsedToAdvanceConverterFunc (Protocol.calculateElapsedSyncPeriods provision.offset))]
    | 2 => [.workCycleControl provision.value.toNat]
    | _ => []
  else
    []

def callsOf : ProtocolEvent → List AppCall
  | .bookkeepingAtPreludeToSyncSlot => [.onSyncPoint]
  | .hearInSyncSlot msg => callsOfMessage c p msg
  | .provisionSucceed provision => callsOfProvision c p provision
  | _ => []

end Calls

section Log

variable {c : Config} {e : Env} {p p' : Protocol} {ev : ProtocolEvent} {msg : SyncMessage}
  {r : HandlingResult}

theorem filterSyncMsg_appCalls {b : Bool} (h : p.filterSyncMsg e msg = .ok (b, p')) :
    p'.appCalls = p.appCalls := by
  rcases Protocol.filterSyncMsg_eq_ok h with ⟨-, s, -, rfl⟩ | ⟨-, rfl⟩ <;> rfl

theorem handleSyncAspect_appCalls
    (h : p.handleSyncAspectOfSyncCarryingMsg e msg = .ok (r, p')) : p'.appCalls = p.appCalls := by
  obtain ⟨⟨b, p₁⟩, h_filter, h_eq⟩ := bind_return_eq_ok.1 h
  obtain rfl : p' = p₁ := (Prod.mk.inj h_eq).2
  exact filterSyncMsg_appCalls h_filter

/-- The granularity of the clique is no concern of the app. -/
theorem handleGranularityAspect_appCalls (p : Protocol) (msg : SyncMessage) :
    (p.handleGranularityAspectOfMasterSync msg).appCalls = p.appCalls := by
  obtain ⟨g, x, h_eq⟩ := Protocol.handleGranularityAspectOfMasterSync_eq p msg
  rw [h_eq]

/-- A handler of the sync slot makes the calls of its message. -/
theorem handle_appCalls (h : Protocol.SyncSlot.handle c e p msg = .ok (r, p')) :
    p'.appCalls = callsOfMessage c p msg ++ p.appCalls := by
  unfold Protocol.SyncSlot.handle at h
  cases h_type : msg.type <;> simp only [h_type] at h <;> simp only [callsOfMessage, h_type]
  case masterSync =>
    rw [handleSyncAspect_appCalls h]
    exact handleGranularityAspect_appCalls p msg
  case workSync =>
    rw [handleSyncAspect_appCalls h]
    unfold Protocol.handleWorkAspectOfWorkCarryingMsg
    split <;> rfl
  case controlNetGranularity =>
    cases h
    obtain ⟨i, h_i⟩ := Protocol.handleNetGranularityMessage_eq c p msg
    rw [h_i]
    rfl
  case controlScatterClique =>
    obtain ⟨p₁, h_scatter, h_eq⟩ := bind_return_eq_ok.1 h
    obtain rfl : p' = p₁ := (Prod.mk.inj h_eq).2
    rcases Protocol.handleScatterMessage_eq_ok h_scatter with ⟨i, rfl⟩ | ⟨-, -, h_rest⟩
    · rfl
    · obtain ⟨i, f, s, -, -, rfl⟩ := h_rest
      rfl
  case controlWorkTime =>
    cases h
    unfold Protocol.handleWorkTimeMessage
    split <;> rfl
  case controlWorkCycle =>
    cases h
    unfold Protocol.handleWorkCycleMessage
    split <;> rfl
  all_goals
    cases h
    rfl

theorem provisionSucceed_appCalls {provision : ProvisionedValue}
    (h : p.provisionSucceed c provision = .ok p') :
    p'.appCalls = callsOfProvision c p provision ++ p.appCalls := by
  unfold Protocol.provisionSucceed at h
  unfold callsOfProvision
  split at h
  case h_1 h_index =>
    cases h
    unfold Protocol.provisionWorkTime
    simp only [h_index]
    split <;> rfl
  case h_2 h_index =>
    cases h
    unfold Protocol.handleScatterProvisioning
    simp only [h_index, ite_self]
    split <;> rfl
  case h_3 h_index =>
    cases h
    unfold Protocol.provisionWorkCycle
    simp only [h_index]
    split <;> rfl
  case h_4 h_index =>
    cases h
    unfold Protocol.handleNetGranularityProvisioning
    simp only [h_index, ite_self]
    split
    · rfl
    · split <;> rfl
  case h_5 h_index =>
    cases h
    simp only [h_index, ite_self]
    rfl
  case h_6 => cases h

theorem bookkeeping_appCalls (h : p.bookkeepingAtPreludeToSyncSlot c e = .ok p') :
    p'.appCalls = .onSyncPoint :: p.appCalls := by
  obtain ⟨f, -, rfl⟩ := Protocol.bookkeepingAtPreludeToSyncSlot_eq_ok h
  obtain ⟨m, r, k, n, h_eq⟩ :=
    Protocol.checkPowerAndTryModeTransitions_eq c e (p.callApp .onSyncPoint)
  show ((p.callApp .onSyncPoint).checkPowerAndTryModeTransitions c e).appCalls = _
  rw [h_eq]
  rfl

/-- Every event makes its own calls, and no others. -/
theorem stepProtocol_appCalls (h : stepProtocol c p e ev = .ok p') :
    p'.appCalls = callsOf c p ev ++ p.appCalls := by
  cases stepProtocol_done h with
  | heard =>
      obtain ⟨⟨r, p₁⟩, h_handle, rfl⟩ := bind_return_eq_ok.1 h
      exact handle_appCalls h_handle
  | fished h_fished => cases h_fished <;> rfl
  | listened h_ended => cases h_ended <;> rfl
  | checked h_checked => cases h_checked <;> rfl
  | booked h_book => exact bookkeeping_appCalls h_book
  | provisioned => exact provisionSucceed_appCalls h
  | _ => rfl

end Log

-- ============================================================================
-- The calls of a step
-- ============================================================================

/-- The tasks that do the bookkeeping at the sync point. -/
def Task.keepsBooks : Task → Bool
  | .theRadioPreludeTaskWSync | .startSyncPeriodMaintain => true
  | _ => false

/-- The calls of a step of the unit. -/
def callsOfStep (c : Config) (a : Agent) : AgentEvent → List AppCall
  | .timer t _ => if t.keepsBooks then [.onSyncPoint] else []
  | .packet packet =>
      match a.radio, Agent.messageOf packet with
      | some .syncSlot, some msg => callsOfMessage c a.protocol msg
      | _, _ => []
  | .provisionerSucceed provision => callsOfProvision c a.protocol provision
  | .provisionerFail => []

namespace Agent

variable {c : Config} {e : Env} {a a' : Agent} {ev : AgentEvent} {t : Task}

theorem SyncSlotNext.appCalls {u : Bool} (h : SyncSlotNext c e a u a') :
    a'.protocol.appCalls = a.protocol.appCalls := by
  cases h <;> rfl

theorem NonSyncScheduled.appCalls (h : NonSyncScheduled c e a a') :
    a'.protocol.appCalls = a.protocol.appCalls := by
  cases h with
  | merges => split <;> rfl
  | _ => rfl

/-- A task tells the app of a sync point, or nothing. -/
theorem TaskRan.appCalls (h : TaskRan c e a t a') :
    a'.protocol.appCalls =
      (if t.keepsBooks then [.onSyncPoint] else []) ++ a.protocol.appCalls := by
  have h_slot : ∀ {t : Task}, startsSyncSlot t → t.keepsBooks = false := by
    rintro t (rfl | rfl) <;> rfl
  have h_silent : ∀ {p p' : Protocol} (event : ProtocolEvent), callsOf c p event = [] →
      stepProtocol c p e event = .ok p' → p'.appCalls = p.appCalls := by
    intro p p' event h_none h_step
    rw [stepProtocol_appCalls h_step, h_none, List.nil_append]
  have h_preFished : ∀ {p p' : Protocol}, p.preFishing = .ok p' → p'.appCalls = p.appCalls :=
    fun h_fish => h_silent .preFishing rfl h_fish
  cases h with
  | maintained _ _ h_book =>
      have h_told := bookkeeping_appCalls h_book
      exact h_told
  | resumed _ _ h_book =>
      have h_told := bookkeeping_appCalls h_book
      exact h_told
  | preludesSync h_book =>
      have h_told := bookkeeping_appCalls h_book
      exact h_told
  | pauses h_t =>
      rw [h_slot h_t]
      rfl
  | sends h_t _ _ _ _ _ h_step =>
      have h_same := h_silent .dispatchSyncSlotKind rfl h_step
      rw [h_slot h_t]
      exact h_same
  | listens h_t _ _ _ _ h_step =>
      have h_same := h_silent .dispatchSyncSlotKind rfl h_step
      rw [h_slot h_t]
      exact h_same
  | listened _ h_end h_fish h_next =>
      have h_ended := h_silent .endListen rfl h_end
      exact h_next.appCalls.trans ((h_preFished h_fish).trans h_ended)
  | sentOver _ h_fish h_next =>
      have h_same := h_preFished h_fish
      exact h_next.appCalls.trans h_same
  | fished _ h_check h_next =>
      have h_same := h_silent .checkFishingDone rfl h_check
      exact h_next.appCalls.trans h_same
  | merged _ h_sent h_next =>
      have h_same := h_silent .mergeSyncSent rfl h_sent
      exact h_next.appCalls.trans h_same
  | failsToProvision _ _ h_next => exact h_next.appCalls
  | provisioned h_next => exact h_next.appCalls
  | _ => rfl

/-- The handler gets the message of a packet, and nothing of any other packet. -/
theorem packet_handled {handler : MessageHandler} {packet : Option RadioBuffer}
    (h_radio : a.radio = some handler) (h : stepAgent c a e (.packet packet) = .ok a') :
    match messageOf packet with
    | some msg => ∃ r, a.handle c e handler msg = .ok (r, a'.protocol) ∧
        (r ≠ .keepListening → a'.radio = none)
    | none => a'.protocol = a.protocol := by
  unfold stepAgent at h
  dsimp only at h
  rw [h_radio] at h
  dsimp only [dispatch] at h
  unfold messageOf
  cases packet with
  | none =>
      cases h
      rfl
  | some buffer =>
      obtain ⟨m, h_m, h_rest⟩ := bind_eq_ok.1 h
      rw [ofProtocol_eq_ok] at h_m
      dsimp only
      rw [h_m]
      cases m with
      | none =>
          cases h_rest
          rfl
      | some msg =>
          obtain ⟨⟨r, p⟩, h_handle, h_left⟩ := bind_eq_ok.1 h_rest
          rw [ofProtocol_eq_ok] at h_handle
          have h_same : a.handle c e handler msg = .ok (r, p) := h_handle
          dsimp only at h_left
          split at h_left
          · rename_i h_keeps
            cases h_left
            exact ⟨r, h_same, fun h_stops => absurd h_keeps h_stops⟩
          · obtain ⟨-, -, h_eq⟩ := bind_eq_ok.1 h_left
            cases h_eq
            exact ⟨r, h_same, fun _ => rfl⟩

/-- Only the sync slot has messages for the app. -/
theorem packet_appCalls {packet : Option RadioBuffer} (h_possible : a.radio ≠ none)
    (h : stepAgent c a e (.packet packet) = .ok a') :
    a'.protocol.appCalls = callsOfStep c a (.packet packet) ++ a.protocol.appCalls := by
  obtain ⟨handler, h_radio⟩ := Option.ne_none_iff_exists'.1 h_possible
  have h_handled := packet_handled h_radio h
  cases h_msg : messageOf packet with
  | none =>
      rw [h_msg] at h_handled
      have h_same : a'.protocol = a.protocol := h_handled
      cases handler <;> simp only [callsOfStep, h_msg, h_radio, h_same, List.nil_append]
  | some msg =>
      rw [h_msg] at h_handled
      obtain ⟨r, h_handle, -⟩ := h_handled
      rw [stepProtocol_appCalls (handle_step h_handle)]
      cases handler <;> simp only [callsOfStep, h_msg, h_radio, hears, callsOf]

/-- A step of the unit makes its own calls, and no others. -/
theorem stepAgent_appCalls (h_one : a.OneTask) (h_possible : ev.Possible a e)
    (h : stepAgent c a e ev = .ok a') :
    a'.protocol.appCalls = callsOfStep c a ev ++ a.protocol.appCalls := by
  cases stepAgent_step h_one h_possible h with
  | ran _ _ _ _ h_ran =>
      have h_told := h_ran.appCalls
      exact h_told
  | heard => exact packet_appCalls h_possible.1 h
  | succeeded _ _ h_step =>
      have h_told := stepProtocol_appCalls h_step
      exact h_told
  | failed => rfl

end Agent

-- ============================================================================
-- The calls of a run
-- ============================================================================

/-- The app is told what the steps of the run say, and nothing else: a sync point for
    each bookkeeping, the work that the unit hears in its sync slot from its own
    clique, and what it is told to do as the master. -/
theorem app_calls_exact {c : Config} {w : Agent × List (Move Agent (Env × AgentEvent))}
    (h : (agentSystem c).recorded.Reachable w) :
    w.1.protocol.appCalls = w.2.flatMap (fun m => callsOfStep c m.before m.label.2) := by
  refine System.Reachable.watched_invariant
    (fun a moves => a.protocol.appCalls = moves.flatMap fun m => callsOfStep c m.before m.label.2)
    h.guarded_true ?_ ?_
  · rintro a ⟨i, l, -, rfl⟩
    rfl
  · rintro a moves ⟨e, ev⟩ a' h_a h_calls ⟨-, h_possible⟩ - h_next
    have h_one := agentSystem_oneTask h_a.guarded_true
    rw [Agent.stepAgent_appCalls h_one h_possible h_next, h_calls]
    rfl

/-- Work 17 of a member of clique five. -/
def workOfMember : SyncMessage :=
  { masterSyncFrom 5 (.ofTicks 79985) with type := .workSync, work := 17 }

/-- Unit five hears the work in its first sync slot. -/
def hearsMember : List (Env × AgentEvent) :=
  [onTime .startSyncPeriodMaintain 0,
    onTime .theRadioPreludeTaskWSync 79950,
    onTime .startSyncSlotAfterPrelude 80000,
    arrives 80015 workOfMember]

theorem app_calls_exact_hearsMember :
    ∃ w, (agentSystem unitFive).recorded.Reachable w ∧
      w.1.protocol.appCalls = [.onWorkMsg 17, .onSyncPoint, .onSyncPoint] ∧
      w.2.flatMap (fun m => callsOfStep unitFive m.before m.label.2) =
        [.onWorkMsg 17, .onSyncPoint, .onSyncPoint] := by
  obtain ⟨w, h, h_told⟩ := System.Reachable.exists_of_play
    (M := (agentSystem unitFive).recorded)
    (P := fun w => w.1.protocol.appCalls = [.onWorkMsg 17, .onSyncPoint, .onSyncPoint])
    hearsMember
    (show (agentSystem unitFive).recorded.init (Agent.boot unitFive 0 0, []) from
      ⟨⟨0, 0, Nat.le_refl 0, rfl⟩, rfl⟩)
    (by decide +kernel)
  exact ⟨w, h, h_told, (app_calls_exact h).symm.trans h_told⟩

end SleepSync
