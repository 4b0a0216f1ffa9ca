/-
  SleepSync.RoleConsistency

  Mode, role, the active flag of the merger and the count of sent merge
  messages, which the program stores in four places.

  They are the states of a small machine, `RoleState`, whose transitions
  `RoleChange` are the powers of the bookkeeping, a catch, and what follows a
  sent merge message.  Every event of the protocol is one of these.  Two of them
  rest on the role that the unit has: a catch on that of a fisher, the last merge
  message on that of a merger.  That the role is still so when the task runs is
  known of the task machine only: the task that is pending, and whether the
  receiver is on, say which role the unit has.
-/

import SleepSync.Dropout
import SleepSync.Receiving
import SleepSync.TaskRefinement

namespace SleepSync

open Lib ScheduleParameters Protocol

-- ============================================================================
-- Modes and roles
-- ============================================================================

structure RoleState where
  mode : SyncMode
  role : Role
  isActive : Bool
  countSentMergeSyncs : Nat

namespace RoleState

/-- The four are consistent. -/
structure Agrees (v : RoleState) : Prop where
  noFishing : v.role = .noFishing ↔ v.mode = .maintain ∨ v.mode = .syncOnly
  isActive : v.isActive = true ↔ v.role = .merger
  count : v.countSentMergeSyncs ≤ Policy.countSyncsPerMerger

end RoleState

/-- How the event `ev` changes mode, role and merger. -/
inductive RoleChange (ev : ProtocolEvent) (v : RoleState) : RoleState → Prop
  | kept : RoleChange ev v v
  | wakes (h_mode : v.mode = .maintain) : RoleChange ev v { v with mode := .syncOnly }
  | starves (h_mode : v.mode = .syncOnly) : RoleChange ev v { v with mode := .maintain }
  | fishes (h_mode : v.mode = .syncOnly) :
      RoleChange ev v { v with mode := .syncAndFishMerge, role := .fisher }
  | rests (h_mode : v.mode = .syncAndFishMerge ∨ v.mode = .syncAndProvision) :
      RoleChange ev v { v with
        mode := .syncOnly, role := .noFishing
        isActive := if v.role = .merger then false else v.isActive }
  | provisions (h_mode : v.mode = .syncAndFishMerge) :
      RoleChange ev v { v with mode := .syncAndProvision }
  | provisioned (h_mode : v.mode = .syncAndProvision) :
      RoleChange ev v { v with mode := .syncAndFishMerge }
  | catches {msg : SyncMessage} (h_ev : ev = .hearInFishSlot msg) (h_role : v.role = .fisher) :
      RoleChange ev v { v with role := .merger, isActive := true }
  | sent (h_ev : ev = .mergeSyncSent)
      (h_count : v.countSentMergeSyncs < Policy.countSyncsPerMerger) :
      RoleChange ev v { v with countSentMergeSyncs := v.countSentMergeSyncs + 1 }
  | completed (h_ev : ev = .mergeSyncSent) :
      RoleChange ev v { v with role := .fisher, isActive := false, countSentMergeSyncs := 0 }

theorem RoleChange.agrees {ev : ProtocolEvent} {v v' : RoleState} (h : RoleChange ev v v')
    (h_v : v.Agrees) (h_merger : ev = .mergeSyncSent → v.role = .merger) : v'.Agrees := by
  obtain ⟨h_noFishing, h_active, h_count⟩ := h_v
  cases h with
  | kept => exact ⟨h_noFishing, h_active, h_count⟩
  | wakes h_mode =>
      exact ⟨iff_of_true (h_noFishing.2 (Or.inl h_mode)) (Or.inr rfl), h_active, h_count⟩
  | starves h_mode =>
      exact ⟨iff_of_true (h_noFishing.2 (Or.inr h_mode)) (Or.inl rfl), h_active, h_count⟩
  | fishes h_mode =>
      have h_role := h_noFishing.2 (Or.inr h_mode)
      have h_off : v.isActive ≠ true := fun h_on => by
        rw [h_active.1 h_on] at h_role
        cases h_role
      refine ⟨?_, ?_, h_count⟩
      · simp only [reduceCtorEq, or_self]
      · simp only [reduceCtorEq, iff_false]
        exact h_off
  | rests =>
      refine ⟨?_, ?_, h_count⟩
      · simp only [or_true]
      · simp only [reduceCtorEq, iff_false]
        by_cases h_role : v.role = .merger
        · rw [if_pos h_role]
          exact Bool.false_ne_true
        · rw [if_neg h_role]
          exact fun h_on => h_role (h_active.1 h_on)
  | provisions h_mode =>
      refine ⟨?_, h_active, h_count⟩
      simp only [h_mode, reduceCtorEq, or_self, iff_false] at h_noFishing ⊢
      exact h_noFishing
  | provisioned h_mode =>
      refine ⟨?_, h_active, h_count⟩
      simp only [h_mode, reduceCtorEq, or_self, iff_false] at h_noFishing ⊢
      exact h_noFishing
  | catches h_ev h_role =>
      simp only [h_role, reduceCtorEq, false_iff] at h_noFishing
      refine ⟨?_, ?_, h_count⟩
      · simp only [reduceCtorEq, false_iff]
        exact h_noFishing
      · simp only
  | sent _ h_lt => exact ⟨h_noFishing, h_active, h_lt⟩
  | completed h_ev =>
      simp only [h_merger h_ev, reduceCtorEq, false_iff] at h_noFishing
      refine ⟨?_, ?_, Nat.zero_le _⟩
      · simp only [reduceCtorEq, false_iff]
        exact h_noFishing
      · simp only [reduceCtorEq, Bool.false_eq_true]

-- ============================================================================
-- Every event is such a change
-- ============================================================================

namespace Protocol

def roles (p : Protocol) : RoleState where
  mode := p.mode
  role := p.role
  isActive := p.cliqueMerger.isActive
  countSentMergeSyncs := p.countSentMergeSyncs

end Protocol

section Events

variable {c : Config} {e : Env} {p p' : Protocol} {ev : ProtocolEvent} {msg : SyncMessage}

theorem toSyncOnly_roles (h_mode : p.mode = .syncAndFishMerge ∨ p.mode = .syncAndProvision) :
    RoleChange ev p.roles p.toSyncOnly.roles := by
  have h_rests := @RoleChange.rests ev p.roles h_mode
  unfold toSyncOnly toNoFishingFromOther
  dsimp only
  by_cases h_role : p.role = .merger
  · have h_off : (if p.roles.role = .merger then false else p.roles.isActive) = false :=
      if_pos h_role
    rw [h_off] at h_rests
    rw [if_pos h_role]
    exact h_rests
  · have h_off : (if p.roles.role = .merger then false else p.roles.isActive) =
        p.roles.isActive := if_neg h_role
    rw [h_off] at h_rests
    rw [if_neg h_role]
    exact h_rests

theorem checkPowerAndTryModeTransitions_roles (c : Config) (e : Env) (p : Protocol) :
    RoleChange ev p.roles (p.checkPowerAndTryModeTransitions c e).roles := by
  unfold checkPowerAndTryModeTransitions
  cases h_mode : p.mode with
  | maintain =>
      dsimp only
      split
      · exact RoleChange.wakes h_mode
      · exact RoleChange.kept
  | syncOnly =>
      dsimp only
      split
      · exact RoleChange.starves h_mode
      · split
        · exact RoleChange.fishes h_mode
        · exact RoleChange.kept
  | syncAndFishMerge =>
      dsimp only
      split
      · exact toSyncOnly_roles (Or.inl h_mode)
      · obtain ⟨b, n, h_prov⟩ := shouldProvision_eq c p
        rw [h_prov]
        cases b with
        | true => exact RoleChange.provisions h_mode
        | false => exact RoleChange.kept
  | syncAndProvision =>
      dsimp only
      split
      · exact toSyncOnly_roles (Or.inr h_mode)
      · exact RoleChange.provisioned h_mode

/-- Mode, role and merger under any completed event. -/
theorem stepProtocol_roles (h : stepProtocol c p e ev = .ok p') :
    RoleChange ev p.roles p'.roles := by
  cases stepProtocol_done h with
  | heard h_heard => cases h_heard <;> exact RoleChange.kept
  | fished h_fished =>
      cases h_fished with
      | mergesMy h_role => exact RoleChange.catches rfl h_role
      | mergesOther h_role => exact RoleChange.catches rfl h_role
      | caughtDeep => exact RoleChange.kept
      | kept => exact RoleChange.kept
  | listened h_ended => cases h_ended <;> exact RoleChange.kept
  | checked h_checked => cases h_checked <;> exact RoleChange.kept
  | sent h_lt => exact RoleChange.sent rfl h_lt
  | completed => exact RoleChange.completed rfl
  | booked h_book =>
      obtain ⟨f, -, h_eq⟩ := bookkeepingAtPreludeToSyncSlot_eq_ok h_book
      rw [h_eq]
      exact checkPowerAndTryModeTransitions_roles c e (p.callApp .onSyncPoint)
  | _ => exact RoleChange.kept

end Events

-- ============================================================================
-- What the pending task says about the role
-- ============================================================================

namespace Agent

/-- The role in which a task runs that needs one. -/
def RoleFits (a : Agent) : Task → Prop
  | .theRadioPreludeTaskWFish | .fishSlotStart => a.protocol.role = .fisher
  | .fishSlotEnd => a.radio ≠ none → a.protocol.role = .fisher
  | .mergerStartAndEnd => a.protocol.role = .merger
  | _ => True

structure RoleWaits (a : Agent) (t : Task) (_ : Nat) : Prop where
  agrees : a.protocol.roles.Agrees
  fits : a.RoleFits t

abbrev RoleKept (a : Agent) : Prop :=
  Keeps RoleWaits (fun a => a.protocol.roles.Agrees) (fun _ => True) a

section Roles

variable {c : Config} {e : Env} {a a' : Agent} {ev : AgentEvent} {t : Task} {x d : Nat}

theorem RoleKept.of_waiting (h_pending : a.pending = [(t, x)]) (h_agrees : a.protocol.roles.Agrees)
    (h_fits : a.RoleFits t) : a.RoleKept :=
  Keeps.of_waiting h_pending ⟨h_agrees, h_fits⟩ (fun _ _ => trivial)

theorem RoleKept.schedule (h_pending : a.pending = []) (h_agrees : a.protocol.roles.Agrees)
    (h_fits : a.RoleFits t) : (a.schedule e t d).RoleKept := by
  refine Keeps.schedule h_pending ⟨h_agrees, ?_⟩ trivial (fun _ _ => trivial)
  cases t <;> exact h_fits

/-- Every event but the sending of a merge message keeps the agreement. -/
theorem agrees_of_step {p p' : Protocol} {event : ProtocolEvent} (h_p : p.roles.Agrees)
    (h_ev : event ≠ .mergeSyncSent) (h_step : stepProtocol c p e event = .ok p') :
    p'.roles.Agrees :=
  (stepProtocol_roles h_step).agrees h_p (fun h_sent => absurd h_sent h_ev)

theorem SyncSlotNext.roleKept {u : Bool} (h : SyncSlotNext c e a u a') (h_pending : a.pending = [])
    (h_agrees : a.protocol.roles.Agrees) : a'.RoleKept := by
  cases h with
  | afterPrelude =>
      apply RoleKept.schedule
      · exact h_pending
      · exact h_agrees
      · trivial
  | abuts => exact RoleKept.schedule h_pending h_agrees trivial

theorem NonSyncScheduled.roleKept (h : NonSyncScheduled c e a a') (h_pending : a.pending = [])
    (h_agrees : a.protocol.roles.Agrees) : a'.RoleKept := by
  cases h with
  | omits =>
      apply RoleKept.schedule
      · exact h_pending
      · exact h_agrees
      · trivial
  | merges _ h_role =>
      split
      · exact RoleKept.schedule h_pending h_agrees h_role
      · apply RoleKept.schedule
        · exact h_pending
        · exact h_agrees
        · exact h_role
  | fishesNear _ h_role =>
      apply RoleKept.schedule
      · exact h_pending
      · exact h_agrees
      · exact h_role
  | fishesFar _ h_role =>
      apply RoleKept.schedule
      · exact h_pending
      · exact h_agrees
      · exact h_role
  | provisions => exact RoleKept.schedule h_pending h_agrees trivial
  | stalls => exact Keeps.of_idle h_pending h_agrees (fun _ _ => trivial)

theorem TaskRan.roleKept (h : TaskRan c e a t a') (h_pending : a.pending = [])
    (h_agrees : a.protocol.roles.Agrees) (h_fits : a.RoleFits t) : a'.RoleKept := by
  have h_pended := pending_append h_pending
  have h_booked : ∀ {p : Protocol},
      a.protocol.bookkeepingAtPreludeToSyncSlot c e = .ok p → p.roles.Agrees := by
    intro p h_book
    have h_step : stepProtocol c a.protocol e .bookkeepingAtPreludeToSyncSlot = .ok p := h_book
    exact agrees_of_step h_agrees ProtocolEvent.noConfusion h_step
  have h_fished : ∀ {p p₁ : Protocol}, p.roles.Agrees → p.preFishing = .ok p₁ →
      p₁.roles.Agrees := by
    intro p p₁ h_p h_fish
    have h_step : stepProtocol c p e .preFishing = .ok p₁ := h_fish
    exact agrees_of_step h_p ProtocolEvent.noConfusion h_step
  cases h with
  | maintained _ _ h_book =>
      have h_next := h_booked h_book
      apply RoleKept.schedule
      · exact h_pending
      · exact h_next
      · trivial
  | resumed _ _ h_book =>
      have h_next := h_booked h_book
      apply RoleKept.schedule
      · exact h_pending
      · exact h_next
      · trivial
  | preludesSync h_book => exact RoleKept.of_waiting (h_pended _ _) (h_booked h_book) trivial
  | preludesFish => exact RoleKept.of_waiting (h_pended _ _) h_agrees h_fits
  | pauses => exact RoleKept.of_waiting (h_pended _ _) h_agrees trivial
  | sends _ _ _ _ _ _ h_step =>
      refine RoleKept.of_waiting (h_pended _ _) ?_ trivial
      exact agrees_of_step (p := a.protocol.preludeToSyncPeriod) h_agrees
        ProtocolEvent.noConfusion h_step
  | listens _ _ _ _ _ h_step =>
      refine RoleKept.of_waiting (h_pended _ _) ?_ trivial
      exact agrees_of_step (p := a.protocol.preludeToSyncPeriod) h_agrees
        ProtocolEvent.noConfusion h_step
  | sent => exact RoleKept.of_waiting (h_pended _ _) h_agrees trivial
  | @listened p p₁ _ _ h_end h_fish h_sched =>
      have h_step : stepProtocol c a.protocol e .endListen = .ok p := h_end
      have h_ended := agrees_of_step h_agrees ProtocolEvent.noConfusion h_step
      exact h_sched.roleKept h_pending (h_fished h_ended h_fish)
  | sentOver _ h_fish h_sched => exact h_sched.roleKept h_pending (h_fished h_agrees h_fish)
  | fishes => exact RoleKept.of_waiting (h_pended _ _) h_agrees (fun _ => h_fits)
  | @fished p _ _ h_check h_sync =>
      have h_step : stepProtocol c a.protocol e .checkFishingDone = .ok p := h_check
      exact h_sync.roleKept h_pending (agrees_of_step h_agrees ProtocolEvent.noConfusion h_step)
  | @merged msg p _ _ h_sent h_sync =>
      have h_step : stepProtocol c a.protocol e .mergeSyncSent = .ok p := h_sent
      exact h_sync.roleKept h_pending ((stepProtocol_roles h_step).agrees h_agrees fun _ => h_fits)
  | provisions => exact Keeps.of_idle h_pending h_agrees (fun _ _ => trivial)
  | failsToProvision _ _ h_sync => exact h_sync.roleKept h_pending h_agrees
  | provisioned h_sync => exact h_sync.roleKept h_pending h_agrees

-- ============================================================================
-- Packets
-- ============================================================================

/-- A message that is handled in the fish slot and does not end the listening was
    not caught by trolling. -/
theorem fishSlot_keepListening {p p' : Protocol} {msg : SyncMessage}
    (h : FishSlot.handle c e p msg = .ok (.keepListening, p')) : p'.role = p.role := by
  unfold FishSlot.handle at h
  split at h
  case h_1 =>
    unfold FishSlot.handleMasterSyncMessage doFishedSyncMsg at h
    split at h
    · obtain ⟨p₁, -, h_eq⟩ := bind_return_eq_ok.1 h
      cases h_eq
    · obtain ⟨-, h⟩ := require_bind_eq_ok.1 h
      split at h
      · obtain ⟨p₁, -, h_eq⟩ := bind_return_eq_ok.1 h
        cases h_eq
      · cases h
        rfl
  case h_2 =>
    obtain ⟨r, -, h_eq⟩ := bind_return_eq_ok.1 h
    cases h_eq
  all_goals
    cases h
    try rfl

/-- The receiver stays on in the fish slot only where the role stays. -/
theorem fishSlot_role {packet : Option RadioBuffer} (h_radio : a.radio = some .fishSlot)
    (h_next : stepAgent c a e (.packet packet) = .ok a') (h_on : a'.radio ≠ none) :
    a'.protocol.role = a.protocol.role := by
  unfold stepAgent at h_next
  dsimp only at h_next
  rw [h_radio] at h_next
  dsimp only at h_next
  cases packet with
  | none =>
      cases h_next
      rfl
  | some buffer =>
      unfold dispatch at h_next
      obtain ⟨m, -, h_next⟩ := bind_eq_ok.1 h_next
      cases m with
      | none =>
          cases h_next
          rfl
      | some msg =>
          unfold handleValidMessageAndSetContinuation at h_next
          obtain ⟨⟨r, p⟩, h_handle, h_next⟩ := bind_eq_ok.1 h_next
          dsimp only at h_next
          by_cases h_keep : r = .keepListening
          · rw [if_pos h_keep] at h_next
            cases h_next
            subst h_keep
            exact fishSlot_keepListening (ofProtocol_eq_ok.1 h_handle)
          · rw [if_neg h_keep] at h_next
            obtain ⟨-, h_next⟩ := require_bind_eq_ok.1 h_next
            cases h_next
            exact absurd rfl h_on

theorem PacketTaken.agrees {handler : MessageHandler} {packet : Option RadioBuffer}
    (h : PacketTaken c e a handler packet a') (h_agrees : a.protocol.roles.Agrees) :
    a'.protocol.roles.Agrees := by
  have h_ev : ∀ msg, hears handler msg ≠ .mergeSyncSent := by
    intro msg
    cases handler <;> exact ProtocolEvent.noConfusion
  cases h with
  | ignored => exact h_agrees
  | goesOn _ h_step => exact agrees_of_step h_agrees (h_ev _) h_step
  | ends _ h_step => exact agrees_of_step h_agrees (h_ev _) h_step

theorem AgentStep.roleKept (h : AgentStep c e a ev a') (h_next : stepAgent c a e ev = .ok a')
    (h_a : a.RoleKept) : a'.RoleKept := by
  cases h with
  | @ran t x _ h_pending _ _ _ h_ran =>
      have h_waits := h_a.waiting t x h_pending
      refine h_ran.roleKept (dequeued_pending e t x h_pending) h_waits.agrees ?_
      have h_fits := h_waits.fits
      cases t <;> exact h_fits
  | @heard packet handler x _ h_radio h_pending _ h_taken =>
      have h_waits := h_a.waiting _ x h_pending
      refine RoleKept.of_waiting (h_taken.pending.trans h_pending)
        (h_taken.agrees h_waits.agrees) ?_
      cases handler with
      | syncSlot => trivial
      | fishSlot =>
          intro h_on
          rw [fishSlot_role h_radio h_next h_on]
          refine h_waits.fits ?_
          rw [h_radio]
          exact Option.some_ne_none _
  | @succeeded provision p h_pending _ h_step =>
      apply RoleKept.schedule
      · exact h_pending
      · exact agrees_of_step (h_a.idle h_pending) ProtocolEvent.noConfusion h_step
      · trivial
  | failed h_pending =>
      apply RoleKept.schedule
      · exact h_pending
      · exact h_a.idle h_pending
      · trivial

theorem roleKept_boot (initTime loopTime : Nat) : (Agent.boot c initTime loopTime).RoleKept := by
  apply RoleKept.schedule
  · rfl
  · refine ⟨iff_of_true rfl (Or.inl rfl), ?_, Nat.zero_le _⟩
    exact iff_of_false Bool.false_ne_true Role.noConfusion
  · trivial

end Roles

end Agent

-- ============================================================================
-- The assertions about the role
-- ============================================================================

/-- The assertions that rest on the agreement: `isFisher` on becoming a merger,
    `Trolling` and not-self-master in `CliqueMerger::initFromMsg`, `isActive` in
    `makeMergeMsg`, and the count in `checkCompletionOfMergerRole`. -/
def roleAssertions : List Fault :=
  [.notFisher, .mergeFromDeep, .stillSelfMaster, .mergerNotActive, .mergePolicyNotRestarted]

theorem not_adjust_of_roleAssertion {flt : Fault} (h : flt ∈ roleAssertions) :
    flt.isAdjust = false ∧ flt ≠ .fishSessionRange := by
  revert h flt
  decide

section Assertions

variable {c : Config} {e : Env} {p : Protocol} {ev : ProtocolEvent} {flt : Fault}

/-- The events that can stop at one of them, and how. -/
theorem EventStops.roleAssertion (h : EventStops c e p ev flt) (h_flt : flt ∈ roleAssertions) :
    (∃ msg, ev = .hearInFishSlot msg ∧
        (p.role ≠ .fisher ∨ (p.isOtherCliqueBetter msg.masterID = true ∧ msg.masterID = c.id))) ∨
      (ev = .mergeSyncSent ∧ Policy.countSyncsPerMerger < p.countSentMergeSyncs) := by
  cases h with
  | adjusts h_adjust =>
      rw [(not_adjust_of_roleAssertion h_flt).1] at h_adjust
      cases h_adjust
  | session => exact absurd rfl (not_adjust_of_roleAssertion h_flt).2
  | notFisher _ h_role => exact Or.inl ⟨_, rfl, Or.inl h_role⟩
  | stillSelfMaster h_better h_self => exact Or.inl ⟨_, rfl, Or.inr ⟨h_better, h_self⟩⟩
  | notRestarted h_count => exact Or.inr ⟨rfl, h_count⟩
  | _ => exact absurd h_flt (by decide)

/-- A merge message is built by an active merger. -/
theorem makeMergeMsg_roleAssertion (h : p.makeMergeMsg c e = .error flt)
    (h_flt : flt ∈ roleAssertions) : p.cliqueMerger.isActive ≠ true := by
  rcases makeMergeMsg_eq_error h with ⟨-, h_idle⟩ | ⟨rfl, -⟩
  · exact ne_true_of_eq_false h_idle
  · exact absurd h_flt (by decide)

end Assertions

namespace Agent

variable {c : Config} {e : Env} {a : Agent} {ev : AgentEvent} {flt : Fault}

/-- The message of a sync slot stops at an assertion of its building only. -/
theorem syncSlotMessage_stops (h : a.syncSlotMessage c e = .error (.protocol flt)) :
    flt = .doesNotCarrySync ∨ flt = .deltaSyncRange := by
  have h_init : ∀ {msgType : MessageType} {work : Payload},
      ofProtocol (a.protocol.initSyncMessage c e msgType work) = .error (.protocol flt) →
        flt = .doesNotCarrySync ∨ flt = .deltaSyncRange := by
    intro msgType work h_msg
    obtain ⟨f, h_f, h_init⟩ := ofProtocol_eq_error.1 h_msg
    cases h_f
    rcases initSyncMessage_eq_error h_init with ⟨h_flt, -⟩ | ⟨h_flt, -⟩
    · exact Or.inl h_flt
    · exact Or.inr h_flt
  unfold syncSlotMessage at h
  split at h
  · exact h_init h
  · exact h_init h
  · exact h_init h
  · cases h

/-- That is not built by the merger. -/
theorem syncSlotMessage_roleAssertion (h : a.syncSlotMessage c e = .error (.protocol flt)) :
    flt ∉ roleAssertions := by
  rcases syncSlotMessage_stops h with rfl | rfl <;> decide

/-- A task stops at one of them only where it runs in another role than it was
    scheduled in. -/
theorem TaskStops.not_roleAssertion {t : Task} (h : TaskStops c e a t (.protocol flt))
    (h_agrees : a.protocol.roles.Agrees) (h_fits : a.RoleFits t) : flt ∉ roleAssertions := by
  intro h_flt
  have h_event : ∀ {p : Protocol} {event : ProtocolEvent},
      stepProtocol c p e event = .error flt → event ≠ .mergeSyncSent →
        (∀ msg, event ≠ .hearInFishSlot msg) → False := by
    intro p event h_step h_sent h_heard
    rcases (stepProtocol_stops h_step).roleAssertion h_flt with ⟨msg, h_ev, -⟩ | ⟨h_ev, -⟩
    · exact h_heard msg h_ev
    · exact h_sent h_ev
  cases h with
  | handOver h_not => cases h_not
  | bookkeeping h_step =>
      exact h_event h_step ProtocolEvent.noConfusion (fun _ => ProtocolEvent.noConfusion)
  | dispatch _ h_step =>
      exact h_event h_step ProtocolEvent.noConfusion (fun _ => ProtocolEvent.noConfusion)
  | send h_msg => exact syncSlotMessage_roleAssertion h_msg h_flt
  | endListen h_step =>
      exact h_event h_step ProtocolEvent.noConfusion (fun _ => ProtocolEvent.noConfusion)
  | preFishing _ h_step =>
      exact h_event h_step ProtocolEvent.noConfusion (fun _ => ProtocolEvent.noConfusion)
  | mergeStart => exact absurd h_flt (by decide)
  | checkFishingDone h_step =>
      exact h_event h_step ProtocolEvent.noConfusion (fun _ => ProtocolEvent.noConfusion)
  | makeMergeMsg h_msg =>
      exact makeMergeMsg_roleAssertion h_msg h_flt (h_agrees.isActive.2 h_fits)
  | mergeSyncSent h_step =>
      rcases (stepProtocol_stops h_step).roleAssertion h_flt with ⟨msg, h_ev, -⟩ | ⟨-, h_count⟩
      · cases h_ev
      · exact absurd h_agrees.count (Nat.not_le_of_lt h_count)

/-- No step stops at one of them. -/
theorem stepAgent_roleAssertion (h_one : a.OneTask) (h_a : a.RoleKept)
    (h_master : a.protocol.masterID ≤ c.id) (h_possible : ev.Possible a e)
    (h : stepAgent c a e ev = .error (.protocol flt)) : flt ∉ roleAssertions := by
  intro h_flt
  cases stepAgent_stops h with
  | @ran t x _ h_stops =>
      obtain ⟨h_mem, -⟩ := h_possible
      have h_waits := h_a.waiting t x (h_one.pending_eq h_mem)
      refine h_stops.not_roleAssertion h_waits.agrees ?_ h_flt
      have h_fits := h_waits.fits
      cases t <;> exact h_fits
  | garbled h_range =>
      rw [h_range] at h_flt
      exact absurd h_flt (by decide)
  | @heard packet handler msg _ h_radio h_msg h_step =>
      rcases (stepProtocol_stops h_step).roleAssertion h_flt with ⟨m, h_ev, h_why⟩ | ⟨h_ev, -⟩
      · cases handler with
        | syncSlot => cases h_ev
        | fishSlot =>
            rcases h_why with h_role | ⟨h_better, h_self⟩
            · obtain ⟨x, h_pending⟩ := h_one.radio .fishSlot h_radio
              refine h_role ((h_a.waiting _ x h_pending).fits ?_)
              rw [h_radio]
              exact Option.some_ne_none _
            · have h_lt : m.masterID < a.protocol.masterID := of_decide_eq_true h_better
              omega
      · cases handler <;> cases h_ev
  | provisioned h_step =>
      rcases (stepProtocol_stops h_step).roleAssertion h_flt with ⟨m, h_ev, -⟩ | ⟨h_ev, -⟩
      · cases h_ev
      · cases h_ev

end Agent

-- ============================================================================
-- Runs
-- ============================================================================

section Runs

variable {c : Config} {a : Agent}

theorem agentSystem_roleKept (h : (agentSystem c).Reachable a) : a.RoleKept := by
  refine h.invariant_of_reachable Agent.RoleKept ?_ ?_
  · rintro a ⟨initTime, loopTime, -, rfl⟩
    exact Agent.roleKept_boot initTime loopTime
  · rintro a ⟨e, ev⟩ a' h_reach h_a ⟨-, h_possible⟩ h_next
    have h_one := agentSystem_oneTask h_reach.guarded_true
    exact (Agent.stepAgent_step h_one h_possible h_next).roleKept h_next h_a

/-- The master of a unit is never worse than the unit itself. -/
theorem agentSystem_masterID_le (h : (agentSystem c).Reachable a) :
    a.protocol.masterID ≤ c.id := by
  refine agentSystem_protocol (P := fun p => p.masterID ≤ c.id) h ?_ ?_
  · exact fun _ _ => Nat.le_refl _
  · exact fun _ h_reach => (protocolSystem_sound h_reach).masterID_le

/-- In every run: the unit has a role exactly in the modes that have one, the
    merger is active exactly in its role, the count of merge messages is in its
    range, and no assertion that rests on this fails. -/
theorem roles_consistent (h : (agentSystem c).Reachable a) :
    (a.protocol.role = .noFishing ↔
        a.protocol.mode = .maintain ∨ a.protocol.mode = .syncOnly) ∧
      (a.protocol.cliqueMerger.isActive = true ↔ a.protocol.role = .merger) ∧
      a.protocol.countSentMergeSyncs ≤ Policy.countSyncsPerMerger ∧
      ∀ e ev flt, (agentSystem c).enabled a (e, ev) → flt ∈ roleAssertions →
        (agentSystem c).step a (e, ev) ≠ .error (.protocol flt) := by
  have h_kept := agentSystem_roleKept h
  have h_one := agentSystem_oneTask h.guarded_true
  have h_agrees : a.protocol.roles.Agrees := by
    rcases h_pending : a.pending with _ | ⟨⟨t, x⟩, rest⟩
    · exact h_kept.idle h_pending
    · have h_rest : rest = [] := by
        have h_length := h_one.pending
        rw [h_pending, List.length_cons] at h_length
        exact List.length_eq_zero_iff.1 (by omega)
      rw [h_rest] at h_pending
      exact (h_kept.waiting t x h_pending).agrees
  refine ⟨h_agrees.noFishing, h_agrees.isActive, h_agrees.count, ?_⟩
  rintro e ev flt ⟨-, h_possible⟩ h_flt h_step
  exact Agent.stepAgent_roleAssertion h_one h_kept (agentSystem_masterID_le h) h_possible h_step
    h_flt

/-- Unit five as a merger, with its merge slot ahead. -/
theorem roles_consistent_mergesNine :
    ∃ a, (agentSystem unitFive).Reachable a ∧ a.pending = [(.mergerStartAndEnd, 160160)] ∧
      a.protocol.role = .merger ∧ a.protocol.cliqueMerger.isActive = true := by
  obtain ⟨a, h, h_pending, h_role⟩ :=
    System.Reachable.exists_of_play (M := agentSystem unitFive)
      (P := fun a => a.pending = [(.mergerStartAndEnd, 160160)] ∧ a.protocol.role = .merger)
      (catchesNine ++ mergesNine.take 1) ⟨0, 0, Nat.le_refl 0, rfl⟩ (by decide +kernel)
  obtain ⟨-, h_active, -, -⟩ := roles_consistent h
  exact ⟨a, h, h_pending, h_role, h_active.2 h_role⟩

end Runs

end SleepSync
