/-
  SleepSync.RoleStability

  Whether a unit keeps its role while it repeats a control message.

  Which message is repeated, and what is done in the end, depends on the role at
  the start: a master tells its clique, a slave tells its master.  The repeater is
  aborted by a control message that a slave hears, and it ends when it is done,
  but it goes on when the unit changes its role otherwise: when a master joins a
  better clique, and when a slave takes over mastership after an abandonment, a
  dropout, or a deep fishing that failed.  The callback then stops at its
  assertion, or the message for the own clique is sent to another.
-/

import SleepSync.EpisodeIntegrity
import SleepSync.GivingUp
import SleepSync.Receiving

namespace SleepSync

open Lib Protocol

-- ============================================================================
-- Changes of the role
-- ============================================================================

namespace Protocol

variable (c : Config) (p : Protocol)

/-- The event makes a master a slave, or a slave a master that has not been told
    to scatter. -/
def turnsRole : ProtocolEvent → Bool
  | .hearInSyncSlot msg =>
      if p.isSelfMaster c then p.adoptsInSyncSlot msg && p.isOtherCliqueBetter msg.masterID
      else msg.type = .abandonMastership
  | .hearInFishSlot msg => p.isSelfMaster c && p.adoptsInFishSlot msg
  | .endListen =>
      !p.isSelfMaster c && p.countSyncSlotsWithoutSyncMsg = Policy.maxMissingSyncsPerDropout
  | .checkFishingDone => !p.isSelfMaster c && p.failsToRecover
  | _ => false

/-- While a message is repeated, the unit has the role that its callback asserts. -/
def HasEpisodeRole : Prop :=
  p.intraClique.isActive = true →
    (p.intraClique.repeater.onDoneCallback = .onDoneRepeatingUpstream ↔ p.isSelfMaster c = false)

instance : Decidable (p.HasEpisodeRole c) :=
  inferInstanceAs (Decidable (_ → _))

end Protocol

/-- What an event does to the role: it turns it and leaves the control of the
    clique alone, or it keeps it, or nothing is being repeated after it. -/
def RoleTurned (c : Config) (p p' : Protocol) (turns : Bool) : Prop :=
  (turns = true ∧ p'.isSelfMaster c = !p.isSelfMaster c ∧ p'.intraClique = p.intraClique) ∨
    (turns = false ∧ (p'.isSelfMaster c = p.isSelfMaster c ∨ p'.intraClique.isActive = false))

section Roles

variable {c : Config} {e : Env} {p p' : Protocol} {ev : ProtocolEvent} {msg : SyncMessage}

theorem RoleTurned.of_masterID (h : p'.masterID = p.masterID) : RoleTurned c p p' false := by
  refine Or.inr ⟨rfl, Or.inl ?_⟩
  unfold isSelfMaster
  rw [h]

theorem RoleTurned.of_kept {turns : Bool} (h_turns : turns = false)
    (h : p'.isSelfMaster c = p.isSelfMaster c) : RoleTurned c p p' turns :=
  Or.inr ⟨h_turns, Or.inl h⟩

/-- What follows neither changes the master nor the control of the clique. -/
theorem RoleTurned.andThen {p₁ p₂ : Protocol} {turns : Bool} (h : RoleTurned c p p₁ turns)
    (h_master : p₂.masterID = p₁.masterID) (h_intra : p₂.intraClique = p₁.intraClique) :
    RoleTurned c p p₂ turns := by
  have h_role : p₂.isSelfMaster c = p₁.isSelfMaster c := by
    unfold isSelfMaster
    rw [h_master]
  unfold RoleTurned
  rw [h_role, h_intra]
  exact h

/-- A slave is told to scatter: what it repeats is aborted first. -/
theorem scatter_inactive (h_slave : p.isSelfMaster c = false)
    (h : p.handleScatterMessage c e msg = .ok p')
    (h_mine : p.isMsgFromMyClique msg.masterID = true) : p'.intraClique.isActive = false := by
  unfold handleScatterMessage at h
  rw [if_pos h_mine, if_neg (by rw [h_slave]; exact Bool.false_ne_true)] at h
  obtain ⟨f, s, -, -, rfl⟩ := scatterSync_eq_ok.1 h
  show (p.cancelAnyUpstreamingInProgress c).intraClique.isActive = false
  unfold cancelAnyUpstreamingInProgress
  by_cases h_active : p.intraClique.isActive = true
  · rw [if_pos ⟨by rw [h_slave]; rfl, h_active⟩]
    rfl
  · rw [if_neg (fun h_both => h_active h_both.2)]
    exact eq_false_of_ne_true h_active

/-- A message of a better clique is from no unit of the own ID. -/
theorem not_self_of_better (h_le : p.masterID ≤ c.id)
    (h_better : p.isOtherCliqueBetter msg.masterID = true) : msg.masterID ≠ c.id := by
  have h_lt : msg.masterID < p.masterID := of_decide_eq_true h_better
  omega

theorem turnsRole_hearInSyncSlot_of_master (h_master : p.isSelfMaster c = true) :
    p.turnsRole c (.hearInSyncSlot msg) =
      (p.adoptsInSyncSlot msg && p.isOtherCliqueBetter msg.masterID) := by
  simp only [turnsRole, h_master, if_true]

theorem turnsRole_hearInSyncSlot_of_slave (h_slave : p.isSelfMaster c = false) :
    p.turnsRole c (.hearInSyncSlot msg) = decide (msg.type = .abandonMastership) := by
  simp only [turnsRole, h_slave, Bool.false_eq_true, if_false]

/-- The role is not turned by a message from the unit's own clique, or from one that
    it does not adopt. -/
theorem turnsRole_hearInSyncSlot_eq_false (h_type : msg.type ≠ .abandonMastership)
    (h_not : (p.adoptsInSyncSlot msg && p.isOtherCliqueBetter msg.masterID) = false) :
    p.turnsRole c (.hearInSyncSlot msg) = false := by
  cases h_master : p.isSelfMaster c with
  | true => exact (turnsRole_hearInSyncSlot_of_master h_master).trans h_not
  | false => exact (turnsRole_hearInSyncSlot_of_slave h_master).trans (decide_eq_false h_type)

/-- A slave that is told to be master turns, a master stays what it is. -/
theorem abandonMastership_role (h_type : msg.type = .abandonMastership)
    (h : stepProtocol c p e (.hearInSyncSlot msg) = .ok p') :
    RoleTurned c p p' (p.turnsRole c (.hearInSyncSlot msg)) := by
  have h_self := hears_abandonMastership h_type h
  obtain ⟨⟨r, p₁⟩, h_handle, rfl⟩ := bind_return_eq_ok.1 h
  unfold SyncSlot.handle at h_handle
  rw [h_type] at h_handle
  cases h_handle
  cases h_master : p.isSelfMaster c with
  | true =>
      have h_not : p.adoptsInSyncSlot msg = false := by
        unfold adoptsInSyncSlot
        rw [h_type]
        rfl
      refine RoleTurned.of_kept ?_ (h_self.trans h_master.symm)
      rw [turnsRole_hearInSyncSlot_of_master h_master, h_not, Bool.false_and]
  | false =>
      refine Or.inl ⟨?_, ?_, rfl⟩
      · rw [turnsRole_hearInSyncSlot_of_slave h_master]
        exact decide_eq_true h_type
      · rw [h_master]
        exact h_self

/-- A unit that joins a better clique is its slave. -/
theorem joined_role (h_le : p.masterID ≤ c.id) (h_type : msg.type ≠ .abandonMastership)
    (h_adopts : p.adoptsInSyncSlot msg = true) (h_master : p'.masterID = msg.masterID)
    (h_intra : p'.intraClique = p.intraClique) :
    RoleTurned c p p' (p.turnsRole c (.hearInSyncSlot msg)) := by
  obtain ⟨-, h_from⟩ := adoptsInSyncSlot_iff.1 h_adopts
  by_cases h_better : p.isOtherCliqueBetter msg.masterID = true
  · have h_other : p'.isSelfMaster c = false := by
      refine decide_eq_false ?_
      rw [h_master]
      exact not_self_of_better h_le h_better
    cases h_self : p.isSelfMaster c with
    | true =>
        refine Or.inl ⟨?_, ?_, h_intra⟩
        · rw [turnsRole_hearInSyncSlot_of_master h_self, h_adopts, h_better]
          rfl
        · rw [h_self, h_other]
          rfl
    | false =>
        refine RoleTurned.of_kept ?_ (h_other.trans h_self.symm)
        exact (turnsRole_hearInSyncSlot_of_slave h_self).trans (decide_eq_false h_type)
  · have h_mine : p.masterID = msg.masterID := of_decide_eq_true (h_from.resolve_right h_better)
    rw [turnsRole_hearInSyncSlot_eq_false h_type (by simp [h_better])]
    exact RoleTurned.of_masterID (h_master.trans h_mine.symm)

theorem hearInSyncSlot_role (h_le : p.masterID ≤ c.id)
    (h : stepProtocol c p e (.hearInSyncSlot msg) = .ok p') :
    RoleTurned c p p' (p.turnsRole c (.hearInSyncSlot msg)) := by
  by_cases h_abandon : msg.type = .abandonMastership
  · exact abandonMastership_role h_abandon h
  obtain ⟨⟨r, p₁⟩, h_handle, rfl⟩ := bind_return_eq_ok.1 h
  have h_kept : ∀ {q : Protocol}, q.masterID = p.masterID → p.adoptsInSyncSlot msg = false →
      RoleTurned c p q (p.turnsRole c (.hearInSyncSlot msg)) := by
    intro q h_same h_not
    rw [turnsRole_hearInSyncSlot_eq_false h_abandon (by rw [h_not, Bool.false_and])]
    exact RoleTurned.of_masterID h_same
  have h_not_sync : ∀ {t : MessageType}, msg.type = t → t ≠ .masterSync → t ≠ .workSync →
      p.adoptsInSyncSlot msg = false := by
    intro t h_t h_master h_work
    refine decide_eq_false fun h_adopts => ?_
    rw [h_t] at h_adopts
    exact h_adopts.1.elim h_master h_work
  cases SyncSlot.handle_heard h_handle with
  | joined h_adopts => exact joined_role h_le h_abandon h_adopts rfl rfl
  | scattered h_type h_mine h_slave =>
      have h_not : p.turnsRole c (.hearInSyncSlot msg) = false :=
        (turnsRole_hearInSyncSlot_of_slave h_slave).trans (decide_eq_false h_abandon)
      refine Or.inr ⟨h_not, Or.inr ?_⟩
      unfold SyncSlot.handle at h_handle
      rw [h_type] at h_handle
      obtain ⟨p₂, h_scatter, h_eq⟩ := bind_return_eq_ok.1 h_handle
      have h_off := scatter_inactive h_slave h_scatter h_mine
      rw [← (Prod.mk.inj h_eq).2] at h_off
      exact h_off
  | assumed h_type => exact absurd h_type h_abandon
  | enticed h_type =>
      refine h_kept rfl ?_
      rcases h_type with h_t | h_t | h_t <;>
        exact h_not_sync h_t MessageType.noConfusion MessageType.noConfusion
  | other h_not => exact h_kept rfl h_not

theorem hearInFishSlot_role (h_le : p.masterID ≤ c.id)
    (h : stepProtocol c p e (.hearInFishSlot msg) = .ok p') :
    RoleTurned c p p' (p.turnsRole c (.hearInFishSlot msg)) := by
  obtain ⟨⟨r, p₁⟩, h_handle, rfl⟩ := bind_return_eq_ok.1 h
  have h_joins : ∀ {q : Protocol}, p.adoptsInFishSlot msg = true → q.masterID = msg.masterID →
      q.intraClique = p.intraClique → RoleTurned c p q (p.turnsRole c (.hearInFishSlot msg)) := by
    intro q h_adopts h_q h_intra
    have h_other : q.isSelfMaster c = false := by
      unfold isSelfMaster
      rw [h_q]
      exact decide_eq_false (not_self_of_better h_le (adoptsInFishSlot_iff.1 h_adopts).2)
    unfold turnsRole
    dsimp only
    rw [h_adopts, Bool.and_true]
    cases h_master : p.isSelfMaster c with
    | true =>
        refine Or.inl ⟨rfl, ?_, h_intra⟩
        rw [h_other, h_master]
        rfl
    | false => exact RoleTurned.of_kept rfl (h_other.trans h_master.symm)
  have h_kept : ∀ {q : Protocol}, p.adoptsInFishSlot msg = false → q.masterID = p.masterID →
      RoleTurned c p q (p.turnsRole c (.hearInFishSlot msg)) := by
    intro q h_not h_q
    unfold turnsRole
    dsimp only
    rw [h_not, Bool.and_false]
    exact RoleTurned.of_masterID h_q
  cases FishSlot.handle_heard h_handle with
  | mergesMy _ _ h_adopts => exact h_joins h_adopts rfl rfl
  | mergesOther _ _ _ h_not =>
      refine h_kept ?_ rfl
      refine decide_eq_false fun h_adopts => ?_
      rw [h_not] at h_adopts
      exact Bool.false_ne_true h_adopts.2
  | caughtDeep _ h_adopts => exact h_joins h_adopts rfl rfl
  | kept h_not => exact h_kept h_not rfl

theorem endListen_role (h_sound : p.clique.Sound c) (h : stepProtocol c p e .endListen = .ok p') :
    RoleTurned c p p' (p.turnsRole c .endListen) := by
  have h_drops : p.isSelfMaster c = false →
      p.countSyncSlotsWithoutSyncMsg = Policy.maxMissingSyncsPerDropout →
      p'.masterID = c.id → p'.intraClique = p.intraClique →
      RoleTurned c p p' (p.turnsRole c .endListen) := by
    intro h_slave h_count h_own h_intra
    refine Or.inl ⟨?_, ?_, h_intra⟩
    · unfold turnsRole
      dsimp only
      rw [h_slave, h_count]
      rfl
    · rw [h_slave]
      exact decide_eq_true h_own
  cases endListen_ended h with
  | asMaster h_master =>
      unfold turnsRole
      dsimp only
      rw [h_master]
      exact RoleTurned.of_masterID rfl
  | missed h_slave h_count =>
      unfold turnsRole
      dsimp only
      rw [decide_eq_false (Nat.ne_of_lt h_count), Bool.and_false]
      exact RoleTurned.of_masterID rfl
  | grabbed h_slave h_count => exact h_drops h_slave h_count rfl rfl
  | reverted h_slave h_count h_pop =>
      -- record zero is the unit's own
      exact h_drops h_slave h_count ((CliqueHistory.pop_first h_pop).trans h_sound.firstRecord) rfl

theorem checkFishingDone_role (h : stepProtocol c p e .checkFishingDone = .ok p') :
    RoleTurned c p p' (p.turnsRole c .checkFishingDone) := by
  have h_intra : p'.intraClique = p.intraClique := checkFishingDone_intraClique h
  unfold turnsRole
  dsimp only
  cases h_master : p.isSelfMaster c with
  | true =>
      refine RoleTurned.of_kept rfl ?_
      cases checkFishingDone_checked h with
      | goesOn => rfl
      | @finished callback =>
          cases callback with
          | endWithNoAction => rfl
          | endWithRecoverMaster =>
              rw [h_master]
              exact decide_eq_true rfl
  | false =>
      have h_iff := checkFishingDone_isSelfMaster h_master h
      cases h_fails : p.failsToRecover with
      | true =>
          refine Or.inl ⟨rfl, ?_, h_intra⟩
          rw [h_master]
          exact h_iff.2 h_fails
      | false =>
          refine RoleTurned.of_kept rfl ?_
          rw [h_master]
          refine eq_false_of_ne_true fun h_self => ?_
          rw [h_iff.1 h_self] at h_fails
          cases h_fails

/-- What every completed event does to the role. -/
theorem stepProtocol_role (h_sound : p.clique.Sound c) (h : stepProtocol c p e ev = .ok p') :
    RoleTurned c p p' (p.turnsRole c ev) := by
  have h_le : p.masterID ≤ c.id := h_sound.masterID_le
  cases stepProtocol_done h with
  | heard => exact hearInSyncSlot_role h_le h
  | fished => exact hearInFishSlot_role h_le h
  | scattered h_master =>
      have h_own : p.masterID = c.id := of_decide_eq_true h_master
      exact RoleTurned.of_masterID h_own.symm
  | listened => exact endListen_role h_sound h
  | checked => exact checkFishingDone_role h
  | _ => exact RoleTurned.of_masterID rfl

end Roles

-- ============================================================================
-- The task machine
-- ============================================================================

namespace Agent

/-- The event of the task machine turns the role of the unit. -/
def turnsRole (c : Config) (a : Agent) : AgentEvent → Bool
  | .packet packet =>
      match a.radio, messageOf packet with
      | some handler, some msg => a.protocol.turnsRole c (hears handler msg)
      | _, _ => false
  | .timer .endSyncSlotListen _ => a.protocol.turnsRole c .endListen
  | .timer .fishSlotEnd _ => a.protocol.turnsRole c .checkFishingDone
  | _ => false

/-- The role is not turned while a message is repeated. -/
def KeepsEpisodeRole (c : Config) (a : Agent) (l : Env × AgentEvent) : Prop :=
  a.repeater.isActive = true → a.turnsRole c l.2 = false

instance (c : Config) (a : Agent) (l : Env × AgentEvent) : Decidable (a.KeepsEpisodeRole c l) :=
  inferInstanceAs (Decidable (_ → _))

section Steps

variable {c : Config} {e : Env} {a a' : Agent} {ev : AgentEvent} {t : Task} {x : Nat}

/-- A packet is one event of the protocol, or none. -/
theorem packet_protocol {handler : MessageHandler} {packet : Option RadioBuffer}
    (h_radio : a.radio = some handler) (h : stepAgent c a e (.packet packet) = .ok a') :
    (messageOf packet = none ∧ a'.protocol = a.protocol) ∨
      ∃ msg, messageOf packet = some msg ∧
        stepProtocol c a.protocol e (hears handler msg) = .ok a'.protocol := by
  unfold stepAgent at h
  dsimp only at h
  rw [h_radio] at h
  dsimp only at h
  cases packet with
  | none =>
      cases h
      exact Or.inl ⟨rfl, rfl⟩
  | some buffer =>
      unfold dispatch at h
      obtain ⟨m, h_read, h⟩ := bind_eq_ok.1 h
      have h_m := messageOf_some (ofProtocol_eq_ok.1 h_read)
      cases m with
      | none =>
          cases h
          exact Or.inl ⟨h_m, rfl⟩
      | some msg =>
          unfold handleValidMessageAndSetContinuation at h
          obtain ⟨⟨r, p⟩, h_handle, h⟩ := bind_eq_ok.1 h
          have h_step := handle_step (ofProtocol_eq_ok.1 h_handle)
          refine Or.inr ⟨msg, h_m, ?_⟩
          dsimp only at h
          split at h
          · cases h
            exact h_step
          · obtain ⟨-, h⟩ := require_bind_eq_ok.1 h
            cases h
            exact h_step

theorem NonSyncScheduled.masterID (h : NonSyncScheduled c e a a') :
    a'.protocol.masterID = a.protocol.masterID := by
  cases h with
  | merges => split <;> rfl
  | _ => rfl

theorem TaskRan.role (h : TaskRan c e a t a') (h_sound : a.protocol.clique.Sound c) :
    RoleTurned c a.protocol a'.protocol (a.turnsRole c (.timer t x)) := by
  have h_starts : startsSyncSlot t → a.turnsRole c (.timer t x) = false := by
    rintro (rfl | rfl) <;> rfl
  have h_dispatch : ∀ {p : Protocol}, startsSyncSlot t →
      stepProtocol c a.protocol.preludeToSyncPeriod e .dispatchSyncSlotKind = .ok p →
        RoleTurned c a.protocol p (a.turnsRole c (.timer t x)) := by
    intro p h_t h_step
    have h_rolled : a.protocol.preludeToSyncPeriod.clique.Sound c :=
      ⟨h_sound.masterID_le, h_sound.firstRecord, h_sound.pushed⟩
    rw [h_starts h_t]
    exact stepProtocol_role h_rolled h_step
  have h_same : ∀ {p : Protocol}, p.masterID = a.protocol.masterID →
      a.turnsRole c (.timer t x) = false →
        RoleTurned c a.protocol p (a.turnsRole c (.timer t x)) := by
    intro p h_master h_not
    rw [h_not]
    exact RoleTurned.of_masterID h_master
  have h_book : ∀ {p : Protocol}, a.protocol.bookkeepingAtPreludeToSyncSlot c e = .ok p →
      p.masterID = a.protocol.masterID := by
    intro p h_p
    obtain ⟨m, r, k, n, f, l, rfl⟩ := Protocol.bookkeeping_frame h_p
    rfl
  have h_fish : ∀ {p p' : Protocol}, p.preFishing = .ok p' → p'.masterID = p.masterID := by
    intro p p' h_p'
    obtain ⟨f, -, rfl⟩ := bind_return_eq_ok.1 h_p'
    rfl
  cases h with
  | maintained _ _ h_p =>
      have h_master := h_book h_p
      exact h_same h_master rfl
  | resumed _ _ h_p =>
      have h_master := h_book h_p
      exact h_same h_master rfl
  | preludesSync h_p =>
      have h_master := h_book h_p
      exact h_same h_master rfl
  | preludesFish => exact h_same rfl rfl
  | pauses h_t => exact h_same rfl (h_starts h_t)
  | sends h_t _ _ _ _ _ h_step => exact h_dispatch h_t h_step
  | listens h_t _ _ _ _ h_step => exact h_dispatch h_t h_step
  | sent => exact h_same rfl rfl
  | @listened p _ _ _ h_end h_p h_next =>
      have h_step : stepProtocol c a.protocol e .endListen = .ok p := h_end
      refine RoleTurned.andThen (stepProtocol_role h_sound h_step) ?_ ?_
      · rw [h_next.masterID]
        exact h_fish h_p
      · rw [h_next.intraClique]
        exact preFishing_intraClique h_p
  | sentOver _ h_p h_next =>
      refine h_same ?_ rfl
      rw [h_next.masterID]
      exact h_fish h_p
  | fishes => exact h_same rfl rfl
  | @fished p _ _ h_check h_next =>
      have h_step : stepProtocol c a.protocol e .checkFishingDone = .ok p := h_check
      have h_turned := stepProtocol_role h_sound h_step
      rw [h_next.protocol]
      exact h_turned
  | @merged msg p _ _ h_sent h_next =>
      refine h_same ?_ rfl
      rw [h_next.protocol]
      rcases (mergeSyncSent_eq_ok h_sent).2 with ⟨-, rfl⟩ | ⟨-, rfl⟩ <;> rfl
  | provisions => exact h_same rfl rfl
  | failsToProvision _ _ h_next =>
      refine h_same ?_ rfl
      rw [h_next.protocol]
  | provisioned h_next =>
      refine h_same ?_ rfl
      rw [h_next.protocol]

theorem AgentStep.role (h : AgentStep c e a ev a') (h_step : stepAgent c a e ev = .ok a')
    (h_sound : a.protocol.clique.Sound c) :
    RoleTurned c a.protocol a'.protocol (a.turnsRole c ev) := by
  cases h with
  | @ran t x _ _ _ _ _ h_ran =>
      have h_turned := h_ran.role (x := x) h_sound
      have h_same : (a.dequeued e t x).turnsRole c (.timer t x) = a.turnsRole c (.timer t x) := by
        cases t <;> rfl
      rw [h_same] at h_turned
      exact h_turned
  | @heard packet handler x _ h_radio =>
      unfold turnsRole
      dsimp only
      rw [h_radio]
      rcases packet_protocol h_radio h_step with ⟨h_none, h_same⟩ | ⟨msg, h_msg, h_heard⟩
      · rw [h_none, h_same]
        exact RoleTurned.of_masterID rfl
      · rw [h_msg]
        exact stepProtocol_role h_sound h_heard
  | succeeded _ _ h_p =>
      obtain ⟨i, l, rfl⟩ := provisionSucceed_eq_ok h_p
      exact RoleTurned.of_masterID rfl
  | failed => exact RoleTurned.of_masterID rfl

end Steps

end Agent

-- ============================================================================
-- The role in an episode
-- ============================================================================

/-- The role fits what is repeated, and a message for the own clique that waits to
    be sent is a master's. -/
structure Agent.EpisodeRoleKept (c : Config) (a : Agent) : Prop where
  fits : a.protocol.HasEpisodeRole c
  sends : a.SendsControl → a.repeater.onDoneCallback ≠ .onDoneRepeatingUpstream →
    a.protocol.isSelfMaster c = true

section Episodes

variable {c : Config} {e : Env} {p p' : Protocol} {a a' : Agent} {ev : AgentEvent}

theorem Protocol.HasEpisodeRole.of_idle (h : p.intraClique.isActive = false) :
    p.HasEpisodeRole c := by
  intro h_active
  rw [h] at h_active
  cases h_active

/-- As long as the control of the clique is left alone, the role fits until it is
    turned. -/
theorem Protocol.HasEpisodeRole.of_turned {turns : Bool} (h : p.HasEpisodeRole c)
    (h_turned : RoleTurned c p p' turns) (h_keeps : p.intraClique.isActive = true → turns = false)
    (h_intra : p'.intraClique = p.intraClique) : p'.HasEpisodeRole c := by
  intro h_active
  have h_before : p.intraClique.isActive = true := by
    rw [← h_intra]
    exact h_active
  rcases h_turned with ⟨h_turns, -⟩ | ⟨-, h_role | h_idle⟩
  · rw [h_keeps h_before] at h_turns
    cases h_turns
  · rw [h_intra, h_role]
    exact h h_before
  · rw [h_idle] at h_active
    cases h_active

/-- Where it is turned, it does not fit any more. -/
theorem Protocol.HasEpisodeRole.not_turned (h : p.HasEpisodeRole c)
    (h_active : p.intraClique.isActive = true) (h_turned : RoleTurned c p p' true) :
    ¬ p'.HasEpisodeRole c := by
  intro h_after
  rcases h_turned with ⟨-, h_role, h_intra⟩ | ⟨h_not, -⟩
  · have h_both := h_after (by rw [h_intra]; exact h_active)
    rw [h_intra, h h_active, h_role] at h_both
    cases h_master : p.isSelfMaster c <;> simp [h_master] at h_both
  · cases h_not

/-- A start fits the role it was made in. -/
theorem Protocol.HasEpisodeRole.of_start (h : p.HasEpisodeRole c) (k : ControlKind)
    (h_k : k.isDownstream = p.isSelfMaster c) (h_intra : p'.intraClique = k.start p.intraClique)
    (h_role : p'.isSelfMaster c = p.isSelfMaster c) : p'.HasEpisodeRole c := by
  intro h_active
  have h_started := k.start_repeater p.intraClique
  rw [← h_intra] at h_started
  rw [h_started, h_role]
  by_cases h_before : p.intraClique.isActive = true
  · rw [if_pos h_before]
    exact h h_before
  · rw [if_neg h_before, ← h_k]
    exact k.onDone_eq_upstream_iff

/-- The callbacks of a master's messages require a master, and leave one. -/
theorem onDone_isSelfMaster {callback : OnDoneCallback}
    (h_down : callback ≠ .onDoneRepeatingUpstream) (h : p.onDone c e callback = .ok p') :
    p'.isSelfMaster c = true := by
  unfold onDone at h
  split at h
  · obtain ⟨h_master, h⟩ := require_bind_eq_ok.1 h
    cases h
    obtain ⟨g, x, h_set⟩ := trySetGranularity_eq p p.intraClique.granularity
    rw [h_set]
    exact h_master
  · exact absurd rfl h_down
  · obtain ⟨-, h⟩ := require_bind_eq_ok.1 h
    obtain ⟨f, s, -, -, rfl⟩ := scatterSync_eq_ok.1 h
    exact decide_eq_true rfl

theorem Agent.AgentStep.episodeRoleKept (h : Agent.AgentStep c e a ev a')
    (h_step : stepAgent c a e ev = .ok a') (h_sound : a.protocol.clique.Sound c)
    (h_keeps : a.KeepsEpisodeRole c (e, ev)) (h_a : a.EpisodeRoleKept c) :
    a'.EpisodeRoleKept c := by
  have h_role := h.role h_step h_sound
  cases h.controls with
  | counts h_given _ _ h_protocol =>
      have h_active : a.protocol.intraClique.isActive = true := (of_decide_eq_true h_given).2.2.1
      have h_fits := h_a.fits h_active
      refine ⟨?_, fun _ h_down => ?_⟩
      · rw [h_protocol]
        exact h_a.fits
      · unfold Agent.repeater at h_down
        rw [h_protocol] at h_down ⊢
        refine eq_true_of_ne_false fun h_slave => ?_
        exact h_down (h_fits.2 h_slave)
  | finishes _ _ _ h_done =>
      have h_intra := onDone_intraClique h_done
      refine ⟨HasEpisodeRole.of_idle (by rw [h_intra]; rfl), fun _ h_down => ?_⟩
      unfold Agent.repeater at h_down
      rw [h_intra] at h_down
      exact onDone_isSelfMaster h_down h_done
  | sends _ _ h_protocol h_after =>
      refine ⟨?_, fun h_sends => absurd h_sends h_after⟩
      rw [h_protocol]
      exact h_a.fits
  | rests _ _ _ h_same h_after =>
      exact ⟨h_a.fits.of_turned h_role h_keeps h_same, fun h_sends => absurd h_sends h_after⟩
  | changes _ h_event _ h_change h_after =>
      refine ⟨?_, fun h_sends => absurd h_sends h_after⟩
      generalize h_i : a'.protocol.intraClique = i at h_change
      cases h_change with
      | kept => exact h_a.fits.of_turned h_role h_keeps h_i
      | requested k _ h_k =>
          rcases h_role with ⟨-, -, h_intra⟩ | ⟨-, h_same | h_idle⟩
          · exact h_a.fits.of_turned (h.role h_step h_sound) h_keeps h_intra
          · exact h_a.fits.of_start k h_k h_i h_same
          · exact HasEpisodeRole.of_idle h_idle
      | aborted => exact HasEpisodeRole.of_idle (by rw [h_i]; rfl)
      | counted => exact absurd rfl h_event
      | finished => exact absurd rfl h_event

end Episodes

-- ============================================================================
-- The assertions of the callbacks
-- ============================================================================

/-- The assertions of the on-done callbacks. -/
def callbackAssertions : List Fault := [.notSelfMaster, .notSelfSlave]

section Assertions

variable {c : Config} {e : Env} {p : Protocol} {a : Agent} {event : ProtocolEvent}
  {ev : AgentEvent} {flt : Fault}

/-- Only the decision for a sync slot calls a callback, and it stops only where the
    role does not fit. -/
theorem EventStops.callback (h : EventStops c e p event flt) (h_flt : flt ∈ callbackAssertions) :
    event = .dispatchSyncSlotKind ∧ ¬ p.HasEpisodeRole c := by
  cases h with
  | adjusts h_adjust =>
      have h_not : ∀ f ∈ callbackAssertions, f.isAdjust = false := by decide
      rw [h_not flt h_flt] at h_adjust
      cases h_adjust
  | notSelfMaster h_sends _ h_callback h_slave =>
      refine ⟨rfl, fun h_fits => h_callback ?_⟩
      exact (h_fits (decideKind_control h_sends).1).2 h_slave
  | notSelfSlave h_sends _ h_callback h_master =>
      refine ⟨rfl, fun h_fits => ?_⟩
      have h_slave := (h_fits (decideKind_control h_sends).1).1 h_callback
      rw [h_master] at h_slave
      cases h_slave
  | _ => exact absurd h_flt (by decide)

theorem Agent.TaskStops.callback {t : Task} (h : Agent.TaskStops c e a t (.protocol flt))
    (h_flt : flt ∈ callbackAssertions) : ¬ a.protocol.HasEpisodeRole c := by
  have h_event : ∀ {q : Protocol} {event : ProtocolEvent}, stepProtocol c q e event = .error flt →
      event ≠ .dispatchSyncSlotKind → ¬ a.protocol.HasEpisodeRole c := by
    intro q event h_step h_not
    exact absurd ((stepProtocol_stops h_step).callback h_flt).1 h_not
  cases h with
  | handOver h_not => cases h_not
  | bookkeeping h_step => exact h_event h_step ProtocolEvent.noConfusion
  | dispatch _ h_step => exact ((stepProtocol_stops h_step).callback h_flt).2
  | send h_msg =>
      rcases Agent.syncSlotMessage_stops h_msg with rfl | rfl <;> exact absurd h_flt (by decide)
  | endListen h_step => exact h_event h_step ProtocolEvent.noConfusion
  | preFishing _ h_step => exact h_event h_step ProtocolEvent.noConfusion
  | mergeStart => exact absurd h_flt (by decide)
  | checkFishingDone h_step => exact h_event h_step ProtocolEvent.noConfusion
  | makeMergeMsg h_msg =>
      rcases Protocol.makeMergeMsg_eq_error h_msg with ⟨rfl, -⟩ | ⟨rfl, -⟩ <;>
        exact absurd h_flt (by decide)
  | mergeSyncSent h_step => exact h_event h_step ProtocolEvent.noConfusion

/-- A step stops at an assertion of a callback only where the role does not fit. -/
theorem stepAgent_callback (h : stepAgent c a e ev = .error (.protocol flt))
    (h_flt : flt ∈ callbackAssertions) : ¬ a.protocol.HasEpisodeRole c := by
  have h_event : ∀ {event : ProtocolEvent}, stepProtocol c a.protocol e event = .error flt →
      event ≠ .dispatchSyncSlotKind → ¬ a.protocol.HasEpisodeRole c := by
    intro event h_step h_not
    exact absurd ((stepProtocol_stops h_step).callback h_flt).1 h_not
  cases Agent.stepAgent_stops h with
  | ran h_stops => exact h_stops.callback h_flt
  | garbled h_range =>
      rw [h_range] at h_flt
      exact absurd h_flt (by decide)
  | @heard packet handler msg _ _ _ h_step =>
      refine h_event h_step ?_
      cases handler <;> exact ProtocolEvent.noConfusion
  | provisioned h_step => exact h_event h_step ProtocolEvent.noConfusion

end Assertions

-- ============================================================================
-- Runs
-- ============================================================================

/-- The role is the one the callback asserts as long as a message is repeated, no
    callback stops at its assertion, and the message of a master, which only a
    master starts, is sent under no other ID than its own. -/
structure RoleStable (c : Config) (a : Agent) : Prop where
  hasRole : a.protocol.HasEpisodeRole c
  noAssertion : ∀ l flt, (agentSystem c).enabled a l → flt ∈ callbackAssertions →
    (agentSystem c).step a l ≠ .error (.protocol flt)
  ownClique : ∀ e x msg, (agentSystem c).enabled a (e, .timer .sendSync x) →
    a.kind = .sendControlSync → a.repeater.onDoneCallback ≠ .onDoneRepeatingUpstream →
      a.protocol.sendControlSync c e = .ok msg → msg.masterID = c.id

section Runs

variable {c : Config} {a : Agent}

theorem agentSystem_sound (h : (agentSystem c).Reachable a) : a.protocol.clique.Sound c := by
  refine agentSystem_protocol (P := fun p => p.clique.Sound c) h ?_ ?_
  · intro _ _
    exact ⟨Nat.le_refl _, rfl, fun h_slave => absurd rfl h_slave⟩
  · exact fun _ => protocolSystem_sound

theorem episodeRoleKept_boot (initTime loopTime : Nat) :
    (Agent.boot c initTime loopTime).EpisodeRoleKept c := by
  refine ⟨HasEpisodeRole.of_idle rfl, fun h_sends => absurd h_sends ?_⟩
  apply Agent.not_sendsControl_schedule
  · rfl
  · exact Task.noConfusion

theorem agentSystem_episodeRoleKept
    (h : ((agentSystem c).guarded (Agent.KeepsEpisodeRole c)).Reachable a) :
    a.EpisodeRoleKept c := by
  refine h.invariant_of_reachable (Agent.EpisodeRoleKept c) ?_ ?_
  · rintro a ⟨initTime, loopTime, -, rfl⟩
    exact episodeRoleKept_boot initTime loopTime
  · rintro a ⟨e, ev⟩ a' h_reach h_a ⟨⟨-, h_possible⟩, h_keeps⟩ h_step
    have h_one := agentSystem_oneTask h_reach
    exact (Agent.stepAgent_step h_one h_possible h_step).episodeRoleKept h_step
      (agentSystem_sound h_reach.of_guarded) h_keeps h_a

theorem Agent.EpisodeRoleKept.stable (h : (agentSystem c).Reachable a)
    (h_a : a.EpisodeRoleKept c) : RoleStable c a where
  hasRole := h_a.fits
  noAssertion l flt _ h_flt h_step := stepAgent_callback h_step h_flt h_a.fits
  ownClique e x msg h_enabled h_kind h_down h_msg := by
    obtain ⟨-, h_mem, -⟩ := h_enabled
    have h_sends : a.SendsControl :=
      ⟨h_kind, x, (agentSystem_oneTask h.guarded_true).pending_eq h_mem⟩
    have h_own : a.protocol.masterID = c.id := of_decide_eq_true (h_a.sends h_sends h_down)
    rw [← h_own]
    exact (initSyncMessage_eq_ok h_msg).2.2.1

end Runs

/-- In every run: the role is stable in the control episodes, in every state of the
    run, exactly if no step turns the role while a message is repeated. -/
theorem control_roles_stable_iff {c : Config}
    {w : Agent × List (Move Agent (Env × AgentEvent))}
    (h : (agentSystem c).recorded.Reachable w) :
    (∀ t ∈ w.2, RoleStable c t.after) ↔ ∀ t ∈ w.2, t.before.KeepsEpisodeRole c t.label := by
  refine ⟨fun h_stable t h_t h_active => ?_, fun h_keeps t h_t => ?_⟩
  · obtain ⟨h_reach, ⟨-, h_possible⟩, h_step⟩ := h.recorded_moves t h_t
    have h_fits : t.before.protocol.HasEpisodeRole c := by
      rcases h.recorded_before t h_t with ⟨initTime, loopTime, -, h_boot⟩ | ⟨t', h_t', h_after⟩
      · rw [h_boot]
        exact (episodeRoleKept_boot initTime loopTime).fits
      · rw [← h_after]
        exact (h_stable t' h_t').hasRole
    have h_one := agentSystem_oneTask h_reach.guarded_true
    have h_turned := (Agent.stepAgent_step h_one h_possible h_step).role h_step
      (agentSystem_sound h_reach)
    refine eq_false_of_ne_true fun h_turns => ?_
    rw [h_turns] at h_turned
    exact h_fits.not_turned h_active h_turned (h_stable t h_t).hasRole
  · have h_guarded := (h.recorded_guarded (Agent.KeepsEpisodeRole c) h_keeps).2 t h_t
    exact (agentSystem_episodeRoleKept h_guarded).stable h_guarded.of_guarded

-- ============================================================================
-- A master that joins a better clique
-- ============================================================================

/-- Unit five, asked for a granularity, joins clique three in the next sync slot. -/
def joinsWhenAsked : List (Env × AgentEvent) :=
  isAsked ++
    [weakly .theRadioPreludeTaskWSync 159950,
      weakly .startSyncSlotAfterPrelude 160000,
      arrives 160020 (masterSyncFrom 3 (.ofTicks 79980)),
      weakly .endSyncSlotListen 160050]

/-- In clique three it goes on with what it was asked for, four times, up to the
    prelude of the fifth sync slot. -/
def repeatsInThree : List (Env × AgentEvent) :=
  (joinsWhenAsked ++ (List.range 4).flatMap fun i =>
    slotForControl (80000 * (i + 3)) ++ sendsInSlot (80000 * (i + 3))) ++
  [weakly .theRadioPreludeTaskWSync 559950]

def unitFiveAlone : Agent × List (Move Agent (Env × AgentEvent)) :=
  (Agent.boot unitFive 0 0, [])

theorem unitFiveAlone_init : (agentSystem unitFive).recorded.init unitFiveAlone :=
  ⟨⟨0, 0, Nat.le_refl 0, rfl⟩, rfl⟩

/-- A master that stays one tells its clique and changes its own granularity. -/
theorem control_roles_stable_iff_repeatsFour :
    ∃ w, (agentSystem unitFive).recorded.Reachable w ∧ w.1.protocol.granularity = .medium ∧
      ∀ t ∈ w.2, RoleStable unitFive t.after := by
  obtain ⟨w, h, h_medium, h_keeps⟩ :=
    System.Reachable.exists_of_play
      (P := fun w => w.1.protocol.granularity = .medium ∧
        ∀ t ∈ w.2, t.before.KeepsEpisodeRole unitFive t.label)
      (repeatsFor 4 ++ slotForControl 480000) unitFiveAlone_init (by decide +kernel)
  exact ⟨w, h, h_medium, (control_roles_stable_iff h).2 h_keeps⟩

/-- The message for its own clique goes to clique three, and the callback stops at
    its assertion. -/
theorem control_role_lost :
    (∃ a e x msg, (agentSystem unitFive).Reachable a ∧
      (agentSystem unitFive).enabled a (e, .timer .sendSync x) ∧ a.kind = .sendControlSync ∧
      a.repeater.onDoneCallback = .onDoneGranularityWithAction ∧
      a.protocol.sendControlSync unitFive e = .ok msg ∧ msg.masterID = 3) ∧
    ∃ a l, (agentSystem unitFive).Reachable a ∧ (agentSystem unitFive).enabled a l ∧
      (agentSystem unitFive).step a l = .error (.protocol .notSelfMaster) := by
  have h_init : (agentSystem unitFive).init (Agent.boot unitFive 0 0) := ⟨0, 0, Nat.le_refl 0, rfl⟩
  refine ⟨?_, ?_⟩
  · obtain ⟨a, h, h_enabled, h_kind, h_callback, msg, h_msg, h_master⟩ :=
      System.Reachable.exists_of_play (M := agentSystem unitFive)
        (P := fun a => (agentSystem unitFive).enabled a (weakly .sendSync 240015) ∧
          a.kind = .sendControlSync ∧
          a.repeater.onDoneCallback = .onDoneGranularityWithAction ∧
          ∃ msg ∈ a.controlMessage unitFive (Env.weak 240015), msg.masterID = 3)
        (joinsWhenAsked ++ slotForControl 240000) h_init (by decide +kernel)
    refine ⟨a, _, _, msg, h, h_enabled, h_kind, h_callback, ?_, h_master⟩
    unfold Agent.controlMessage at h_msg
    split at h_msg
    · rename_i m h_ok
      rw [List.mem_singleton] at h_msg
      rw [h_msg]
      exact h_ok
    · cases h_msg
  · obtain ⟨a, h, h_enabled, h_stops⟩ :=
      System.Reachable.exists_of_play (M := agentSystem unitFive)
        (P := fun a => (agentSystem unitFive).enabled a
            ({ Env.weak 560000 with repeaterCoinToss := true },
              .timer .startSyncSlotAfterPrelude 560000) ∧
          stepAgent unitFive a { Env.weak 560000 with repeaterCoinToss := true }
            (.timer .startSyncSlotAfterPrelude 560000) = .error (.protocol .notSelfMaster))
        repeatsInThree h_init (by decide +kernel)
    exact ⟨a, _, h, h_enabled, h_stops⟩

end SleepSync
