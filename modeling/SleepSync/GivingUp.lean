/-
  SleepSync.GivingUp

  Why a slave gives up its master for its own mastership.

  There are four causes: the abandonment of its clique, a scatter of its clique,
  the dropout of its master, and a deep fishing that was begun when the master
  departed and has failed.  The handler of an abandonment does not look whose
  mastership is abandoned, and the callback of deep fishing is the one it was
  begun with, whatever clique the unit has joined in the meantime.  So a slave
  gives up its master for one of the causes exactly if it hears no abandonment of
  another clique and finishes no such fishing that the departure of its present
  master did not begin.

  Whose departure was heard is beside each event: the message names the departing
  master by one byte, the lowest of its ID, and that of another clique can be the
  same.
-/

import SleepSync.Dropout

namespace SleepSync

open Lib Protocol

-- ============================================================================
-- What is remembered of departures
-- ============================================================================

namespace Protocol

variable (c : Config) (p : Protocol)

/-- The master of the unit departs: a unit of its clique says so. -/
def hearsMasterDepart (senderMasterID : Nat) : ProtocolEvent → Bool
  | .hearInSyncSlot msg => msg.type = .mergeMyMasterDepart ∧ senderMasterID = p.masterID
  | _ => false

/-- Deep fishing is over, and will have the unit take over mastership. -/
def failsToRecover : Bool :=
  p.fishing.mode = .deepFishing ∧
    FishingParameters.countFishingsPerDeepFishing < p.fishing.deep.countFishings ∧
    p.fishing.deep.fishPolicyDoneCallback = some .endWithRecoverMaster

end Protocol

/-- An event, with the master of the clique whose unit sent what is heard in it: of a
    departure, the clique that is left. -/
abbrev SentEvent := Nat × (Env × ProtocolEvent)

/-- Whether the deep fishing that runs was begun by the departure of the present
    master, since that was adopted. -/
def noteDeparture (p : Protocol) (l : SentEvent) (p' : Protocol) (departed : Bool) : Bool :=
  if p'.masterID ≠ p.masterID then false
  else if p.fishing.mode = .trolling ∧ p'.fishing.mode = .deepFishing then
    p.hearsMasterDepart l.1 l.2.2
  else departed

/-- A unit with what it has heard of the departure of its master. -/
def departureSystem (c : Config) : System (Protocol × Bool) SentEvent Fault :=
  ((protocolSystem c).tagged Nat).watched false noteDeparture

namespace Protocol

variable (p : Protocol) (departed : Bool)

/-- The causes for which a slave may give up its master. -/
def isCause : ProtocolEvent → Bool
  | .hearInSyncSlot msg =>
      (msg.type = .abandonMastership ∨ msg.type = .controlScatterClique) ∧
        p.isMsgFromMyClique msg.masterID
  | .endListen => p.countSyncSlotsWithoutSyncMsg = Policy.maxMissingSyncsPerDropout
  | .checkFishingDone => p.failsToRecover ∧ departed
  | _ => false

/-- An abandonment is of the unit's clique, and a fishing that fails to recover a
    master was begun for the present one. -/
def concernsMaster : ProtocolEvent → Bool
  | .hearInSyncSlot msg => msg.type ≠ .abandonMastership ∨ p.isMsgFromMyClique msg.masterID
  | .checkFishingDone => !p.failsToRecover ∨ departed
  | _ => true

end Protocol

abbrev DepartureMove := Move (Protocol × Bool) SentEvent

/-- A slave that is its own master after the step has one of the causes. -/
def GivesUpForCause (c : Config) (t : DepartureMove) : Prop :=
  t.before.1.isSelfMaster c = false → t.after.1.isSelfMaster c = true →
    t.before.1.isCause t.before.2 t.label.2.2 = true

/-- What a slave handles in the step concerns its master. -/
def ConcernsMaster (c : Config) (t : DepartureMove) : Prop :=
  t.before.1.isSelfMaster c = false → t.before.1.concernsMaster t.before.2 t.label.2.2 = true

instance (c : Config) (t : DepartureMove) : Decidable (GivesUpForCause c t) :=
  inferInstanceAs (Decidable (_ → _ → _))

instance (c : Config) (t : DepartureMove) : Decidable (ConcernsMaster c t) :=
  inferInstanceAs (Decidable (_ → _))

-- ============================================================================
-- One step
-- ============================================================================

section OneStep

variable {c : Config} {e : Env} {p p' : Protocol} {departed : Bool} {ev : ProtocolEvent}
  {msg : SyncMessage}

theorem masterID_ne_of_slave (h : p.isSelfMaster c = false) : p.masterID ≠ c.id :=
  of_decide_eq_false h

/-- No message makes a slave its own master by its ID: the ID would be worse. -/
theorem not_joins_self (h_sound : p.clique.Sound c) (h_slave : p.isSelfMaster c = false)
    (h_le : msg.masterID ≤ p.masterID) : msg.masterID ≠ c.id := by
  have h_ne := masterID_ne_of_slave h_slave
  have h_master : p.masterID ≤ c.id := h_sound.masterID_le
  omega

/-- What a slave does in the sync slot, but for an abandonment. -/
theorem hearInSyncSlot_gives_up (h_sound : p.clique.Sound c) (h_slave : p.isSelfMaster c = false)
    (h_step : stepProtocol c p e (.hearInSyncSlot msg) = .ok p')
    (h_type : msg.type ≠ .abandonMastership) (h_self : p'.isSelfMaster c = true) :
    msg.type = .controlScatterClique ∧ p.isMsgFromMyClique msg.masterID = true := by
  have h_ne := masterID_ne_of_slave h_slave
  have h_own : p'.masterID = c.id := of_decide_eq_true h_self
  obtain ⟨⟨r, p₁⟩, h_handle, rfl⟩ := bind_return_eq_ok.1 h_step
  cases SyncSlot.handle_heard h_handle with
  | joined h_adopts =>
      obtain ⟨-, h_keeps⟩ := adoptsInSyncSlot_iff.1 h_adopts
      exact absurd h_own (not_joins_self h_sound h_slave (masterID_le_of_keeps h_keeps))
  | scattered h_scatter h_mine => exact ⟨h_scatter, h_mine⟩
  | assumed h_abandon => exact absurd h_abandon h_type
  | enticed => exact absurd h_own h_ne
  | other => exact absurd h_own h_ne

theorem hearInFishSlot_not_self (h_sound : p.clique.Sound c) (h_slave : p.isSelfMaster c = false)
    (h_step : stepProtocol c p e (.hearInFishSlot msg) = .ok p') :
    p'.isSelfMaster c = false := by
  have h_ne := masterID_ne_of_slave h_slave
  have h_joins : p.adoptsInFishSlot msg = true → msg.masterID ≠ c.id := by
    intro h_adopts
    obtain ⟨-, h_better⟩ := adoptsInFishSlot_iff.1 h_adopts
    exact not_joins_self h_sound h_slave (masterID_le_of_keeps (Or.inr h_better))
  obtain ⟨⟨r, p₁⟩, h_handle, rfl⟩ := bind_return_eq_ok.1 h_step
  cases FishSlot.handle_heard h_handle with
  | mergesMy _ _ h_adopts => exact decide_eq_false (h_joins h_adopts)
  | mergesOther => exact decide_eq_false h_ne
  | caughtDeep _ h_adopts => exact decide_eq_false (h_joins h_adopts)
  | kept => exact decide_eq_false h_ne

/-- The end of a fish slot makes a slave its own master only where it fails to
    recover a master. -/
theorem checkFishingDone_isSelfMaster (h_slave : p.isSelfMaster c = false)
    (h_step : stepProtocol c p e .checkFishingDone = .ok p') :
    p'.isSelfMaster c = true ↔ p.failsToRecover = true := by
  have h_ne := masterID_ne_of_slave h_slave
  cases checkFishingDone_checked h_step with
  | goesOn h_on =>
      refine iff_of_false (fun h_self => h_ne (of_decide_eq_true h_self)) (fun h_fails => ?_)
      obtain ⟨h_mode, h_count, -⟩ := of_decide_eq_true h_fails
      rcases h_on with h_trolls | h_le
      · rw [h_trolls] at h_mode
        cases h_mode
      · exact absurd h_le (Nat.not_le_of_lt h_count)
  | @finished callback h_mode h_count h_callback =>
      cases callback with
      | endWithNoAction =>
          refine iff_of_false (fun h_self => h_ne (of_decide_eq_true h_self)) (fun h_fails => ?_)
          obtain ⟨-, -, h_recover⟩ := of_decide_eq_true h_fails
          rw [h_callback] at h_recover
          cases h_recover
      | endWithRecoverMaster =>
          exact iff_of_true (decide_eq_true rfl) (decide_eq_true ⟨h_mode, h_count, h_callback⟩)

/-- Of the other events only a dropout makes a slave its own master. -/
theorem other_gives_up (h_slave : p.isSelfMaster c = false)
    (h_step : stepProtocol c p e ev = .ok p') (h_self : p'.isSelfMaster c = true)
    (h_sync : ∀ msg, ev ≠ .hearInSyncSlot msg) (h_fish : ∀ msg, ev ≠ .hearInFishSlot msg)
    (h_check : ev ≠ .checkFishingDone) :
    ev = .endListen ∧ p.countSyncSlotsWithoutSyncMsg = Policy.maxMissingSyncsPerDropout := by
  have h_ne := masterID_ne_of_slave h_slave
  have h_kept : p'.masterID = p.masterID → False :=
    fun h_same => h_ne (h_same.symm.trans (of_decide_eq_true h_self))
  cases stepProtocol_done h_step with
  | @heard msg => exact absurd rfl (h_sync msg)
  | @fished msg => exact absurd rfl (h_fish msg)
  | scattered h_master => exact absurd (of_decide_eq_true h_master) h_ne
  | listened h_ended =>
      refine ⟨rfl, ?_⟩
      cases h_ended with
      | asMaster h_master => exact absurd (of_decide_eq_true h_master) h_ne
      | missed => exact (h_kept rfl).elim
      | grabbed _ h_count => exact h_count
      | reverted _ h_count => exact h_count
  | checked => exact absurd rfl h_check
  | _ => exact (h_kept rfl).elim

/-- The handler of an abandonment assumes mastership, whoever sent it. -/
theorem hears_abandonMastership (h_type : msg.type = .abandonMastership)
    (h_step : stepProtocol c p e (.hearInSyncSlot msg) = .ok p') : p'.isSelfMaster c = true := by
  obtain ⟨⟨r, p₁⟩, h_handle, rfl⟩ := bind_return_eq_ok.1 h_step
  unfold SyncSlot.handle at h_handle
  rw [h_type] at h_handle
  cases h_handle
  exact decide_eq_true rfl

/-- A step gives up a master for a cause exactly if what it handles concerns the
    master. -/
theorem gives_up_step_iff {departed' : Bool} {senderMasterID : Nat} (h_sound : p.clique.Sound c)
    (h_step : stepProtocol c p e ev = .ok p') :
    GivesUpForCause c ⟨(p, departed), (senderMasterID, e, ev), (p', departed')⟩ ↔
      ConcernsMaster c ⟨(p, departed), (senderMasterID, e, ev), (p', departed')⟩ := by
  refine forall_congr' fun h_slave => ?_
  dsimp only at h_slave ⊢
  by_cases h_sync : ∃ msg, ev = .hearInSyncSlot msg
  · obtain ⟨msg, rfl⟩ := h_sync
    by_cases h_type : msg.type = .abandonMastership
    · have h_self := hears_abandonMastership h_type h_step
      refine ⟨fun h_cause => ?_, fun h_concerns _ => ?_⟩
      · exact decide_eq_true (Or.inr (of_decide_eq_true (h_cause h_self)).2)
      · have h_mine := (of_decide_eq_true h_concerns).resolve_left (fun h_ne => h_ne h_type)
        exact decide_eq_true ⟨Or.inl h_type, h_mine⟩
    · refine iff_of_true (fun h_self => ?_) (decide_eq_true (Or.inl h_type))
      obtain ⟨h_scatter, h_mine⟩ :=
        hearInSyncSlot_gives_up h_sound h_slave h_step h_type h_self
      exact decide_eq_true ⟨Or.inr h_scatter, h_mine⟩
  have h_not_sync : ∀ msg, ev ≠ .hearInSyncSlot msg := fun msg h_ev => h_sync ⟨msg, h_ev⟩
  by_cases h_check : ev = .checkFishingDone
  · subst h_check
    rw [checkFishingDone_isSelfMaster h_slave h_step]
    unfold isCause concernsMaster
    cases p.failsToRecover <;> simp
  have h_concerns : p.concernsMaster departed ev = true := by
    cases ev with
    | hearInSyncSlot msg => exact absurd rfl (h_not_sync msg)
    | checkFishingDone => exact absurd rfl h_check
    | _ => rfl
  refine iff_of_true (fun h_self => ?_) h_concerns
  by_cases h_fish : ∃ msg, ev = .hearInFishSlot msg
  · obtain ⟨msg, rfl⟩ := h_fish
    rw [hearInFishSlot_not_self h_sound h_slave h_step] at h_self
    cases h_self
  · obtain ⟨rfl, h_count⟩ := other_gives_up h_slave h_step h_self h_not_sync
      (fun msg h_ev => h_fish ⟨msg, h_ev⟩) h_check
    exact decide_eq_true h_count

end OneStep

-- ============================================================================
-- Runs
-- ============================================================================

/-- A run gives up masters only for cause exactly if everything that its slave
    handles in it concerns the master. -/
theorem gives_up_for_cause_iff {c : Config}
    {w : (Protocol × Bool) × List DepartureMove}
    (h : (departureSystem c).recorded.Reachable w) :
    (∀ t ∈ w.2, GivesUpForCause c t) ↔ ∀ t ∈ w.2, ConcernsMaster c t := by
  refine h.recorded_congr ?_
  rintro ⟨⟨p, departed⟩, ⟨senderMasterID, e, ev⟩, ⟨p', departed'⟩⟩ h_reach - h_step
  have h_unwatched : (protocolSystem c).Reachable p := h_reach.unwatched.untagged
  have h_next : stepProtocol c p e ev = .ok p' := (System.watched_step_eq_ok.1 h_step).1
  exact gives_up_step_iff (protocolSystem_sound h_unwatched) h_next

-- ============================================================================
-- Messages of other cliques
-- ============================================================================

/-- A message of a kind that is not about a sync point. -/
def messageFrom (masterID : Nat) (type : MessageType) (work : Payload) : SyncMessage :=
  { masterSyncFrom masterID (.ofTicks 0) with type := type, work := work }

/-- The fish slot of the period that starts at `start`, in which nothing is caught. -/
def fishesInVain (start : Nat) : List (Env × ProtocolEvent) :=
  [(Env.quiet (start + 100), .setStartAndEndTimes),
    (Env.quiet (start + 150), .checkFishingDone)]

/-- All of them sent in the clique of three. -/
def fromThree (events : List (Env × ProtocolEvent)) : List SentEvent := events.map (Prod.mk 3)

/-- Unit five joins three and in the next sync slot hears `heard`, before it fishes
    in vain in seven periods. -/
def losesThree (heard : List SentEvent) : List SentEvent :=
  fromThree (joins 0 3 ++ [(Env.quiet 80000, .rollPeriodForward)]) ++ heard ++
    fromThree ((Env.quiet 80050, .endListen) :: fishesInVain 80000 ++
      (List.range 6).flatMap fun i =>
        (Env.quiet (80000 * (i + 2)), .rollPeriodForward) ::
          (Env.quiet (80000 * (i + 2) + 50), .endListen) ::
            fishesInVain (80000 * (i + 2)))

/-- A unit of the clique of `senderMasterID`, of which three is the lowest byte, says
    that its master departs to two. -/
def departs (senderMasterID : Nat) : SentEvent :=
  (senderMasterID, arriving 80020, .hearInSyncSlot (messageFrom 2 .mergeMyMasterDepart 3))

/-- Unit five joins two in the same sync slot. -/
def joinsTwo : SentEvent :=
  (2, arriving 80030, .hearInSyncSlot (masterSyncFrom 2 (.ofTicks 79970)))

def fiveAlone : (Protocol × Bool) × List DepartureMove :=
  (((Protocol.boot unitFive 0 0).preludeToSyncPeriod, false), [])

theorem fiveAlone_init : (departureSystem unitFive).recorded.init fiveAlone :=
  ⟨⟨⟨0, 0, rfl⟩, rfl⟩, rfl⟩

instance (c : Config) (w : (Protocol × Bool) × List DepartureMove) (l : SentEvent) :
    Decidable ((departureSystem c).recorded.enabled w l) :=
  inferInstanceAs (Decidable (l.2.2.Timely w.1.1 l.2.1))

/-- A fishing that the departure of three began, and that fails, is a cause. -/
theorem gives_up_for_cause_iff_losesThree :
    ∃ w, (departureSystem unitFive).recorded.Reachable w ∧ w.1.1.masterID = 5 ∧
      w.2.length = 31 ∧ ∀ t ∈ w.2, GivesUpForCause unitFive t := by
  obtain ⟨w, h, h_master, h_length, h_concerns⟩ :=
    System.Reachable.exists_of_play
      (P := fun w => w.1.1.masterID = 5 ∧ w.2.length = 31 ∧
        ∀ t ∈ w.2, ConcernsMaster unitFive t)
      (losesThree [departs 3]) fiveAlone_init (by decide +kernel)
  exact ⟨w, h, h_master, h_length, (gives_up_for_cause_iff h).2 h_concerns⟩

/-- A slave of three gives it up over the departure of 259, a unit in clique two gives
    that up over the departure of three, and a slave of three gives it up over the
    abandonment of nine. -/
theorem gives_up_without_cause :
    (∃ w, (departureSystem unitFive).recorded.Reachable w ∧
      ∃ t ∈ w.2, t.before.1.masterID = 3 ∧ t.after.1.masterID = 5 ∧
        t.label.2.2 = .checkFishingDone ∧ ¬ GivesUpForCause unitFive t) ∧
    (∃ w, (departureSystem unitFive).recorded.Reachable w ∧
      ∃ t ∈ w.2, t.before.1.masterID = 2 ∧ t.after.1.masterID = 5 ∧
        t.label.2.2 = .checkFishingDone ∧ ¬ GivesUpForCause unitFive t) ∧
    ∃ p p', (protocolSystem unitFive).Reachable p ∧ p.masterID = 3 ∧
      stepProtocol unitFive p (arriving 80020)
        (.hearInSyncSlot (messageFrom 9 .abandonMastership 0)) = .ok p' ∧ p'.masterID = 5 := by
  refine ⟨?_, ?_, ?_⟩
  · exact System.Reachable.exists_of_play (losesThree [departs 259]) fiveAlone_init
      (by decide +kernel)
  · exact System.Reachable.exists_of_play (losesThree [departs 3, joinsTwo]) fiveAlone_init
      (by decide +kernel)
  · obtain ⟨p, p', h, -, h_step, h_master, h_own⟩ :=
      System.Reachable.exists_step_of_play (M := protocolSystem unitFive)
        (P := fun p p' => p.masterID = 3 ∧ p'.masterID = 5)
        (joins 0 3 ++ [(Env.quiet 80000, .rollPeriodForward)])
        (arriving 80020, .hearInSyncSlot (messageFrom 9 .abandonMastership 0)) ⟨0, 0, rfl⟩
        (by decide +kernel)
    exact ⟨p, p', h, h_master, h_step, h_own⟩

end SleepSync
