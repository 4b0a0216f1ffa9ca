/-
  SleepSync.Announcement

  Which clique a merger announces.  The superior clique is recorded once, at the
  catch, and goes into every merge message; it is meant to be the clique of the
  sender, whose sync point the message gives.

  A unit can leave its clique while it merges: by a sync message of a strictly
  better clique in the sync slot, by a scatter or an abandonment as a slave, and
  by a dropout.  The code that should stop the merger then asks whether the
  message is from its own clique after it has joined that clique, so that it
  never does (`handleSuperiorOrSameSyncMsg_eq`).  In runs without these events
  a merger announces its own clique.
-/

import SleepSync.MergerRole
import SleepSync.TaskRuns

namespace SleepSync

open Lib

namespace Protocol

variable (c : Config) (p : Protocol)

/-- As a merger, the unit announces the clique it is in. -/
def AnnouncesOwn : Prop :=
  p.role = .merger → p.cliqueMerger.superiorMasterID = p.masterID

/-- The event takes the unit out of its clique. -/
def LeavesClique : ProtocolEvent → Prop
  | .hearInSyncSlot msg =>
      (p.adoptsInSyncSlot msg = true ∧ p.isOtherCliqueBetter msg.masterID = true) ∨
        (msg.type = .controlScatterClique ∧ p.isMsgFromMyClique msg.masterID = true ∧
          p.isSelfMaster c = false) ∨
        (msg.type = .abandonMastership ∧ p.isSelfMaster c = false)
  | .endListen =>
      p.isSelfMaster c = false ∧
        Policy.maxMissingSyncsPerDropout ≤ p.countSyncSlotsWithoutSyncMsg
  | .hearInFishSlot _ | .checkFishingDone => p.fishing.mode = .deepFishing
  | _ => False

end Protocol

/-- A merger does not leave its clique by what it hears in the sync slot or by
    the dropout of its master at the end of it. -/
def Agent.StaysInClique (c : Config) (a : Agent) (l : Env × AgentEvent) : Prop :=
  a.protocol.role = .merger →
    match l.2 with
    | .packet packet =>
        a.radio = some .syncSlot → ∀ msg ∈ Agent.messageOf packet,
          ¬ a.protocol.LeavesClique c (.hearInSyncSlot msg)
    | .timer .endSyncSlotListen _ => ¬ a.protocol.LeavesClique c .endListen
    | _ => True

/-- A message is from the clique its sender is in. -/
def Occurrence.AnnouncesOwn (o : Occurrence) : Prop :=
  match o.what with
  | .transmit msg => msg.masterID = o.protocol.masterID
  | _ => True

instance (c : Config) (p : Protocol) (ev : ProtocolEvent) : Decidable (p.LeavesClique c ev) := by
  unfold Protocol.LeavesClique
  split <;> infer_instance

instance (c : Config) (a : Agent) : (l : Env × AgentEvent) → Decidable (a.StaysInClique c l)
  | (_, ev) => by
      dsimp only [Agent.StaysInClique]
      split <;> infer_instance

instance (c : Config) (a : Agent) (l : Env × AgentEvent) :
    Decidable (((agentSystem c).guarded (Agent.StaysInClique c)).enabled a l) :=
  inferInstanceAs (Decidable (_ ∧ _))

instance : (o : Occurrence) → Decidable o.AnnouncesOwn
  | ⟨.transmit msg, _, _, p⟩ => inferInstanceAs (Decidable (msg.masterID = p.masterID))
  | ⟨.run _, _, _, _⟩ | ⟨.schedule _, _, _, _⟩ | ⟨.rollPeriodForward _, _, _, _⟩
  | ⟨.bookkeepingAtPreludeToSyncSlot, _, _, _⟩ | ⟨.startReceiving _, _, _, _⟩
  | ⟨.handle _ _, _, _, _⟩ => isTrue trivial

-- ============================================================================
-- One event of the protocol
-- ============================================================================

section Protocol

open Protocol

variable {c : Config} {e : Env} {p p' : Protocol} {ev : ProtocolEvent} {msg : SyncMessage}

theorem eq_id_of_isSelfMaster (h : p.isSelfMaster c = true) : c.id = p.masterID :=
  (of_decide_eq_true h).symm

/-- A merger keeps its master except by an event that takes it out of its
    clique. -/
theorem stepProtocol_keeps_master (h_role : p.role = .merger) (h_stays : ¬ p.LeavesClique c ev)
    (h : stepProtocol c p e ev = .ok p') : p'.masterID = p.masterID := by
  cases stepProtocol_done h with
  | @heard msg _ h_heard =>
      cases h_heard with
      | joined h_adopts =>
          have h_not : ¬ p.isOtherCliqueBetter msg.masterID = true :=
            fun h_better => h_stays (Or.inl ⟨h_adopts, h_better⟩)
          have h_mine := (adoptsInSyncSlot_iff.1 h_adopts).2.resolve_right h_not
          exact (of_decide_eq_true h_mine).symm
      | scattered h_type h_mine h_slave =>
          exact absurd (Or.inr (Or.inl ⟨h_type, h_mine, h_slave⟩)) h_stays
      | assumed h_type =>
          have h_self : p.isSelfMaster c = true :=
            eq_true_of_ne_false fun h_slave => h_stays (Or.inr (Or.inr ⟨h_type, h_slave⟩))
          exact eq_id_of_isSelfMaster h_self
      | enticed => rfl
      | other => rfl
  | fished h_fished =>
      have h_not_fisher : p.role ≠ .fisher := by
        rw [h_role]
        exact Role.noConfusion
      cases h_fished with
      | mergesMy h_fisher => exact absurd h_fisher h_not_fisher
      | mergesOther h_fisher => exact absurd h_fisher h_not_fisher
      | caughtDeep h_mode => exact absurd h_mode h_stays
      | kept => rfl
  | scattered h_self => exact eq_id_of_isSelfMaster h_self
  | listened h_ended =>
      cases h_ended with
      | asMaster => rfl
      | missed => rfl
      | grabbed h_slave h_count => exact absurd ⟨h_slave, Nat.le_of_eq h_count.symm⟩ h_stays
      | reverted h_slave h_count => exact absurd ⟨h_slave, Nat.le_of_eq h_count.symm⟩ h_stays
  | checked h_checked =>
      cases h_checked with
      | goesOn => rfl
      | finished h_mode => exact absurd h_mode h_stays
  | _ => rfl

theorem stepProtocol_announces (h : stepProtocol c p e ev = .ok p') (h_p : p.AnnouncesOwn)
    (h_stays : p.role = .merger → ¬ p.LeavesClique c ev) : p'.AnnouncesOwn := by
  intro h_role'
  cases stepProtocol_merger h with
  | kept h_role h_merger =>
      have h_role := h_role.symm.trans h_role'
      rw [h_merger, stepProtocol_keeps_master h_role (h_stays h_role) h]
      exact h_p h_role
  | left h_role => exact absurd h_role' h_role
  | became _ _ _ _ _ h_superior => exact h_superior

/-- A catch of a merger is one of trolling. -/
theorem hearInFishSlot_caught (h : stepProtocol c p e (.hearInFishSlot msg) = .ok p')
    (h_p : p.role = .merger → p.fishing.mode = .trolling) :
    p'.role = .merger → p'.fishing.mode = .trolling := by
  obtain ⟨⟨r, p₁⟩, h_handle, rfl⟩ := bind_return_eq_ok.1 h
  cases FishSlot.handle_heard h_handle with
  | mergesMy _ h_mode => exact fun _ => h_mode
  | mergesOther _ h_mode => exact fun _ => h_mode
  | caughtDeep => exact fun _ => rfl
  | kept => exact h_p

end Protocol

-- ============================================================================
-- The invariant
-- ============================================================================

/-- What a task knows of the role when it runs. -/
def Task.KnowsRole (t : Task) (p : Protocol) : Prop :=
  match t with
  | .mergerStartAndEnd => p.role = .merger
  | .theRadioPreludeTaskWFish | .fishSlotStart => p.role ≠ .merger
  | .fishSlotEnd => p.role = .merger → p.fishing.mode = .trolling
  | _ => True

structure Agent.AnnouncementKept (a : Agent) : Prop where
  own : a.protocol.AnnouncesOwn
  waiting : ∀ t x, a.pending = [(t, x)] → t.KnowsRole a.protocol
  trace : ∀ o ∈ a.trace, o.AnnouncesOwn

namespace Agent

variable {c : Config} {e : Env} {a a' : Agent} {ev : AgentEvent} {msg : SyncMessage}

theorem AnnouncementKept.of_waiting {t : Task} {x : Nat} (h_pending : a.pending = [(t, x)])
    (h_own : a.protocol.AnnouncesOwn) (h_role : t.KnowsRole a.protocol)
    (h_trace : ∀ o ∈ a.trace, o.AnnouncesOwn) : a.AnnouncementKept where
  own := h_own
  waiting t' x' h_eq := by
    rw [h_pending] at h_eq
    cases h_eq
    exact h_role
  trace := h_trace

theorem AnnouncementKept.of_none (h_pending : a.pending = []) (h_own : a.protocol.AnnouncesOwn)
    (h_trace : ∀ o ∈ a.trace, o.AnnouncesOwn) : a.AnnouncementKept where
  own := h_own
  waiting t x h_eq := by
    rw [h_pending] at h_eq
    cases h_eq
  trace := h_trace

theorem AnnouncementKept.schedule {b : Agent} {t : Task} (h_pending : b.pending = [])
    (h_own : b.protocol.AnnouncesOwn) (h_role : t.KnowsRole b.protocol)
    (h_trace : ∀ o ∈ b.trace, o.AnnouncesOwn) (e : Env) (d : Nat) :
    (b.schedule e t d).AnnouncementKept := by
  refine AnnouncementKept.of_waiting (schedule_pending_of_idle e t d h_pending) h_own h_role ?_
  exact List.forall_mem_cons.2 ⟨trivial, h_trace⟩

/-- A sync slot sends only messages of the own clique. -/
theorem syncSlotMessage_masterID (h : a.syncSlotMessage c e = .ok msg) :
    msg.masterID = a.protocol.masterID := by
  unfold syncSlotMessage at h
  split at h
  · exact (Protocol.initSyncMessage_eq_ok (ofProtocol_eq_ok.1 h)).2.2.1
  · exact (Protocol.initSyncMessage_eq_ok (ofProtocol_eq_ok.1 h)).2.2.1
  · exact (Protocol.initSyncMessage_eq_ok (ofProtocol_eq_ok.1 h)).2.2.1
  · cases h

theorem SyncSlotNext.announcementKept {u : Bool} (h : SyncSlotNext c e a u a')
    (h_pending : a.pending = []) (h_own : a.protocol.AnnouncesOwn)
    (h_trace : ∀ o ∈ a.trace, o.AnnouncesOwn) : a'.AnnouncementKept := by
  cases h with
  | afterPrelude =>
      apply AnnouncementKept.schedule
      · exact h_pending
      · exact h_own
      · trivial
      · exact h_trace
  | abuts =>
      apply AnnouncementKept.schedule
      · exact h_pending
      · exact h_own
      · trivial
      · exact h_trace

theorem NonSyncScheduled.announcementKept (h : NonSyncScheduled c e a a')
    (h_pending : a.pending = []) (h_own : a.protocol.AnnouncesOwn)
    (h_trace : ∀ o ∈ a.trace, o.AnnouncesOwn) : a'.AnnouncementKept := by
  have h_fisher : a.protocol.role = .fisher → a.protocol.role ≠ .merger := by
    intro h_role
    rw [h_role]
    exact fisher_ne_merger
  cases h with
  | omits =>
      apply AnnouncementKept.schedule
      · exact h_pending
      · exact h_own
      · trivial
      · exact h_trace
  | merges _ h_role =>
      apply AnnouncementKept.schedule
      · split <;> exact h_pending
      · split <;> exact h_own
      · split <;> exact h_role
      · split <;> exact h_trace
  | fishesNear _ h_role =>
      apply AnnouncementKept.schedule
      · exact h_pending
      · exact h_own
      · exact h_fisher h_role
      · exact h_trace
  | fishesFar _ h_role =>
      apply AnnouncementKept.schedule
      · exact h_pending
      · exact h_own
      · exact h_fisher h_role
      · exact h_trace
  | provisions =>
      apply AnnouncementKept.schedule
      · exact h_pending
      · exact h_own
      · trivial
      · exact h_trace
  | stalls => exact AnnouncementKept.of_none h_pending h_own h_trace

theorem TaskRan.announcementKept {t : Task} (h : TaskRan c e a t a') (h_pending : a.pending = [])
    (h_own : a.protocol.AnnouncesOwn) (h_role : t.KnowsRole a.protocol)
    (h_trace : ∀ o ∈ a.trace, o.AnnouncesOwn)
    (h_stays : t = .endSyncSlotListen → a.protocol.role = .merger →
      ¬ a.protocol.LeavesClique c .endListen) : a'.AnnouncementKept := by
  have h_next := pending_append h_pending
  have h_cons : ∀ o : Occurrence, o.AnnouncesOwn → ∀ o' ∈ o :: a.trace, o'.AnnouncesOwn :=
    fun o h_o => List.forall_mem_cons.2 ⟨h_o, h_trace⟩
  have h_two : ∀ o₁ o₂ : Occurrence, o₁.AnnouncesOwn → o₂.AnnouncesOwn →
      ∀ o ∈ o₁ :: o₂ :: a.trace, o.AnnouncesOwn :=
    fun o₁ o₂ h₁ h₂ => List.forall_mem_cons.2 ⟨h₁, h_cons o₂ h₂⟩
  -- events that never take a unit out of its clique
  have h_keeps : ∀ {q q' : Protocol} (ev : ProtocolEvent), q.AnnouncesOwn →
      ¬ q.LeavesClique c ev → stepProtocol c q e ev = .ok q' → q'.AnnouncesOwn :=
    fun ev h_q h_not h_step => stepProtocol_announces h_step h_q fun _ => h_not
  cases h with
  | @maintained p _ _ h_book =>
      have h_p : p.AnnouncesOwn := h_keeps .bookkeepingAtPreludeToSyncSlot h_own id h_book
      refine AnnouncementKept.of_waiting (h_next _ _) h_p trivial ?_
      exact List.forall_mem_cons.2 ⟨trivial, h_two _ _ trivial trivial⟩
  | @resumed p _ _ h_book =>
      have h_p : p.AnnouncesOwn := h_keeps .bookkeepingAtPreludeToSyncSlot h_own id h_book
      refine AnnouncementKept.of_waiting (h_next _ _) h_p trivial ?_
      exact List.forall_mem_cons.2 ⟨trivial, h_two _ _ trivial trivial⟩
  | @preludesSync p h_book =>
      have h_p : p.AnnouncesOwn := h_keeps .bookkeepingAtPreludeToSyncSlot h_own id h_book
      exact AnnouncementKept.of_waiting (h_next _ _) h_p trivial (h_two _ _ trivial trivial)
  | preludesFish =>
      exact AnnouncementKept.of_waiting (h_next _ _) h_own h_role (h_cons _ trivial)
  | pauses =>
      exact AnnouncementKept.of_waiting (h_next _ _) h_own trivial (h_two _ _ trivial trivial)
  | @sends _ k p p' _ _ _ _ _ _ _ h_step =>
      have h_p : p'.AnnouncesOwn :=
        h_keeps .dispatchSyncSlotKind (q := (a.rolled e t).protocol) h_own id h_step
      exact AnnouncementKept.of_waiting (h_next _ _) h_p trivial (h_two _ _ trivial trivial)
  | @listens _ p _ _ _ _ _ h_step =>
      have h_p : p.AnnouncesOwn :=
        h_keeps .dispatchSyncSlotKind (q := (a.rolled e t).protocol) h_own id h_step
      refine AnnouncementKept.of_waiting (h_next _ _) h_p trivial ?_
      exact List.forall_mem_cons.2 ⟨trivial, h_two _ _ trivial trivial⟩
  | sent h_msg =>
      have h_master := syncSlotMessage_masterID h_msg
      exact AnnouncementKept.of_waiting (h_next _ _) h_own trivial (h_two _ _ trivial h_master)
  | @listened p p₁ _ _ h_end h_fish h_sched =>
      have h_step : stepProtocol c a.protocol e .endListen = .ok p := h_end
      have h_p : p.AnnouncesOwn := stepProtocol_announces h_step h_own (h_stays rfl)
      have h_p₁ : p₁.AnnouncesOwn := h_keeps .preFishing h_p id h_fish
      exact h_sched.announcementKept h_pending h_p₁ h_trace
  | @sentOver p _ _ h_fish h_sched =>
      have h_p : p.AnnouncesOwn := h_keeps .preFishing h_own id h_fish
      exact h_sched.announcementKept h_pending h_p h_trace
  | fishes =>
      refine AnnouncementKept.of_waiting (h_next _ _) h_own ?_ (h_two _ _ trivial trivial)
      exact fun h_merger => absurd h_merger h_role
  | @fished p _ _ h_check h_sync =>
      have h_trolls : a.protocol.role = .merger →
          ¬ a.protocol.LeavesClique c .checkFishingDone := by
        intro h_merger h_deep
        rw [Protocol.LeavesClique, h_role h_merger] at h_deep
        cases h_deep
      have h_step : stepProtocol c a.protocol e .checkFishingDone = .ok p := h_check
      have h_p : p.AnnouncesOwn := stepProtocol_announces h_step h_own h_trolls
      exact h_sync.announcementKept h_pending h_p h_trace
  | @merged msg p _ h_msg h_sent h_sync =>
      have h_p : p.AnnouncesOwn := h_keeps .mergeSyncSent h_own id h_sent
      have h_master : msg.masterID = a.protocol.masterID :=
        (Protocol.makeMergeMsg_eq_ok h_msg).2.2.trans (h_own h_role)
      exact h_sync.announcementKept h_pending h_p (h_cons _ h_master)
  | provisions => exact AnnouncementKept.of_none h_pending h_own h_trace
  | failsToProvision _ _ h_sync => exact h_sync.announcementKept h_pending h_own h_trace
  | provisioned h_sync => exact h_sync.announcementKept h_pending h_own h_trace

/-- A message that is handled, in either slot. -/
theorem hears_announces {handler : MessageHandler} {packet : Option RadioBuffer} {p : Protocol}
    (h_stays : a.StaysInClique c (e, .packet packet)) (h_radio : a.radio = some handler)
    (h_msg : messageOf packet = some msg)
    (h_step : stepProtocol c a.protocol e (hears handler msg) = .ok p)
    (h_own : a.protocol.AnnouncesOwn) (h_role : (endOf handler).KnowsRole a.protocol) :
    p.AnnouncesOwn ∧ (endOf handler).KnowsRole p := by
  cases handler with
  | syncSlot =>
      refine ⟨stepProtocol_announces h_step h_own fun h_merger => ?_, trivial⟩
      exact h_stays h_merger h_radio msg h_msg
  | fishSlot =>
      refine ⟨stepProtocol_announces h_step h_own fun h_merger h_deep => ?_, ?_⟩
      · have h_trolls := h_role h_merger
        rw [show a.protocol.fishing.mode = .deepFishing from h_deep] at h_trolls
        cases h_trolls
      · exact hearInFishSlot_caught h_step h_role

theorem AgentStep.announcementKept (h : AgentStep c e a ev a')
    (h_stays : a.StaysInClique c (e, ev)) (h_a : a.AnnouncementKept) : a'.AnnouncementKept := by
  cases h with
  | @ran t x _ h_pending _ _ _ h_ran =>
      refine h_ran.announcementKept (dequeued_pending e t x h_pending) h_a.own
        (h_a.waiting t x h_pending) ?_ ?_
      · rw [dequeued_trace]
        exact List.forall_mem_cons.2 ⟨trivial, h_a.trace⟩
      · rintro rfl
        exact h_stays
  | heard h_radio h_pending _ h_taken =>
      have h_role := h_a.waiting _ _ h_pending
      cases h_taken with
      | ignored =>
          refine AnnouncementKept.of_waiting h_pending h_a.own h_role ?_
          exact List.forall_mem_cons.2 ⟨trivial, h_a.trace⟩
      | goesOn h_msg h_step =>
          obtain ⟨h_own', h_role'⟩ :=
            hears_announces h_stays h_radio h_msg h_step h_a.own h_role
          refine AnnouncementKept.of_waiting h_pending h_own' h_role' ?_
          refine List.forall_mem_cons.2 ⟨trivial, ?_⟩
          exact List.forall_mem_cons.2 ⟨trivial, h_a.trace⟩
      | ends h_msg h_step =>
          obtain ⟨h_own', h_role'⟩ :=
            hears_announces h_stays h_radio h_msg h_step h_a.own h_role
          refine AnnouncementKept.of_waiting h_pending h_own' h_role' ?_
          exact List.forall_mem_cons.2 ⟨trivial, h_a.trace⟩
  | @succeeded provision p h_pending _ h_step =>
      have h_own : p.AnnouncesOwn := stepProtocol_announces h_step h_a.own fun _ => id
      apply AnnouncementKept.schedule
      · exact h_pending
      · exact h_own
      · trivial
      · exact h_a.trace
  | failed h_pending =>
      apply AnnouncementKept.schedule
      · exact h_pending
      · exact h_a.own
      · trivial
      · exact h_a.trace

theorem announcementKept_boot (initTime loopTime : Nat) :
    (Agent.boot c initTime loopTime).AnnouncementKept := by
  apply AnnouncementKept.schedule
  · rfl
  · intro h_role
    cases h_role
  · trivial
  · intro o h_mem
    cases h_mem

end Agent

-- ============================================================================
-- Runs
-- ============================================================================

/-- In a run in which mergers stay in their cliques, a merger's recorded superior
    is its master, and every message sent, merge messages included, is from the
    clique of its sender. -/
theorem merger_announces_own_clique {c : Config} {a : Agent}
    (h : ((agentSystem c).guarded (Agent.StaysInClique c)).Reachable a) :
    (a.protocol.role = .merger →
        a.protocol.cliqueMerger.superiorMasterID = a.protocol.masterID) ∧
      ∀ o ∈ a.trace, ∀ msg, o.what = .transmit msg → msg.masterID = o.protocol.masterID := by
  have h_kept : a.AnnouncementKept := by
    refine Agent.invariant Agent.AnnouncementKept h
      (fun i l _ => Agent.announcementKept_boot i l) ?_
    intro a e ev a' h_a _ _ h_stays h_step
    exact h_step.announcementKept h_stays h_a
  refine ⟨h_kept.own, fun o h_mem msg h_what => ?_⟩
  have h_o := h_kept.trace o h_mem
  rw [Occurrence.AnnouncesOwn, h_what] at h_o
  exact h_o

/-- A unit that stays in its clique tells clique nine about it. -/
theorem merger_announces_own_clique_catchesNine :
    ∃ a, ((agentSystem unitFive).guarded (Agent.StaysInClique unitFive)).Reachable a ∧
      a.protocol.role = .merger ∧ a.protocol.cliqueMerger.superiorMasterID = 5 ∧
      a.protocol.countSentMergeSyncs = 1 ∧
      ∀ o ∈ a.trace, ∀ msg, o.what = .transmit msg → msg.masterID = o.protocol.masterID := by
  obtain ⟨a, h, h_role, h_count, h_master⟩ :=
    System.Reachable.exists_of_play
      (M := (agentSystem unitFive).guarded (Agent.StaysInClique unitFive))
      (P := fun a => a.protocol.role = .merger ∧ a.protocol.countSentMergeSyncs = 1 ∧
        a.protocol.masterID = 5)
      (catchesNine ++ mergesNine) ⟨0, 0, Nat.le_refl 0, rfl⟩ (by decide +kernel)
  obtain ⟨h_own, h_sent⟩ := merger_announces_own_clique h
  exact ⟨a, h, h_role, (h_own h_role).trans h_master, h_count, h_sent⟩

/-- A unit that hears the better clique three in the sync slot joins it, goes on
    merging, and tells clique nine about the clique it has left. -/
theorem merger_announces_left_clique :
    ∃ a, (agentSystem unitFive).Reachable a ∧
      a.protocol.role = .merger ∧ a.protocol.masterID = 3 ∧
      a.protocol.cliqueMerger.superiorMasterID = 5 ∧
      ∃ o ∈ a.trace, o.now = 160160 ∧ ¬ o.AnnouncesOwn :=
  System.Reachable.exists_of_play
    (catchesNine ++ [arrives 160030 (masterSyncFrom 3 ⟨79970, by decide⟩)] ++ mergesNine)
    ⟨0, 0, Nat.le_refl 0, rfl⟩ (by decide +kernel)

end SleepSync
