/-
  SleepSync.Silence

  How long a master has been silent when its slave gives it up.

  The dropout monitor counts the listening slots that a slave completes, and a
  message that keeps it in sync starts it over in the midst of a slot.  So the slot
  in which that message was heard is the first that is counted, though it is none
  in which nothing was heard.  A master can also be caught in the fish slot, by a
  merge or by deep fishing, and there the monitor does not start over: it goes on
  with what it holds from the time of an earlier master.

  So the silent slots of a master are counted as many as they are only where it was
  caught in the fish slot with the monitor at zero, and not heard in the sync slot
  since.
-/

import SleepSync.RoleStability

namespace SleepSync

open Lib Protocol

-- ============================================================================
-- What is remembered of the master
-- ============================================================================

/-- Where a unit last heard a message that keeps it in sync with its master. -/
inductive LastHeard
  | inSyncSlot
  /-- where it caught the master, and what the monitor held -/
  | inFishSlot (count : Nat)
  deriving DecidableEq

/-- What the monitor has counted ahead of the first silent slot: the slot in which
    the message was heard, or what a catch leaves in it. -/
def LastHeard.counted : LastHeard → Nat
  | .inSyncSlot => 1
  | .inFishSlot count => count

/-- The silence of the master since then. -/
structure Silence where
  lastHeard : LastHeard
  /-- the message was heard in the listening slot that goes on -/
  goesOn : Bool
  /-- completed listening slots of a slave in which none was heard -/
  slots : Nat
  deriving DecidableEq

/-- The silent slots that there are when the listening slot that goes on ends. -/
def Silence.completed (g : Silence) : Nat := if g.goesOn then 0 else g.slots + 1

def Silence.none : Silence where
  lastHeard := .inFishSlot 0
  goesOn := false
  slots := 0

/-- A message that a handler updates the clique by begins a new silence. -/
def Silence.hear (p : Protocol) (g : Silence) (msg : SyncMessage) : MessageHandler → Silence
  | .syncSlot =>
      if p.adoptsInSyncSlot msg then { lastHeard := .inSyncSlot, goesOn := true, slots := 0 } else g
  | .fishSlot =>
      if p.adoptsInFishSlot msg then
        { lastHeard := .inFishSlot p.countSyncSlotsWithoutSyncMsg, goesOn := false, slots := 0 }
      else g

/-- The end of a listening slot. -/
def Silence.endSlot (c : Config) (p : Protocol) (g : Silence) : Silence :=
  if g.goesOn then { g with goesOn := false }
  else if p.isSelfMaster c then g
  else { g with slots := g.slots + 1 }

def noteSilence (c : Config) (a : Agent) (l : Env × AgentEvent) (_ : Agent) (g : Silence) :
    Silence :=
  match l.2 with
  | .packet received =>
      match a.radio, Agent.messageOf received with
      | some handler, some msg => g.hear a.protocol msg handler
      | _, _ => g
  | .timer .endSyncSlotListen _ => g.endSlot c a.protocol
  | _ => g

/-- A unit with the silence of its present master. -/
def silenceSystem (c : Config) : System (Agent × Silence) (Env × AgentEvent) TaskFault :=
  (agentSystem c).watched Silence.none (noteSilence c)

abbrev SilenceMove := Move (Agent × Silence) (Env × AgentEvent)

/-- The end of listening would be a dropout. -/
def Protocol.declaresDropout (c : Config) (p : Protocol) : Bool :=
  p.isSelfSlave c &&
    match p.isDropout with
    | .ok (dropout, _) => dropout
    | .error _ => false

/-- The end of a listening slot. -/
def AgentEvent.endsListening : AgentEvent → Bool
  | .timer .endSyncSlotListen _ => true
  | _ => false

/-- The next task is the end of a listening slot of a slave. -/
def Agent.ListensAsSlave (c : Config) (a : Agent) : Prop :=
  a.pending.map Prod.fst = [.endSyncSlotListen] ∧ a.protocol.isSelfMaster c = false

/-- A slave gives its master up only after one silent slot more than may be missed,
    and after as many it does. -/
def DropsAfterSilence (c : Config) (w : Agent × Silence) : Prop :=
  w.1.ListensAsSlave c →
    (w.1.protocol.declaresDropout c = true →
        Policy.maxMissingSyncsPerDropout + 1 ≤ w.2.completed) ∧
      (w.2.completed = Policy.maxMissingSyncsPerDropout + 1 →
        w.1.protocol.declaresDropout c = true)

/-- Where the monitor of a slave is at its limit, its master was caught with the
    monitor at zero, and not heard in the sync slot since. -/
def CaughtAfresh (c : Config) (w : Agent × Silence) : Prop :=
  w.1.ListensAsSlave c →
    w.1.protocol.countSyncSlotsWithoutSyncMsg = Policy.maxMissingSyncsPerDropout →
      w.2.lastHeard = .inFishSlot 0

instance (c : Config) (a : Agent) : Decidable (a.ListensAsSlave c) :=
  inferInstanceAs (Decidable (_ ∧ _))

instance (c : Config) (w : Agent × Silence) : Decidable (CaughtAfresh c w) :=
  inferInstanceAs (Decidable (_ → _ → _))

-- ============================================================================
-- The monitor
-- ============================================================================

/-- The monitor is left as it is, and the master but for the unit itself. -/
structure MonitorKept (c : Config) (p p' : Protocol) : Prop where
  count : p'.countSyncSlotsWithoutSyncMsg = p.countSyncSlotsWithoutSyncMsg
  master : p'.masterID = p.masterID ∨ p'.masterID = c.id

section Monitor

variable {c : Config} {e : Env} {p p' p'' : Protocol} {msg : SyncMessage}

theorem MonitorKept.refl (c : Config) (p : Protocol) : MonitorKept c p p :=
  ⟨rfl, Or.inl rfl⟩

theorem MonitorKept.trans (h : MonitorKept c p p') (h' : MonitorKept c p' p'') :
    MonitorKept c p p'' := by
  refine ⟨h'.count.trans h.count, ?_⟩
  rcases h'.master with h_same | h_own
  · rw [h_same]
    exact h.master
  · exact Or.inr h_own

/-- A slave after it was one before, or after it heard of a master. -/
theorem MonitorKept.isSelfMaster (h : MonitorKept c p p') (h_slave : p'.isSelfMaster c = false) :
    p.isSelfMaster c = false := by
  rcases h.master with h_same | h_own
  · unfold Protocol.isSelfMaster at h_slave ⊢
    rw [← h_same]
    exact h_slave
  · exact absurd h_own (of_decide_eq_false h_slave)

theorem adoptsInSyncSlot_of_type (h : msg.type ≠ .masterSync ∧ msg.type ≠ .workSync) :
    p.adoptsInSyncSlot msg = false := by
  simp [adoptsInSyncSlot, h.1, h.2]

/-- In the sync slot a message that is adopted starts the monitor over. -/
theorem hearInSyncSlot_monitor (h : stepProtocol c p e (.hearInSyncSlot msg) = .ok p') :
    (p.adoptsInSyncSlot msg = true ∧ p'.countSyncSlotsWithoutSyncMsg = 0) ∨
      (p.adoptsInSyncSlot msg = false ∧ MonitorKept c p p') := by
  obtain ⟨⟨r, p₁⟩, h_handle, rfl⟩ := bind_return_eq_ok.1 h
  cases SyncSlot.handle_heard h_handle with
  | joined h_adopts => exact Or.inl ⟨h_adopts, rfl⟩
  | scattered h_type =>
      exact Or.inr ⟨adoptsInSyncSlot_of_type (by simp [h_type]), rfl, Or.inr rfl⟩
  | assumed h_type => exact Or.inr ⟨adoptsInSyncSlot_of_type (by simp [h_type]), rfl, Or.inr rfl⟩
  | enticed h_type =>
      refine Or.inr ⟨adoptsInSyncSlot_of_type ?_, rfl, Or.inl rfl⟩
      rcases h_type with h_type | h_type | h_type <;> simp [h_type]
  | other h_not => exact Or.inr ⟨h_not, rfl, Or.inl rfl⟩

/-- In the fish slot no message starts it over. -/
theorem hearInFishSlot_monitor (h : stepProtocol c p e (.hearInFishSlot msg) = .ok p') :
    p'.countSyncSlotsWithoutSyncMsg = p.countSyncSlotsWithoutSyncMsg ∧
      (p.adoptsInFishSlot msg = false → p'.masterID = p.masterID) := by
  obtain ⟨⟨r, p₁⟩, h_handle, rfl⟩ := bind_return_eq_ok.1 h
  cases FishSlot.handle_heard h_handle with
  | mergesMy _ _ h_adopts => exact ⟨rfl, fun h_not => absurd h_adopts (ne_true_of_eq_false h_not)⟩
  | caughtDeep _ h_adopts => exact ⟨rfl, fun h_not => absurd h_adopts (ne_true_of_eq_false h_not)⟩
  | mergesOther => exact ⟨rfl, fun _ => rfl⟩
  | kept => exact ⟨rfl, fun _ => rfl⟩

/-- What the end of a listening slot does. -/
theorem endListen_monitor (h_sound : p.clique.Sound c) (h : p.endListen c e = .ok p') :
    p'.masterID = c.id ∧ p'.countSyncSlotsWithoutSyncMsg ≤ p.countSyncSlotsWithoutSyncMsg ∨
      p.isSelfMaster c = false ∧ p'.masterID = p.masterID ∧
        p.countSyncSlotsWithoutSyncMsg < Policy.maxMissingSyncsPerDropout ∧
        p'.countSyncSlotsWithoutSyncMsg = p.countSyncSlotsWithoutSyncMsg + 1 := by
  have h_step : stepProtocol c p e .endListen = .ok p' := h
  cases endListen_ended h_step with
  | asMaster h_master => exact Or.inl ⟨of_decide_eq_true h_master, Nat.le_refl _⟩
  | missed h_slave h_lt => exact Or.inr ⟨h_slave, rfl, h_lt, rfl⟩
  | grabbed => exact Or.inl ⟨rfl, Nat.zero_le _⟩
  | reverted _ _ h_pop =>
      -- record zero is the unit's own
      exact Or.inl ⟨(CliqueHistory.pop_first h_pop).trans h_sound.firstRecord, Nat.zero_le _⟩

/-- A dropout is declared where the monitor is at its limit. -/
theorem declaresDropout_iff (h_slave : p.isSelfMaster c = false)
    (h_le : p.countSyncSlotsWithoutSyncMsg ≤ Policy.maxMissingSyncsPerDropout) :
    p.declaresDropout c = true ↔
      p.countSyncSlotsWithoutSyncMsg = Policy.maxMissingSyncsPerDropout := by
  have h_drop := (isDropout_eq_ok (p := p)).2 ⟨h_le, rfl, rfl⟩
  unfold declaresDropout
  rw [h_drop, isSelfSlave, h_slave]
  simp only [Bool.not_false, Bool.true_and, decide_eq_true_eq]
  omega

end Monitor

-- ============================================================================
-- Tasks and packets
-- ============================================================================

/-- The monitor is within its limit, and that of a slave holds what was counted ahead
    of the silence, and one for each slot of it. -/
structure SilenceCounted (c : Config) (a : Agent) (g : Silence) : Prop where
  le : a.protocol.countSyncSlotsWithoutSyncMsg ≤ Policy.maxMissingSyncsPerDropout
  goesOn : g.goesOn = true → g.lastHeard = .inSyncSlot ∧ g.slots = 0
  eq : a.protocol.isSelfMaster c = false →
    a.protocol.countSyncSlotsWithoutSyncMsg =
      if g.goesOn then 0 else g.lastHeard.counted + g.slots

namespace Agent

variable {c : Config} {e : Env} {a a' : Agent} {ev : AgentEvent} {t : Task} {x : Nat}
  {g : Silence}

theorem NonSyncScheduled.monitorKept (h : NonSyncScheduled c e a a') :
    MonitorKept c a.protocol a'.protocol := by
  cases h with
  | merges => split <;> exact MonitorKept.refl c _
  | _ => exact ⟨rfl, Or.inl rfl⟩

theorem preFishing_monitorKept {p p' : Protocol} (h : p.preFishing = .ok p') :
    MonitorKept c p p' := by
  obtain ⟨f, -, rfl⟩ := bind_return_eq_ok.1 h
  exact ⟨rfl, Or.inl rfl⟩

/-- No task but the end of listening is about the monitor. -/
theorem TaskRan.monitorKept (h : TaskRan c e a t a') (h_t : t ≠ .endSyncSlotListen) :
    MonitorKept c a.protocol a'.protocol := by
  have h_book : ∀ {p : Protocol}, a.protocol.bookkeepingAtPreludeToSyncSlot c e = .ok p →
      MonitorKept c a.protocol p := by
    intro p h_p
    obtain ⟨m, r, k, n, f, l, rfl⟩ := Protocol.bookkeeping_frame h_p
    exact ⟨rfl, Or.inl rfl⟩
  have h_dispatch : ∀ {p : Protocol},
      stepProtocol c a.protocol.preludeToSyncPeriod e .dispatchSyncSlotKind = .ok p →
        MonitorKept c a.protocol p := by
    intro p h_step
    cases stepProtocol_done h_step with
    | decided => exact ⟨rfl, Or.inl rfl⟩
    | scattered => exact ⟨rfl, Or.inr rfl⟩
  cases h with
  | maintained _ _ h_p =>
      have h_kept := h_book h_p
      exact ⟨h_kept.count, h_kept.master⟩
  | resumed _ _ h_p =>
      have h_kept := h_book h_p
      exact ⟨h_kept.count, h_kept.master⟩
  | preludesSync h_p => exact h_book h_p
  | preludesFish => exact MonitorKept.refl c _
  | pauses => exact ⟨rfl, Or.inl rfl⟩
  | sends _ _ _ _ _ _ h_step => exact h_dispatch h_step
  | listens _ _ _ _ _ h_step => exact h_dispatch h_step
  | sent => exact MonitorKept.refl c _
  | listened => exact absurd rfl h_t
  | sentOver _ h_p h_next =>
      have h_kept := h_next.monitorKept
      exact (preFishing_monitorKept h_p).trans h_kept
  | fishes => exact MonitorKept.refl c _
  | fished _ h_check h_next =>
      rw [h_next.protocol]
      cases checkFishingDone_checked h_check with
      | goesOn => exact ⟨rfl, Or.inl rfl⟩
      | @finished callback =>
          cases callback with
          | endWithNoAction => exact ⟨rfl, Or.inl rfl⟩
          | endWithRecoverMaster => exact ⟨rfl, Or.inr rfl⟩
  | merged _ h_sent h_next =>
      rw [h_next.protocol]
      rcases (mergeSyncSent_eq_ok h_sent).2 with ⟨-, rfl⟩ | ⟨-, rfl⟩ <;> exact ⟨rfl, Or.inl rfl⟩
  | provisions => exact MonitorKept.refl c _
  | failsToProvision _ _ h_next =>
      rw [h_next.protocol]
      exact MonitorKept.refl c _
  | provisioned h_next =>
      rw [h_next.protocol]
      exact MonitorKept.refl c _

end Agent

section Steps

variable {c : Config} {e : Env} {a a' : Agent} {ev : AgentEvent} {g : Silence}

/-- What keeps the monitor and begins no new silence. -/
theorem SilenceCounted.of_kept (h : SilenceCounted c a g)
    (h_kept : MonitorKept c a.protocol a'.protocol) : SilenceCounted c a' g := by
  refine ⟨h_kept.count ▸ h.le, h.goesOn, fun h_slave => ?_⟩
  rw [h_kept.count]
  exact h.eq (h_kept.isSelfMaster h_slave)

/-- The end of a listening slot: where the message was heard in it, the monitor
    counts the slot and the silence does not. -/
theorem SilenceCounted.endSlot {p : Protocol} (h : SilenceCounted c a g)
    (h_sound : a.protocol.clique.Sound c) (h_end : a.protocol.endListen c e = .ok p)
    (h_kept : MonitorKept c p a'.protocol) : SilenceCounted c a' (g.endSlot c a.protocol) := by
  have h_goesOn : (g.endSlot c a.protocol).goesOn = false := by
    unfold Silence.endSlot
    by_cases h_on : g.goesOn = true
    · rw [if_pos h_on]
    · rw [if_neg h_on]
      split <;> exact eq_false_of_ne_true h_on
  rcases endListen_monitor h_sound h_end with ⟨h_own, h_fewer⟩ | ⟨h_slave, -, h_lt, h_count⟩
  · refine ⟨h_kept.count ▸ Nat.le_trans h_fewer h.le, fun h_on => ?_, fun h_slave => ?_⟩
    · rw [h_goesOn] at h_on
      cases h_on
    · exact absurd h_own (of_decide_eq_false (h_kept.isSelfMaster h_slave))
  · refine ⟨?_, fun h_on => ?_, fun _ => ?_⟩
    · rw [h_kept.count, h_count]
      exact h_lt
    · rw [h_goesOn] at h_on
      cases h_on
    · have h_eq := h.eq h_slave
      rw [h_kept.count, h_count, h_goesOn, if_neg Bool.false_ne_true, h_eq]
      unfold Silence.endSlot
      by_cases h_on : g.goesOn = true
      · obtain ⟨h_last, h_none⟩ := h.goesOn h_on
        rw [if_pos h_on, if_pos h_on, h_last, h_none]
        rfl
      · rw [if_neg h_on, if_neg h_on, if_neg (ne_true_of_eq_false h_slave)]
        rfl

/-- A message, which is adopted or not. -/
theorem SilenceCounted.hear {handler : MessageHandler} {msg : SyncMessage}
    (h : SilenceCounted c a g)
    (h_step : stepProtocol c a.protocol e (Agent.hears handler msg) = .ok a'.protocol) :
    SilenceCounted c a' (g.hear a.protocol msg handler) := by
  cases handler with
  | syncSlot =>
      unfold Silence.hear
      rcases hearInSyncSlot_monitor h_step with ⟨h_adopts, h_zero⟩ | ⟨h_not, h_kept⟩
      · rw [h_adopts, if_pos rfl]
        refine ⟨h_zero ▸ Nat.zero_le _, fun _ => ⟨rfl, rfl⟩, fun _ => ?_⟩
        exact h_zero
      · rw [h_not, if_neg Bool.false_ne_true]
        exact h.of_kept h_kept
  | fishSlot =>
      unfold Silence.hear
      obtain ⟨h_count, h_same⟩ := hearInFishSlot_monitor h_step
      by_cases h_adopts : a.protocol.adoptsInFishSlot msg = true
      · rw [if_pos h_adopts]
        refine ⟨h_count ▸ h.le, fun h_on => ?_, fun _ => ?_⟩
        · cases h_on
        · exact h_count
      · rw [if_neg h_adopts]
        exact h.of_kept ⟨h_count, Or.inl (h_same (eq_false_of_ne_true h_adopts))⟩

theorem Agent.AgentStep.counted (h : Agent.AgentStep c e a ev a')
    (h_step : stepAgent c a e ev = .ok a') (h_sound : a.protocol.clique.Sound c)
    (h_counted : SilenceCounted c a g) :
    SilenceCounted c a' (noteSilence c a (e, ev) a' g) := by
  cases h with
  | @ran t x _ _ _ _ _ h_ran =>
      by_cases h_t : t = .endSyncSlotListen
      · subst h_t
        have h_starts : ¬ startsSyncSlot .endSyncSlotListen := by
          rintro (h_t | h_t) <;> cases h_t
        cases h_ran with
        | listened _ h_end h_fish h_next =>
            have h_kept := h_next.monitorKept
            exact h_counted.endSlot h_sound h_end
              ((Agent.preFishing_monitorKept h_fish).trans h_kept)
        | pauses h_t => exact absurd h_t h_starts
        | sends h_t => exact absurd h_t h_starts
        | listens h_t => exact absurd h_t h_starts
      · have h_same : noteSilence c a (e, .timer t x) a' g = g := by
          cases t <;> first | rfl | exact absurd rfl h_t
        rw [h_same]
        exact h_counted.of_kept (h_ran.monitorKept h_t)
  | @heard packet handler x _ h_radio =>
      unfold noteSilence
      dsimp only
      rw [h_radio]
      rcases Agent.packet_protocol h_radio h_step with ⟨h_none, h_same⟩ | ⟨msg, h_msg, h_hears⟩
      · rw [h_none]
        refine h_counted.of_kept ?_
        rw [h_same]
        exact MonitorKept.refl c _
      · rw [h_msg]
        exact h_counted.hear h_hears
  | succeeded _ _ h_provision =>
      cases stepProtocol_done h_provision
      exact h_counted.of_kept ⟨rfl, Or.inl rfl⟩
  | failed => exact h_counted.of_kept (MonitorKept.refl c _)

end Steps

-- ============================================================================
-- Runs
-- ============================================================================

section Runs

variable {c : Config}

theorem silenceSystem_counted {w : Agent × Silence} (h : (silenceSystem c).Reachable w) :
    SilenceCounted c w.1 w.2 := by
  refine System.Reachable.watched_invariant (SilenceCounted c) h.guarded_true ?_ ?_
  · rintro a ⟨initTime, loopTime, -, rfl⟩
    refine ⟨Nat.zero_le _, fun h_on => ?_, fun _ => rfl⟩
    cases h_on
  · rintro a g ⟨e, ev⟩ a' h_reach h_g ⟨-, h_possible⟩ - h_step
    have h_one := agentSystem_oneTask h_reach.guarded_true
    exact (Agent.stepAgent_step h_one h_possible h_step).counted h_step
      (agentSystem_sound h_reach) h_g

/-- At the end of a listening slot the dropout is declared after as many silent slots
    as may be missed, less what was counted ahead of them, and one more. -/
theorem SilenceCounted.declares_iff {w : Agent × Silence} (h : SilenceCounted c w.1 w.2)
    (h_slave : w.1.protocol.isSelfMaster c = false) :
    w.1.protocol.declaresDropout c = true ↔
      w.2.goesOn = false ∧
        w.2.lastHeard.counted + w.2.completed = Policy.maxMissingSyncsPerDropout + 1 := by
  rw [declaresDropout_iff h_slave h.le, h.eq h_slave]
  unfold Silence.completed
  cases h_on : w.2.goesOn with
  | true =>
      refine iff_of_false (fun h_zero => ?_) (fun h_both => ?_)
      · rw [if_pos rfl] at h_zero
        cases h_zero
      · cases h_both.1
  | false =>
      simp only [Bool.false_eq_true, if_false, true_and]
      omega

/-- Only a catch with the monitor at zero leaves nothing counted. -/
theorem LastHeard.counted_eq_zero {l : LastHeard} : l.counted = 0 ↔ l = .inFishSlot 0 := by
  cases l with
  | inSyncSlot => exact iff_of_false (by decide) LastHeard.noConfusion
  | inFishSlot count =>
      rw [LastHeard.inFishSlot.injEq]
      exact Iff.rfl

/-- What is true of a state. -/
theorem SilenceCounted.drops_iff {w : Agent × Silence} (h : SilenceCounted c w.1 w.2) :
    DropsAfterSilence c w ↔ CaughtAfresh c w := by
  refine forall_congr' fun h_listens => ?_
  have h_iff := h.declares_iff h_listens.2
  have h_limit := declaresDropout_iff h_listens.2 h.le
  rw [← LastHeard.counted_eq_zero, ← h_limit, h_iff]
  refine ⟨fun h_drops h_declares => ?_, fun h_afresh => ⟨fun h_declares => ?_, fun h_many => ?_⟩⟩
  · have h_many := h_drops.1 h_declares
    omega
  · have h_zero := h_afresh h_declares
    omega
  · have h_on : w.2.goesOn = false := by
      unfold Silence.completed at h_many
      refine eq_false_of_ne_true fun h_on => ?_
      rw [if_pos h_on] at h_many
      cases h_many
    have h_le := h.le
    rw [h.eq h_listens.2, h_on, if_neg Bool.false_ne_true] at h_le
    unfold Silence.completed at h_many ⊢
    rw [h_on, if_neg Bool.false_ne_true] at h_many ⊢
    exact ⟨rfl, by omega⟩

/-- In every run, masters are given up after as many silent slots as they should at
    the end of every listening slot exactly if, wherever the monitor is at its limit
    there, the master was caught in the fish slot with the monitor at zero and has not
    been heard in the sync slot since.  So it is too in the state that the run has
    reached, whether or not the unit stops at the dropout.  In every run a master is
    given up after as many less as was counted ahead of its silence. -/
theorem dropout_after_silence_iff {w : (Agent × Silence) × List SilenceMove}
    (h : (silenceSystem c).recorded.Reachable w) :
    ((∀ t ∈ w.2, t.label.2.endsListening = true → DropsAfterSilence c t.before) ↔
      ∀ t ∈ w.2, t.label.2.endsListening = true → CaughtAfresh c t.before) ∧
    (DropsAfterSilence c w.1 ↔ CaughtAfresh c w.1) ∧
    (w.1.1.ListensAsSlave c → (w.1.1.protocol.declaresDropout c = true ↔
      w.1.2.goesOn = false ∧
        w.1.2.lastHeard.counted + w.1.2.completed = Policy.maxMissingSyncsPerDropout + 1)) := by
  have h_counted := silenceSystem_counted h.unwatched
  refine ⟨h.recorded_congr fun t h_reach _ _ => ?_, h_counted.drops_iff, fun h_listens => ?_⟩
  · exact imp_congr_right fun _ => (silenceSystem_counted h_reach).drops_iff
  · exact h_counted.declares_iff h_listens.2

end Runs

-- ============================================================================
-- Masters that fall silent
-- ============================================================================

instance (c : Config) (w : (Agent × Silence) × List SilenceMove) (l : Env × AgentEvent) :
    Decidable ((silenceSystem c).recorded.enabled w l) :=
  inferInstanceAs (Decidable ((agentSystem c).enabled w.1.1 l))

/-- Unit five, just booted. -/
def bootedFiveSilence : (Agent × Silence) × List SilenceMove :=
  ((Agent.boot unitFive 0 0, Silence.none), [])

theorem bootedFiveSilence_init : (silenceSystem unitFive).recorded.init bootedFiveSilence :=
  ⟨⟨⟨0, 0, Nat.le_refl 0, rfl⟩, rfl⟩, rfl⟩

/-- The unit listens in the sync slot that starts at `start`. -/
def listensAt (start : Nat) : List (Env × AgentEvent) :=
  [onTime .theRadioPreludeTaskWSync (start - 50), onTime .startSyncSlotAfterPrelude start]

/-- The end of the slot, and no power to fish after it. -/
def endsWithoutFishing (start : Nat) : Env × AgentEvent :=
  ({ Env.quiet (start + 50) with isPowerAboveMedium := false },
    .timer .endSyncSlotListen (start + 50))

/-- `n` periods from `start` on in whose sync slots nothing is heard. -/
def silentSlots (start n : Nat) : List (Env × AgentEvent) :=
  (List.range n).flatMap fun i =>
    listensAt (start + 80000 * i) ++ [endsWithoutFishing (start + 80000 * i)]

/-- Unit five hears clique three in its first sync slot. -/
def hearsThree : List (Env × AgentEvent) :=
  onTime .startSyncPeriodMaintain 0 :: listensAt 80000 ++
    [arrives 80020 (masterSyncFrom 3 (.ofTicks 79980)), endsWithoutFishing 80000]

/-- Unit five catches three in its first fish slot, with nothing in the monitor, and
    gives it up after as many silent slots as it should. -/
theorem dropout_after_silence_iff_catchesThree :
    ∃ w, (silenceSystem unitFive).recorded.Reachable w ∧ w.1.1.protocol.masterID = 3 ∧
      w.1.1.ListensAsSlave unitFive ∧ w.1.2.completed = Policy.maxMissingSyncsPerDropout + 1 ∧
      w.1.1.protocol.declaresDropout unitFive = true ∧
      ∀ t ∈ w.2, t.label.2.endsListening = true → DropsAfterSilence unitFive t.before := by
  obtain ⟨w, h, h_master, h_listens, h_completed, h_last, h_afresh⟩ :=
    System.Reachable.exists_of_play (M := (silenceSystem unitFive).recorded)
      (P := fun w => w.1.1.protocol.masterID = 3 ∧ w.1.1.ListensAsSlave unitFive ∧
        w.1.2.completed = Policy.maxMissingSyncsPerDropout + 1 ∧
        w.1.2.lastHeard = .inFishSlot 0 ∧
        ∀ t ∈ w.2, t.label.2.endsListening = true → CaughtAfresh unitFive t.before)
      (untilFishing ++ arrives 80120 (masterSyncFrom 3 (.ofTicks 79880)) ::
        onTime .fishSlotEnd 80150 :: silentSlots 160000 80 ++ listensAt 6560000)
      bootedFiveSilence_init (by decide +kernel)
  obtain ⟨h_steps, h_now, -⟩ := dropout_after_silence_iff h
  have h_drops := h_now.2 (fun _ _ => h_last) h_listens
  exact ⟨w, h, h_master, h_listens, h_completed, h_drops.2 h_completed, h_steps.2 h_afresh⟩

/-- Three is heard once, and given up at the end of the eightieth silent slot.  Had
    unit five caught two in the fish slot before, it would give two up at the end of
    the first. -/
theorem master_dropped_too_early :
    (∃ w, (silenceSystem unitFive).recorded.Reachable w ∧ w.1.1.protocol.masterID = 3 ∧
      w.1.2.completed = 80 ∧ w.1.1.protocol.declaresDropout unitFive = true ∧
      ¬ DropsAfterSilence unitFive w.1) ∧
    ∃ w, (silenceSystem unitFive).recorded.Reachable w ∧ w.1.1.protocol.masterID = 2 ∧
      w.1.2.completed = 1 ∧ w.1.1.protocol.declaresDropout unitFive = true ∧
      ¬ DropsAfterSilence unitFive w.1 := by
  have h_early : ∀ {w : (Agent × Silence) × List SilenceMove}, w.1.1.ListensAsSlave unitFive →
      w.1.1.protocol.declaresDropout unitFive = true → w.1.2.completed ≤ 80 →
        ¬ DropsAfterSilence unitFive w.1 := by
    intro w h_listens h_declares h_few h_drops
    have h_many : 81 ≤ w.1.2.completed := (h_drops h_listens).1 h_declares
    omega
  constructor
  · obtain ⟨w, h, h_master, h_completed, h_declares, h_listens⟩ :=
      System.Reachable.exists_of_play (M := (silenceSystem unitFive).recorded)
        (P := fun w => w.1.1.protocol.masterID = 3 ∧ w.1.2.completed = 80 ∧
          w.1.1.protocol.declaresDropout unitFive = true ∧ w.1.1.ListensAsSlave unitFive)
        (hearsThree ++ silentSlots 160000 79 ++ listensAt 6480000)
        bootedFiveSilence_init (by decide +kernel)
    exact ⟨w, h, h_master, h_completed, h_declares,
      h_early h_listens h_declares (Nat.le_of_eq h_completed)⟩
  · obtain ⟨w, h, h_master, h_completed, h_declares, h_listens⟩ :=
      System.Reachable.exists_of_play (M := (silenceSystem unitFive).recorded)
        (P := fun w => w.1.1.protocol.masterID = 2 ∧ w.1.2.completed = 1 ∧
          w.1.1.protocol.declaresDropout unitFive = true ∧ w.1.1.ListensAsSlave unitFive)
        (hearsThree ++ silentSlots 160000 78 ++ listensAt 6400000 ++
          [onTime .endSyncSlotListen 6400050, onTime .theRadioPreludeTaskWFish 6477900,
            onTime .fishSlotStart 6477950,
            arrives 6477970 (masterSyncFrom 2 (.ofTicks 2030)),
            onTime .fishSlotEnd 6478000] ++ listensAt 6480000)
        bootedFiveSilence_init (by decide +kernel)
    refine ⟨w, h, h_master, h_completed, h_declares, h_early h_listens h_declares ?_⟩
    rw [h_completed]
    decide

end SleepSync
