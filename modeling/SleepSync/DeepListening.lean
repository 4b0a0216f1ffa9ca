/-
  SleepSync.DeepListening

  Where a deep fisher listens for the sync of the clique that it was told of.

  A merger tells the time from its transmission to a sync point of the superior
  clique.  The fisher adds that to the time of arrival, which is later by the
  latency of the transmission, and keeps the time from its own sync point.  In
  each later period it listens for one slot from there on, or from the end of its
  own sync slot if that is later.  The sync is half a slot after the sync point,
  which leaves room for the latency.

  The offset is clamped to the end of the fisher's period, not taken modulo the
  period, so it would be wrong for a sync point more than half a slot after the
  fisher's next one.  But a merger transmits after its own sync slot, never
  earlier: its next sync point then is less than a period away by a slot, and the
  fisher, which is at most a slot into its period, stores at most a period.
-/

import SleepSync.FishSessions
import SleepSync.Sender
import SleepSync.Lib.Phase

namespace SleepSync

open Lib ScheduleParameters FishingParameters PhysicalParameters

-- ============================================================================
-- Merge slots are after the sync slot
-- ============================================================================

/-- A task that ends the sync slot, or is a merge slot, does not run before the
    sync slot should end. -/
def Protocol.AfterSyncSlot (p : Protocol) (t : Task) (x : Nat) : Prop :=
  match t with
  | .endSyncSlotListen | .endSyncSlotSend | .mergerStartAndEnd =>
      p.schedule.startTimeOfSyncPeriod + virtualSlotDuration ≤ x
  | _ => True

/-- The others may be due at any time. -/
def afterSyncTasks : List Task := [.endSyncSlotListen, .endSyncSlotSend, .mergerStartAndEnd]

theorem Protocol.afterSyncSlot_of_not_mem {p : Protocol} {t : Task} {x : Nat}
    (h : t ∉ afterSyncTasks) : p.AfterSyncSlot t x := by
  cases t <;> trivial

def Agent.MergesAfterSync (a : Agent) : Prop :=
  ∀ t x, a.pending = [(t, x)] → a.protocol.AfterSyncSlot t x

namespace Agent

variable {c : Config} {e : Env} {a a' : Agent} {ev : AgentEvent} {t : Task}

theorem mergesAfterSync_of_idle (h : a.pending = []) : a.MergesAfterSync := by
  intro t x h_pending
  rw [h] at h_pending
  cases h_pending

theorem mergesAfterSync_of_waiting {x : Nat} (h : a.pending = [(t, x)])
    (h_after : a.protocol.AfterSyncSlot t x) : a.MergesAfterSync := by
  intro t' x' h_pending
  rw [h] at h_pending
  cases h_pending
  exact h_after

theorem mergesAfterSync_of_awaits {ts : List Task} (h : a.Awaits ts)
    (h_ts : ∀ t ∈ ts, t ∉ afterSyncTasks) : a.MergesAfterSync :=
  fun t _ h_pending => Protocol.afterSyncSlot_of_not_mem (h_ts t (h.mem h_pending))

theorem mergesAfterSync_schedule {d : Nat} (h : a.pending = [])
    (h_after : a.protocol.AfterSyncSlot t (e.now + d)) : (a.schedule e t d).MergesAfterSync :=
  mergesAfterSync_of_waiting (schedule_pending_of_idle e t d h) h_after

/-- The sync slot that has begun does not end early. -/
theorem end_le_deltaToThisSyncSlotEnd
    (h_start : a.protocol.schedule.startTimeOfSyncPeriod ≤ e.now) :
    a.protocol.schedule.startTimeOfSyncPeriod + virtualSlotDuration ≤
      e.now + a.deltaToThisSyncSlotEnd c e := by
  have h_end : a.protocol.schedule.timeOfThisSyncSlotEnd =
      a.protocol.schedule.startTimeOfSyncPeriod + virtualSlotDuration := rfl
  unfold deltaToThisSyncSlotEnd
  rw [c.tm.now_add_fromNow (by rw [h_end, virtualSlotDuration_eq]; omega), h_end]
  exact Nat.le_max_right _ _

theorem NonSyncScheduled.mergesAfterSync (h : NonSyncScheduled c e a a')
    (h_pending : a.pending = [])
    (h_now : a.protocol.schedule.startTimeOfSyncPeriod + virtualSlotDuration ≤ e.now) :
    a'.MergesAfterSync := by
  cases h with
  | omits => exact mergesAfterSync_schedule (a := a.undo) h_pending trivial
  | @merges delay =>
      have h_after := Nat.le_trans h_now (Nat.le_add_right e.now delay)
      split
      · exact mergesAfterSync_schedule h_pending h_after
      · exact mergesAfterSync_schedule (a := a.undo) h_pending h_after
  | fishesNear => exact mergesAfterSync_schedule (by exact h_pending) trivial
  | fishesFar => exact mergesAfterSync_schedule (by exact h_pending) trivial
  | provisions => exact mergesAfterSync_schedule h_pending trivial
  | stalls => exact mergesAfterSync_of_idle h_pending

theorem TaskRan.mergesAfterSync (h : TaskRan c e a t a') (h_pending : a.pending = [])
    (h_start : a.protocol.schedule.startTimeOfSyncPeriod ≤ e.now)
    (h_early : a.protocol.schedule.NotEarly t e.now)
    (h_after : a.protocol.AfterSyncSlot t e.now) : a'.MergesAfterSync := by
  by_cases h_free : ∀ k ∈ t.next, k ∉ afterSyncTasks
  · exact mergesAfterSync_of_awaits (h.awaits h_pending) h_free
  cases h with
  | listens h_t _ _ _ _ h_step =>
      refine mergesAfterSync_schedule (by exact h_pending) (end_le_deltaToThisSyncSlotEnd ?_)
      have h_rolled := Protocol.stepProtocol_start ProtocolEvent.noConfusion h_step
      refine Nat.le_trans (Nat.le_of_eq h_rolled) ?_
      rcases h_t with rfl | rfl <;> exact h_early
  | sent => exact mergesAfterSync_schedule h_pending (end_le_deltaToThisSyncSlotEnd h_start)
  | @listened p p₁ _ _ h_end h_fish h_next =>
      refine h_next.mergesAfterSync h_pending ?_
      show p₁.schedule.startTimeOfSyncPeriod + virtualSlotDuration ≤ e.now
      rw [Protocol.preFishing_schedule h_fish, Protocol.endListen_start h_end]
      exact h_after
  | @sentOver p _ _ h_fish h_next =>
      refine h_next.mergesAfterSync h_pending ?_
      show p.schedule.startTimeOfSyncPeriod + virtualSlotDuration ≤ e.now
      rw [Protocol.preFishing_schedule h_fish]
      exact h_after
  | pauses =>
      exact mergesAfterSync_schedule (t := .startSyncPeriodMaintain) (by exact h_pending) trivial
  | sends =>
      exact mergesAfterSync_of_waiting
        (schedule_pending_of_idle e .sendSync _ (by exact h_pending)) trivial
  | _ => exact absurd (by decide) h_free

theorem AgentStep.mergesAfterSync (h : AgentStep c e a ev a') (h_clock : a.clock ≤ e.now)
    (h_a : a.PeriodKept c) (h_after : a.MergesAfterSync) : a'.MergesAfterSync := by
  cases h with
  | @ran t x _ h_pending h_expired _ _ h_ran =>
      have h_waits := h_a.waiting t x h_pending
      refine h_ran.mergesAfterSync (dequeued_pending e t x h_pending)
        (Nat.le_trans h_waits.start h_clock) (notEarly_mono h_waits.notEarly h_expired) ?_
      have h_x := h_after t x h_pending
      cases t with
      | endSyncSlotListen => exact Nat.le_trans h_x h_expired
      | endSyncSlotSend => exact Nat.le_trans h_x h_expired
      | mergerStartAndEnd => exact Nat.le_trans h_x h_expired
      | _ => trivial
  | @heard packet handler x _ _ h_pending _ h_taken =>
      have h_x := h_after _ x h_pending
      refine mergesAfterSync_of_waiting (h_taken.pending.trans h_pending) ?_
      have h_heard : ∀ {msg : SyncMessage} {p : Protocol},
          stepProtocol c a.protocol e (hears handler msg) = .ok p →
            p.AfterSyncSlot (endOf handler) x := by
        intro msg p h_step
        cases handler with
        | syncSlot =>
            show p.schedule.startTimeOfSyncPeriod + virtualSlotDuration ≤ x
            rw [Protocol.stepProtocol_start ProtocolEvent.noConfusion h_step]
            exact h_x
        | fishSlot => trivial
      cases h_taken with
      | ignored => exact h_x
      | goesOn _ h_step => exact h_heard h_step
      | ends _ h_step => exact h_heard h_step
  | succeeded h_pending =>
      exact mergesAfterSync_schedule (t := .provisionEnd) (by exact h_pending) trivial
  | failed h_pending =>
      exact mergesAfterSync_schedule (t := .provisionEnd) (by exact h_pending) trivial

end Agent

theorem agentSystem_mergesAfterSync {c : Config} {a : Agent} (h : (agentSystem c).Reachable a) :
    a.MergesAfterSync := by
  have h_both : a.PeriodKept c ∧ a.MergesAfterSync := by
    refine Agent.invariant (fun a => a.PeriodKept c ∧ a.MergesAfterSync) h.guarded_true ?_ ?_
    · intro initTime loopTime _
      exact ⟨Agent.periodKept_boot initTime loopTime,
        Agent.mergesAfterSync_of_waiting (t := .startSyncPeriodMaintain) rfl trivial⟩
    · rintro a e ev a' ⟨h_a, h_after⟩ h_clock - - h_step
      exact ⟨h_step.periodKept h_clock h_a, h_step.mergesAfterSync h_clock h_a h_after⟩
  exact h_both.2

-- ============================================================================
-- The offset that is told, and the one that is stored
-- ============================================================================

section Offsets

variable {c : Config} {e : Env} {p : Protocol} {msg : SyncMessage}

theorem makeMergeMsg_offset (h : p.makeMergeMsg c e = .ok msg) :
    msg.deltaToNextSyncPoint.get = p.schedule.deltaNowToNextUnadjustedSyncPoint c.tm e.now := by
  unfold Protocol.makeMergeMsg at h
  obtain ⟨-, h⟩ := require_bind_eq_ok.1 h
  obtain ⟨d, h_d, rfl⟩ := bind_return_eq_ok.1 h
  exact Protocol.setDeltaToNextSyncPoint_eq_ok h_d

/-- A merger tells the time to its next sync point, which is nearer than a period
    by its sync slot. -/
theorem Agent.makeMergeMsg_tells {a : Agent} {x : Nat} (h : (agentSystem c).Reachable a)
    (h_en : (agentSystem c).enabled a (e, .timer .mergerStartAndEnd x))
    (h_next : e.now ≤ a.protocol.schedule.timeOfUnadjustedNextSyncPoint)
    (h_msg : a.protocol.makeMergeMsg c e = .ok msg) :
    e.now + msg.deltaToNextSyncPoint.get = a.protocol.schedule.timeOfUnadjustedNextSyncPoint ∧
      msg.deltaToNextSyncPoint.get + 50 ≤ 80000 := by
  obtain ⟨-, h_mem, h_expired⟩ := h_en
  have h_pending := (agentSystem_oneTask h.guarded_true).pending_eq h_mem
  have h_waits := (agentSystem_periodKept h).waiting _ _ h_pending
  have h_after : a.protocol.schedule.startTimeOfSyncPeriod + virtualSlotDuration ≤ x :=
    agentSystem_mergesAfterSync h _ _ h_pending
  have h_end : a.protocol.schedule.timeOfUnadjustedNextSyncPoint =
      a.protocol.schedule.startTimeOfSyncPeriod + normalSyncPeriodDuration :=
    (h_waits.bounds.resolve_right Task.noConfusion).unadjusted_eq
  rw [normalSyncPeriodDuration_eq] at h_end
  rw [virtualSlotDuration_eq] at h_after
  have h_run : x ≤ e.now := h_expired
  have h_add : e.now + a.protocol.schedule.deltaNowToNextUnadjustedSyncPoint c.tm e.now =
      max e.now a.protocol.schedule.timeOfUnadjustedNextSyncPoint :=
    c.tm.now_add_fromNow (by omega)
  rw [makeMergeMsg_offset h_msg]
  omega

/-- What a fisher stores of a message that arrives in its sync slot: the time from
    its sync point to the one that it was told of, or to the present. -/
theorem getFishingDeltaFromMergeMsg_eq (c : Config) (msg : SyncMessage)
    (h_start : p.schedule.startTimeOfSyncPeriod ≤ e.timeOfArrival)
    (h_toa : e.timeOfArrival ≤ e.now)
    (h_now : e.now ≤ p.schedule.startTimeOfSyncPeriod + virtualSlotDuration) :
    p.schedule.startTimeOfSyncPeriod + p.getFishingDeltaFromMergeMsg c e msg =
      max e.now (e.timeOfArrival + msg.deltaToNextSyncPoint.get) := by
  have h_delta := msg.deltaToNextSyncPoint.isValidValue
  rw [normalSyncPeriodDuration_eq] at h_delta
  rw [virtualSlotDuration_eq] at h_now
  have h_past : c.tm.clampedTimeDifferenceToNow e.now p.schedule.startTimeOfSyncPeriod =
      e.now - p.schedule.startTimeOfSyncPeriod := c.tm.clampedTimeDifference_eq (by omega)
  have h_future : c.tm.clampedTimeDifferenceFromNow e.now
      (e.timeOfArrival + msg.deltaToNextSyncPoint.get) =
        e.timeOfArrival + msg.deltaToNextSyncPoint.get - e.now := c.tm.fromNow_eq (by omega)
  unfold Protocol.getFishingDeltaFromMergeMsg Schedule.adjustedEventTimeFromMsg
    Schedule.deltaPastSyncPointToNow
  dsimp only
  rw [h_past, h_future]
  omega

end Offsets

-- ============================================================================
-- The sync points of the fisher
-- ============================================================================

namespace Agent

variable {c : Config} {e : Env} {a a' : Agent} {ev : AgentEvent} {t : Task}

theorem NonSyncScheduled.start (h : NonSyncScheduled c e a a') :
    a'.protocol.schedule.startTimeOfSyncPeriod = a.protocol.schedule.startTimeOfSyncPeriod := by
  have h_set := congrArg Schedule.startTimeOfSyncPeriod a.protocol.setStartAndEndTimes_eq.1
  cases h with
  | merges => split <;> rfl
  | fishesNear => exact h_set
  | fishesFar => exact h_set
  | _ => rfl

/-- A period starts where the one before it ends. -/
theorem TaskRan.start (h : TaskRan c e a t a') :
    a'.protocol.schedule.startTimeOfSyncPeriod = a.protocol.schedule.startTimeOfSyncPeriod ∨
      a'.protocol.schedule.startTimeOfSyncPeriod = a.protocol.schedule.endTimeOfSyncPeriod := by
  have h_kept : ∀ {p p' : Protocol} {event : ProtocolEvent}, event ≠ .rollPeriodForward →
      stepProtocol c p e event = .ok p' →
        p'.schedule.startTimeOfSyncPeriod = p.schedule.startTimeOfSyncPeriod :=
    fun h_ev h_step => Protocol.stepProtocol_start h_ev h_step
  cases h with
  | maintained _ _ h_book =>
      refine Or.inr (congrArg Schedule.endTimeOfSyncPeriod ?_)
      exact Protocol.bookkeepingAtPreludeToSyncSlot_schedule h_book
  | resumed _ _ h_book =>
      refine Or.inr (congrArg Schedule.endTimeOfSyncPeriod ?_)
      exact Protocol.bookkeepingAtPreludeToSyncSlot_schedule h_book
  | preludesSync h_book =>
      refine Or.inl (congrArg Schedule.startTimeOfSyncPeriod ?_)
      exact Protocol.bookkeepingAtPreludeToSyncSlot_schedule h_book
  | pauses => exact Or.inr rfl
  | sends _ _ _ _ _ _ h_step => exact Or.inr (h_kept ProtocolEvent.noConfusion h_step)
  | listens _ _ _ _ _ h_step => exact Or.inr (h_kept ProtocolEvent.noConfusion h_step)
  | @listened p p₁ _ _ h_end h_fish h_next =>
      refine Or.inl (h_next.start.trans ?_)
      show p₁.schedule.startTimeOfSyncPeriod = a.protocol.schedule.startTimeOfSyncPeriod
      rw [Protocol.preFishing_schedule h_fish, Protocol.endListen_start h_end]
  | @sentOver p _ _ h_fish h_next =>
      refine Or.inl (h_next.start.trans ?_)
      exact congrArg Schedule.startTimeOfSyncPeriod (Protocol.preFishing_schedule h_fish)
  | @fished p _ _ h_check h_next =>
      have h_step : stepProtocol c a.protocol e .checkFishingDone = .ok p := h_check
      rw [h_next.protocol]
      exact Or.inl (h_kept ProtocolEvent.noConfusion h_step)
  | @merged _ p _ _ h_sent h_next =>
      have h_step : stepProtocol c a.protocol e .mergeSyncSent = .ok p := h_sent
      rw [h_next.protocol]
      exact Or.inl (h_kept ProtocolEvent.noConfusion h_step)
  | failsToProvision _ _ h_next =>
      rw [h_next.protocol]
      exact Or.inl rfl
  | provisioned h_next =>
      rw [h_next.protocol]
      exact Or.inl rfl
  | _ => exact Or.inl rfl

theorem AgentStep.start (h : AgentStep c e a ev a') :
    a'.protocol.schedule.startTimeOfSyncPeriod = a.protocol.schedule.startTimeOfSyncPeriod ∨
      a'.protocol.schedule.startTimeOfSyncPeriod = a.protocol.schedule.endTimeOfSyncPeriod := by
  cases h with
  | ran _ _ _ _ h_ran => exact h_ran.start
  | @heard packet handler x _ _ _ _ h_taken =>
      cases h_taken with
      | ignored => exact Or.inl rfl
      | goesOn _ h_step =>
          exact Or.inl (Protocol.stepProtocol_start hears_ne_rollPeriodForward h_step)
      | ends _ h_step =>
          exact Or.inl (Protocol.stepProtocol_start hears_ne_rollPeriodForward h_step)
  | succeeded _ _ h_step =>
      exact Or.inl (Protocol.stepProtocol_start ProtocolEvent.noConfusion h_step)
  | failed => exact Or.inl rfl

end Agent

-- ============================================================================
-- The sessions of an episode
-- ============================================================================

/-- The episode of deep fishing goes on, in a period that has not been adjusted. -/
def GoesOnUnadjusted (w : Agent × Option FishSession) (_ : Env × AgentEvent) : Prop :=
  w.1.protocol.fishing.mode = .deepFishing ∧
    w.1.protocol.schedule.timeOfNextSyncPoint = w.1.protocol.schedule.timeOfUnadjustedNextSyncPoint

/-- A session that is deep, by the offset `d`, in a period that starts whole periods
    after `S`. -/
structure FishSession.OfEpisode (S d : Nat) (s : FishSession) : Prop where
  mode : s.protocol.fishing.mode = .deepFishing
  offset : s.offset = d
  start : ∃ k, s.timeOfThisSyncPoint = S + normalSyncPeriodDuration * k
  next : s.timeOfNextSyncPoint = s.timeOfThisSyncPoint + normalSyncPeriodDuration

/-- From the sync point to the end of the sync slot, which is later where the slot
    began late. -/
def FishSession.syncSlotDuration (s : FishSession) : Nat :=
  max virtualSlotDuration (s.endOfSyncSlot - s.timeOfThisSyncPoint)

/-- What holds since an episode began by the offset `d`, in the period from `S`. -/
structure DeepListens (S d : Nat) (a : Agent) (g : Option FishSession) : Prop where
  delta : a.protocol.fishing.mode = .deepFishing →
    a.protocol.fishing.deep.deltaSyncPointToSyncPointOfFishee = d
  start : ∃ k, a.protocol.schedule.startTimeOfSyncPeriod = S + normalSyncPeriodDuration * k
  session : ∀ x s, a.pending = [(.fishSlotEnd, x)] → g = some s → s.OfEpisode S d

section Episode

variable {c : Config} {e : Env} {a a' : Agent} {ev : AgentEvent} {g : Option FishSession}
  {S d : Nat}

/-- The offset is that of the episode as long as it goes on. -/
theorem Agent.DeepStep.delta (h : a.DeepStep c ev a')
    (h_was : a.protocol.fishing.mode = .deepFishing)
    (h_is : a'.protocol.fishing.mode = .deepFishing) :
    a'.protocol.fishing.deep.deltaSyncPointToSyncPointOfFishee =
      a.protocol.fishing.deep.deltaSyncPointToSyncPointOfFishee := by
  cases h with
  | kept _ _ _ h_same => rw [h_same.2]
  | began _ _ h_not => exact absurd (h_was.symm.trans h_not) (by decide)
  | planned _ _ _ _ h_deep => rw [h_deep, if_pos h_was]
  | started _ _ h_same => rw [h_same.2]
  | caught _ _ _ h_not => exact absurd (h_is.symm.trans h_not) (by decide)
  | ended _ _ h_check =>
      generalize a'.protocol = p at h_check h_is
      cases Protocol.checkFishingDone_checked h_check with
      | goesOn => rfl
      | finished => cases h_is

/-- The task that ends a session is scheduled by the one that starts it. -/
theorem Agent.SessionStep.of_fishSlotEnd {x : Nat} (h : a.SessionStep e a')
    (h_pending : a'.pending = [(.fishSlotEnd, x)]) :
    a.pending = [(.fishSlotEnd, x)] ∨ a.pending = [(.fishSlotStart, e.now)] := by
  cases h with
  | none h_phase =>
      rw [Agent.fishPhase_of_waiting h_pending] at h_phase
      cases h_phase
  | heard _ h_same => exact Or.inl (h_same.symm.trans h_pending)
  | plans _ _ _ _ _ h_next h_either =>
      rw [h_pending] at h_next
      cases h_next
      rcases h_either with ⟨h_t, -⟩ | ⟨h_t, -⟩ <;> cases h_t
  | preludes _ _ h_next =>
      rw [h_pending] at h_next
      cases h_next
  | fishes h_was => exact Or.inr h_was

/-- What holds of the episode is kept by every step of it. -/
theorem DeepListens.step (h : DeepListens S d a g) (h_bounds : a.protocol.schedule.InBounds)
    (h_on : GoesOnUnadjusted (a, g) (e, ev)) (h_g : FishSessionKept a g)
    (h_agent : Agent.AgentStep c e a ev a') (h_session : a.SessionStep e a') :
    DeepListens S d a' (noteFishSession a (e, ev) a' g) := by
  obtain ⟨h_mode, h_end⟩ := h_on
  obtain ⟨k, h_start⟩ := h.start
  have h_next : a.protocol.schedule.endTimeOfSyncPeriod =
      a.protocol.schedule.startTimeOfSyncPeriod + normalSyncPeriodDuration :=
    h_end.trans h_bounds.unadjusted_eq
  refine ⟨fun h_is => ?_, ?_, fun x s h_pending h_s => ?_⟩
  · rw [h_agent.deepStep.delta h_mode h_is]
    exact h.delta h_mode
  · rcases h_agent.start with h_same | h_rolled
    · exact ⟨k, h_same.trans h_start⟩
    · exact ⟨k + 1, by rw [h_rolled, h_next, h_start, Nat.mul_succ, Nat.add_assoc]⟩
  · have h_fishing := Agent.fishPhase_of_waiting h_pending
    rw [noteFishSession_of_kept (Or.inr (h_fishing.symm ▸ FishPhase.noConfusion))] at h_s
    rcases h_session.of_fishSlotEnd h_pending with h_was | h_was
    · exact h.session x s h_was h_s
    · -- the session has been planned in the present period
      obtain ⟨s', h_s', -, h_same, -⟩ := h_g _ _ h_was FishPhase.noConfusion
      rw [h_s] at h_s'
      cases h_s'
      have h_delta := h.delta h_mode
      rw [h_same] at h_mode h_start h_next h_delta
      refine ⟨h_mode, ?_, ⟨k, h_start⟩, h_next⟩
      simp only [FishSession.offset, h_mode, h_delta]

/-- A unit that fishes deeply has left the schedule of the loader. -/
theorem agentSystem_inBounds_of_deep (h : (agentSystem c).Reachable a)
    (h_mode : a.protocol.fishing.mode = .deepFishing) : a.protocol.schedule.InBounds := by
  refine agentSystem_protocol
    (P := fun p => p.fishing.mode = .deepFishing → p.schedule.InBounds) h ?_ ?_ h_mode
  · intro _ _ h_boot
    cases h_boot
  · exact fun _ h_reach _ => protocolSystem_inBounds h_reach

theorem fishSessionSystem_deepListens {w v : Agent × Option FishSession}
    (h : (fishSessionSystem c).Reachable w) (h_w : DeepListens S d w.1 w.2)
    (h_run : ((fishSessionSystem c).guarded GoesOnUnadjusted).Leads w v) :
    (fishSessionSystem c).Reachable v ∧ DeepListens S d v.1 v.2 := by
  have h_kept : ((fishSessionSystem c).guarded GoesOnUnadjusted).Preserves
      (fun v => (fishSessionSystem c).Reachable v ∧ DeepListens S d v.1 v.2) := by
    rintro ⟨a, g⟩ ⟨e, ev⟩ v' ⟨h_reach, h_a⟩ ⟨h_en, h_on⟩ h_next
    have h_watched : (fishSessionSystem c).step (a, g) (e, ev) = .ok v' := h_next
    obtain ⟨h_step, h_g'⟩ := System.watched_step_eq_ok.1 h_watched
    obtain ⟨⟨h_clock, h_possible⟩, h_time⟩ := h_en
    have h_timed := h_reach.unwatched
    have h_agent := Agent.stepAgent_step (agentSystem_oneTask h_timed) h_possible h_step
    have h_session := h_agent.sessionStep h_time h_clock (agentSystem_periodKept h_timed.of_guarded)
      (agentSystem_sessionAgrees h_timed.of_guarded)
    refine ⟨h_reach.next ⟨⟨h_clock, h_possible⟩, h_time⟩ h_watched, ?_⟩
    rw [h_g']
    exact h_a.step (agentSystem_inBounds_of_deep h_timed.of_guarded h_on.1) h_on
      (fishSessionSystem_kept h_reach) h_agent h_session
  exact h_kept.leads h_run ⟨h, h_w⟩

/-- A session of the episode hears what comes half a slot after the sync point that
    the unit was told of, or it comes in the unit's own sync slot. -/
theorem FishSession.OfEpisode.hears {s : FishSession} (h : s.OfEpisode S d)
    (h_planned : s.Planned) {now told : Nat} {latency : ℤ} (h_d : S + d = max now told)
    (h_told : S ≤ told) (h_period : told ≤ S + 80000) (h_now : now ≤ S + 50)
    (h_pos : 0 ≤ latency) (h_latency : latency ≤ 10) :
    InWindow normalSyncPeriodDuration s.syncSlotDuration S
        (told - latency + halfSlotDuration) ∨
      InWindow normalSyncPeriodDuration virtualSlotDuration s.startsAt
        (told - latency + halfSlotDuration) := by
  obtain ⟨k, h_start⟩ := h.start
  have h_next := h.next
  obtain ⟨-, h_memo, -⟩ := h_planned.deep h.mode
  rw [h.offset, h_next] at h_memo
  rw [normalSyncPeriodDuration_eq] at *
  have h_own : 50 ≤ s.syncSlotDuration := Nat.le_max_left _ _
  rcases lt_or_ge (told - latency + halfSlotDuration) ((S : ℤ) + 80000) with h_first | h_later
  · by_cases h_in : told - latency + halfSlotDuration ≤ (S : ℤ) + s.syncSlotDuration
    · left
      refine InWindow.of_mem ?_ h_in h_first
      rw [halfSlotDuration_eq]
      omega
    · -- after the sync slot: later than the offset, by less than a slot
      right
      rw [← InWindow.add_periods k]
      unfold FishSession.syncSlotDuration at h_in
      rw [FishSession.startsAt, h_memo]
      rw [virtualSlotDuration_eq] at h_in ⊢
      rw [halfSlotDuration_eq] at h_in h_first ⊢
      apply InWindow.of_mem <;> omega
  · -- in the sync slot of the next period
    left
    rw [← InWindow.add_periods (-1)]
    rw [halfSlotDuration_eq] at h_later ⊢
    apply InWindow.of_mem <;> omega

/-- An episode begins with the offset of the message, in the sync slot. -/
theorem Agent.AgentStep.beginsEpisode {packet : Option RadioBuffer} {msg : SyncMessage}
    (h : Agent.AgentStep c e a (.packet packet) a') (h_radio : a.radio = some .syncSlot)
    (h_packet : Agent.messageOf packet = some msg)
    (h_was : a.protocol.fishing.mode = .trolling)
    (h_is : a'.protocol.fishing.mode = .deepFishing) :
    DeepListens a.protocol.schedule.startTimeOfSyncPeriod
      (a.protocol.getFishingDeltaFromMergeMsg c e msg) a' g := by
  have h_start := h.start
  cases h with
  | @heard _ handler x _ h_handler h_pending _ h_taken =>
      rw [h_radio] at h_handler
      cases h_handler
      have h_next := h_taken.pending.trans h_pending
      have h_step : stepProtocol c a.protocol e (.hearInSyncSlot msg) = .ok a'.protocol := by
        cases h_taken with
        | ignored => exact absurd (h_was.symm.trans h_is) (by decide)
        | goesOn h_msg h_step =>
            cases h_packet.symm.trans h_msg
            exact h_step
        | ends h_msg h_step =>
            cases h_packet.symm.trans h_msg
            exact h_step
      have h_same := Protocol.stepProtocol_start ProtocolEvent.noConfusion h_step
      refine ⟨fun _ => ?_, ⟨0, h_same⟩, fun y s h_end => ?_⟩
      · rcases hearInSyncSlot_deep h_step with h_kept | ⟨-, -, callback, h_deep⟩
        · exact absurd (h_was.symm.trans (h_kept.1.symm.trans h_is)) (by decide)
        · rw [h_deep]
          rfl
      · rw [h_next] at h_end
        cases h_end

end Episode

-- ============================================================================
-- What the fisher hears
-- ============================================================================

/-- A merger transmits the offset to its next sync point `F`, and a unit that hears
    it in its sync slot, `δ` being its clock less the merger's, begins an episode of
    deep fishing.  In every run from there on in which the episode goes on and the
    unit's period is not adjusted, in each period in which it fishes after a sync
    slot that ends on time: a sync that arrives half a slot after `F`, or any
    number of periods later, arrives in the unit's own sync slot or in the slot in
    which it listens. -/
theorem deep_fishing_hears_sync {cM c : Config} {m : Agent} {eM : Env} {y F : Nat} {δ : ℤ}
    {msg heard : SyncMessage}
    (h_m : (agentSystem cM).Reachable m)
    (h_sends : (agentSystem cM).enabled m (eM, .timer .mergerStartAndEnd y))
    (h_msg : m.protocol.makeMergeMsg cM eM = .ok msg)
    (h_F : m.protocol.schedule.timeOfUnadjustedNextSyncPoint = F) (h_next : eM.now ≤ F)
    {w w' v : Agent × Option FishSession} {e : Env} {packet : Option RadioBuffer}
    (h_w : (fishSessionSystem c).Reachable w)
    (h_en : (fishSessionSystem c).enabled w (e, .packet packet))
    (h_radio : w.1.radio = some .syncSlot) (h_packet : Agent.messageOf packet = some heard)
    (h_offset : heard.deltaToNextSyncPoint = msg.deltaToNextSyncPoint)
    (h_toa : (e.timeOfArrival : ℤ) = eM.now + sendLatency cM.platform + δ)
    (h_now : e.now ≤ w.1.protocol.schedule.startTimeOfSyncPeriod + virtualSlotDuration)
    (h_step : (fishSessionSystem c).step w (e, .packet packet) = .ok w')
    (h_was : w.1.protocol.fishing.mode = .trolling)
    (h_is : w'.1.protocol.fishing.mode = .deepFishing)
    (h_run : ((fishSessionSystem c).guarded GoesOnUnadjusted).Leads w' v)
    {x : Nat} (h_fishes : v.1.pending = [(.fishSlotEnd, x)]) {s : FishSession}
    (h_s : v.2 = some s) :
    InWindow normalSyncPeriodDuration s.syncSlotDuration
        w.1.protocol.schedule.startTimeOfSyncPeriod (F + δ + halfSlotDuration) ∨
      InWindow normalSyncPeriodDuration virtualSlotDuration
        (x - virtualSlotDuration) (F + δ + halfSlotDuration) := by
  obtain ⟨h_told, h_near⟩ := Agent.makeMergeMsg_tells h_m h_sends (h_F ▸ h_next) h_msg
  obtain ⟨h_begin, h_g⟩ := System.watched_step_eq_ok.1 h_step
  have h_reach := h_w.next h_en h_step
  have h_possible : (AgentEvent.packet packet).Possible w.1 e := h_en.1.2
  have h_agent := Agent.stepAgent_step (agentSystem_oneTask h_w.unwatched) h_possible h_begin
  obtain ⟨-, h_start, h_arrived⟩ := h_possible
  have h_stored := getFishingDeltaFromMergeMsg_eq c heard h_start h_arrived h_now
  have h_listens := h_agent.beginsEpisode (g := w'.2) h_radio h_packet h_was h_is
  obtain ⟨h_v, h_listens⟩ := fishSessionSystem_deepListens h_reach h_listens h_run
  -- the session that is fished
  obtain ⟨s', h_s', h_planned, h_due⟩ :=
    fishSessionSystem_kept h_v _ _ h_fishes FishPhase.noConfusion
  rw [h_s] at h_s'
  cases h_s'
  have h_episode := h_listens.session x s h_fishes h_s
  have h_x : x = s.startsAt + s.duration := h_due
  have h_duration := (h_planned.deep h_episode.mode).1
  have h_sync : (F : ℤ) + δ + halfSlotDuration =
      (e.timeOfArrival + msg.deltaToNextSyncPoint.get : ℕ) - sendLatency cM.platform +
        halfSlotDuration := by
    omega
  have h_listening : (x : ℤ) - virtualSlotDuration = s.startsAt := by
    rw [h_x, h_duration, virtualSlotDuration_eq]
    omega
  have h_lat := sendLatency_le cM.platform
  rw [virtualSlotDuration_eq] at h_now
  rw [h_offset] at h_stored
  rw [h_sync, h_listening]
  exact h_episode.hears h_planned h_stored (by omega) (by omega) h_now (by omega) (by omega)

-- ============================================================================
-- An episode of the clique of three
-- ============================================================================

/-- What unit three, whose next sync point is at 240000, tells clique nine at 160160. -/
def enticedByThree : SyncMessage :=
  { masterSyncFrom 3 (.ofTicks 79840) with type := .mergeOther, work := 9 }

instance (w : Agent × Option FishSession) (l : Env × AgentEvent) :
    Decidable (GoesOnUnadjusted w l) :=
  inferInstanceAs (Decidable (_ ∧ _))

instance (c : Config) (w : Agent × Option FishSession) (l : Env × AgentEvent) :
    Decidable (((fishSessionSystem c).guarded GoesOnUnadjusted).enabled w l) :=
  inferInstanceAs (Decidable (_ ∧ _))

/-- Unit five, whose clock is behind by 80145, hears it at 80025 as a departing
    slave's, fishes, hears nothing and fishes again in the next period, from 239865
    to 239915: a sync would be there at 239880. -/
theorem deep_fishing_hears_sync_enticedByThree :
    ∃ w w' v s, (fishSessionSystem unitFive).Reachable w ∧
      (fishSessionSystem unitFive).step w (arrives 80025 enticedByThree) = .ok w' ∧
      ((fishSessionSystem unitFive).guarded GoesOnUnadjusted).Leads w' v ∧
      v.1.pending = [(.fishSlotEnd, 239915)] ∧ v.2 = some s ∧
      ¬ InWindow normalSyncPeriodDuration s.syncSlotDuration (80000 : ℕ)
        ((240000 : ℕ) + -80145 + halfSlotDuration) ∧
      InWindow normalSyncPeriodDuration virtualSlotDuration
        ((239915 : ℕ) - virtualSlotDuration) ((240000 : ℕ) + -80145 + halfSlotDuration) := by
  obtain ⟨m, h_m, h_sends, h_msg, h_F⟩ :=
    System.Reachable.exists_of_play (M := agentSystem unitThree)
      (P := fun m => (agentSystem unitThree).enabled m (onTime .mergerStartAndEnd 160160) ∧
        m.protocol.makeMergeMsg unitThree (Env.quiet 160160) = .ok enticedByThree ∧
        m.protocol.schedule.timeOfUnadjustedNextSyncPoint = 240000)
      (catchesNine ++
        [({ Env.quiet 160050 with mergeCoinToss := true }, .timer .endSyncSlotListen 160050)])
      ⟨0, 0, Nat.le_refl 0, rfl⟩ (by decide +kernel)
  obtain ⟨w, w', h_w, h_en, h_step, h_radio, h_start, h_was, h_is, v, h_play, h_fishes, s, h_s,
      h_not⟩ :=
    System.Reachable.exists_step_of_play (M := fishSessionSystem unitFive)
      (P := fun w w' => w.1.radio = some .syncSlot ∧
        w.1.protocol.schedule.startTimeOfSyncPeriod = 80000 ∧
        w.1.protocol.fishing.mode = .trolling ∧ w'.1.protocol.fishing.mode = .deepFishing ∧
        ∃ v ∈ ((fishSessionSystem unitFive).guarded GoesOnUnadjusted).play w'
          [onTime .endSyncSlotListen 80050,
            onTime .theRadioPreludeTaskWFish 159815,
            onTime .fishSlotStart 159865,
            onTime .fishSlotEnd 159915,
            onTime .theRadioPreludeTaskWSync 159950,
            onTime .startSyncSlotAfterPrelude 160000,
            onTime .endSyncSlotListen 160050,
            onTime .theRadioPreludeTaskWFish 239815,
            onTime .fishSlotStart 239865],
          v.1.pending = [(.fishSlotEnd, 239915)] ∧ ∃ s ∈ v.2,
            ¬ InWindow normalSyncPeriodDuration s.syncSlotDuration (80000 : ℕ)
              ((240000 : ℕ) + -80145 + halfSlotDuration))
      [onTime .startSyncPeriodMaintain 0,
        onTime .theRadioPreludeTaskWSync 79950,
        onTime .startSyncSlotAfterPrelude 80000]
      (arrives 80025 enticedByThree) bootedFive_session_init (by decide +kernel)
  have h_heard : Agent.messageOf (some (bufferOf enticedByThree)) =
      some { enticedByThree with type := .mergeMySlaveDepart } := by
    decide +kernel
  have h_toa : ((80025 : ℕ) : ℤ) =
      (160160 : ℕ) + sendLatency unitThree.platform + (-80145 : ℤ) := by
    decide
  have h_run := System.play_leads h_play
  have h_hears := deep_fishing_hears_sync h_m h_sends h_msg h_F (by decide) h_w h_en h_radio
    h_heard rfl h_toa (by rw [h_start]; decide) h_step h_was h_is h_run h_fishes h_s
  rw [h_start] at h_hears
  exact ⟨w, w', v, s, h_w, h_step, h_run, h_fishes, h_s, h_not, h_hears.resolve_left h_not⟩

end SleepSync
