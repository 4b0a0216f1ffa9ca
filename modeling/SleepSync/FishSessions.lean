/-
  SleepSync.FishSessions

  A fish session, from the end of the sync slot in which it is planned to the task
  that ends it.

  The schedule of the session has its end, clamped to the end of the period.  But
  the task that ends the session is scheduled where the session starts, for the
  session's nominal duration from then on, and does not ask for that end.  The two
  are the same time where the nominal session fits into what is left of its
  period: where it starts when it should, and, if fishing is deep, where the
  offset it was given leaves a slot before the next sync point.  A trolling
  session of a sync slot that ends on time always is one; a deep one with an
  offset near the end of the period, or after it, runs into the next sync slot.

  The timer is exact here, as it is for the hand-over from task to task.
-/

import SleepSync.DeepEpisode
import SleepSync.HandOver
import SleepSync.Trolling

namespace SleepSync

open Lib ScheduleParameters FishingParameters

-- ============================================================================
-- The end that is set for a session
-- ============================================================================

namespace Protocol

theorem setStartAndEndTimes_duration (p : Protocol) :
    p.setStartAndEndTimes.fishing.getFishSessionDurationTicks =
      p.fishing.getFishSessionDurationTicks := by
  obtain ⟨-, h_mode, h_session, -⟩ := p.setStartAndEndTimes_eq
  simp only [Fishing.getFishSessionDurationTicks, h_mode, h_session]

/-- The end is clamped like the start. -/
theorem setStartAndEndTimes_end (p : Protocol) :
    p.setStartAndEndTimes.fishing.memoEndTimeOfFishSlot =
      min (p.fishStart + p.fishing.getFishSessionDurationTicks)
        p.schedule.endTimeOfSyncPeriod := by
  have h_clamp := fun t => Schedule.clampTimeBeforeLatestSlotMark_eq p.schedule t
  unfold setStartAndEndTimes Fishing.setStartAndEndTimes Fishing.getStartTimeToFish
    Fishing.getFishSessionDurationTicks fishStart
  cases h_mode : p.fishing.mode with
  | trolling => simp only [h_clamp, h_mode, TrollingPolicy.getStartTimeToFish,
      virtualSlotDuration_eq]
  | deepFishing => simp only [h_clamp, DeepFishingPolicy.getStartTimeToFish]

end Protocol

-- ============================================================================
-- Sessions
-- ============================================================================

/-- A session that is planned, and the unit with the session's times set. -/
structure FishSession where
  endOfSyncSlot : Nat
  protocol : Protocol

namespace FishSession

variable (s : FishSession)

/-- Where the session should start, from the sync point. -/
def offset : Nat :=
  match s.protocol.fishing.mode with
  | .trolling => (s.protocol.fishing.troll.currentStartSlotOrdinal - 1) * virtualSlotDuration
  | .deepFishing => s.protocol.fishing.deep.deltaSyncPointToSyncPointOfFishee

def duration : Nat := s.protocol.fishing.getFishSessionDurationTicks

/-- `FishSchedule::timeOfFishSessionEnd` -/
def timeOfFishSessionEnd : Nat := s.protocol.fishing.memoEndTimeOfFishSlot

def timeOfThisSyncPoint : Nat := s.protocol.schedule.startTimeOfSyncPeriod

def timeOfNextSyncPoint : Nat := s.protocol.schedule.timeOfNextSyncPoint

/-- The timeout for the start is clamped where the time for it is over. -/
def startsAt : Nat := max s.endOfSyncSlot s.protocol.fishing.memoStartTimeOfFishSlot

/-- How the unit was when the times were set. -/
def Planned : Prop :=
  ∃ p : Protocol, p.schedule.InBounds ∧ p.fishing.SessionAgrees ∧ p.fishing.SessionFits ∧
    s.protocol = p.setStartAndEndTimes

/-- The task of a session that is pending will run at its time. -/
def Due (p : Protocol) (t : Task) (x : Nat) : Prop :=
  match t with
  | .theRadioPreludeTaskWFish => p = s.protocol ∧ x + virtualSlotDuration = s.startsAt
  | .fishSlotStart => p = s.protocol ∧ x = s.startsAt
  | .fishSlotEnd => x = s.startsAt + s.duration
  | _ => True

/-- The nominal session fits into its period: it can start when it should, and a
    deep one ends before the next sync point. -/
def Fits : Prop :=
  s.endOfSyncSlot ≤ s.timeOfThisSyncPoint + s.offset ∧
    (s.protocol.fishing.mode = .deepFishing →
      s.offset + deepFishSessionDurationTicks ≤ s.timeOfNextSyncPoint - s.timeOfThisSyncPoint)

variable {s}

theorem Planned.trolling (h : s.Planned) (h_mode : s.protocol.fishing.mode = .trolling) :
    ∃ first last, s.offset = first * 50 ∧ s.duration + first * 50 = last * 50 ∧ 1 ≤ first ∧
      last ≤ 1600 ∧
      s.protocol.fishing.memoStartTimeOfFishSlot = s.timeOfThisSyncPoint + first * 50 ∧
      s.timeOfFishSessionEnd =
        min (s.timeOfThisSyncPoint + first * 50 + s.duration) s.timeOfNextSyncPoint := by
  obtain ⟨p, h_bounds, ⟨h_ticks, h_pos⟩, h_fits, h_p⟩ := h
  obtain ⟨h_schedule, h_mode', h_session, h_troll, h_memo⟩ := p.setStartAndEndTimes_eq
  rw [h_p, h_mode'] at h_mode
  obtain ⟨h_lo, h_last, h_hi⟩ := h_fits h_mode
  have h_start := Protocol.fishStart_of_trolling h_bounds h_fits h_pos h_mode
  have h_duration : p.fishing.getFishSessionDurationTicks = p.fishing.session.durationInTicks := by
    simp only [Fishing.getFishSessionDurationTicks, h_mode]
  refine ⟨p.fishing.troll.currentStartSlotOrdinal - 1, p.fishing.troll.currentEndSlotOrdinal,
    ?_, ?_, by omega, h_hi, ?_, ?_⟩
  · simp only [offset, h_p, h_mode', h_mode, h_troll, virtualSlotDuration_eq]
  · simp only [duration, h_p, p.setStartAndEndTimes_duration, h_duration]
    omega
  · simp only [timeOfThisSyncPoint, h_p, h_memo, h_schedule, h_start]
  · simp only [timeOfFishSessionEnd, duration, timeOfThisSyncPoint, timeOfNextSyncPoint, h_p,
      p.setStartAndEndTimes_end, p.setStartAndEndTimes_duration, h_schedule, h_start]
    rfl

theorem Planned.deep (h : s.Planned) (h_mode : s.protocol.fishing.mode = .deepFishing) :
    s.duration = 50 ∧
      s.protocol.fishing.memoStartTimeOfFishSlot =
        min (s.timeOfThisSyncPoint + s.offset) s.timeOfNextSyncPoint ∧
      s.timeOfFishSessionEnd =
        min (s.protocol.fishing.memoStartTimeOfFishSlot + 50) s.timeOfNextSyncPoint := by
  obtain ⟨p, -, -, -, h_p⟩ := h
  obtain ⟨h_schedule, h_mode', -, -, h_memo⟩ := p.setStartAndEndTimes_eq
  obtain ⟨-, h_deep⟩ := setStartAndEndTimes_deep p
  rw [h_p, h_mode'] at h_mode
  rw [if_pos h_mode] at h_deep
  have h_duration : p.fishing.getFishSessionDurationTicks = 50 := by
    simp only [Fishing.getFishSessionDurationTicks, h_mode]
    rfl
  refine ⟨?_, ?_, ?_⟩
  · simp only [duration, h_p, p.setStartAndEndTimes_duration, h_duration]
  · simp only [offset, timeOfThisSyncPoint, timeOfNextSyncPoint, h_p, h_memo, h_schedule, h_mode',
      h_mode, h_deep, Protocol.fishStart]
    rfl
  · simp only [timeOfFishSessionEnd, timeOfNextSyncPoint, h_p, p.setStartAndEndTimes_end, h_memo,
      h_duration, h_schedule]
    rfl

theorem Planned.end_ge (h : s.Planned) :
    s.timeOfThisSyncPoint + 80000 ≤ s.timeOfNextSyncPoint := by
  obtain ⟨p, h_bounds, -, -, h_p⟩ := h
  obtain ⟨h_schedule, -⟩ := p.setStartAndEndTimes_eq
  simp only [timeOfThisSyncPoint, timeOfNextSyncPoint, Schedule.timeOfNextSyncPoint, h_p,
    h_schedule]
  exact h_bounds.end_ge

/-- The task that ends a session runs at the session's end, in the period, exactly
    if the nominal session fits. -/
theorem Planned.ends_iff (h : s.Planned) :
    (s.startsAt + s.duration ≤ s.timeOfNextSyncPoint ∧
        s.startsAt + s.duration = s.timeOfFishSessionEnd) ↔ s.Fits := by
  have h_end := h.end_ge
  unfold startsAt Fits
  cases h_mode : s.protocol.fishing.mode with
  | trolling =>
      obtain ⟨first, last, h_offset, h_duration, -, h_last, h_start, h_set⟩ := h.trolling h_mode
      rw [h_offset, h_start, h_set]
      simp only [reduceCtorEq, false_implies, and_true]
      omega
  | deepFishing =>
      obtain ⟨h_duration, h_start, h_set⟩ := h.deep h_mode
      rw [h_set, h_start, h_duration]
      simp only [true_implies, deepFishSessionDurationTicks, virtualSlotDuration_eq]
      omega

/-- It runs in the period if there is time for it after the sync slot, too. -/
theorem Planned.inPeriod_iff (h : s.Planned) :
    s.startsAt + s.duration ≤ s.timeOfNextSyncPoint ↔
      s.endOfSyncSlot + s.duration ≤ s.timeOfNextSyncPoint ∧
        (s.protocol.fishing.mode = .deepFishing →
          s.offset + deepFishSessionDurationTicks ≤
            s.timeOfNextSyncPoint - s.timeOfThisSyncPoint) := by
  have h_end := h.end_ge
  unfold startsAt
  cases h_mode : s.protocol.fishing.mode with
  | trolling =>
      obtain ⟨first, last, -, h_duration, -, h_last, h_start, -⟩ := h.trolling h_mode
      rw [h_start]
      simp only [reduceCtorEq, false_implies, and_true]
      omega
  | deepFishing =>
      obtain ⟨h_duration, h_start, -⟩ := h.deep h_mode
      rw [h_start, h_duration]
      simp only [true_implies, deepFishSessionDurationTicks, virtualSlotDuration_eq]
      omega

/-- No trolling session of a sync slot that has ended on time is too long. -/
theorem Planned.fits_of_trolling (h : s.Planned)
    (h_mode : s.protocol.fishing.mode = .trolling)
    (h_time : s.endOfSyncSlot ≤ s.timeOfThisSyncPoint + virtualSlotDuration) : s.Fits := by
  obtain ⟨first, -, h_offset, -, h_first, -⟩ := h.trolling h_mode
  rw [virtualSlotDuration_eq] at h_time
  refine ⟨by omega, fun h_deep => ?_⟩
  rw [h_mode] at h_deep
  cases h_deep

end FishSession

-- ============================================================================
-- What steps do to a session
-- ============================================================================

namespace Agent

variable (e : Env) (a : Agent)

/-- What an event of the task machine does to the session that is planned or fished. -/
inductive SessionStep : Agent → Prop
  | none {a' : Agent} (h_phase : a'.fishPhase = .none) : SessionStep a'
  | heard {a' : Agent} (h_phase : a.fishPhase ≠ .planned) (h_pending : a'.pending = a.pending) :
      SessionStep a'
  | plans {p : Protocol} {t : Task} {x : Nat} {a' : Agent} (h_phase : a.fishPhase = .none)
      (h_bounds : p.schedule.InBounds) (h_agrees : p.fishing.SessionAgrees)
      (h_fits : p.fishing.SessionFits) (h_protocol : a'.protocol = p.setStartAndEndTimes)
      (h_pending : a'.pending = [(t, x)])
      (h_next : (t = .fishSlotStart ∧ x = max e.now p.fishStart) ∨
        (t = .theRadioPreludeTaskWFish ∧ x + virtualSlotDuration = max e.now p.fishStart)) :
      SessionStep a'
  | preludes {a' : Agent} (h_was : a.pending = [(.theRadioPreludeTaskWFish, e.now)])
      (h_protocol : a'.protocol = a.protocol)
      (h_pending : a'.pending = [(.fishSlotStart, e.now + virtualSlotDuration)]) :
      SessionStep a'
  | fishes {a' : Agent} (h_was : a.pending = [(.fishSlotStart, e.now)])
      (h_pending : a'.pending =
        [(.fishSlotEnd, e.now + a.protocol.fishing.getFishSessionDurationTicks)]) :
      SessionStep a'

variable {c : Config} {e : Env} {a a' : Agent} {ev : AgentEvent}

theorem NonSyncScheduled.sessionStep {b : Agent} (h : NonSyncScheduled c e b a')
    (h_pending : b.pending = []) (h_phase : a.fishPhase = .none)
    (h_bounds : b.protocol.schedule.InBounds)
    (h_start : b.protocol.schedule.startTimeOfSyncPeriod ≤ e.now)
    (h_agrees : b.protocol.fishing.SessionAgrees) (h_fits : b.protocol.fishing.SessionFits) :
    SessionStep e a a' := by
  have h_wait := now_add_deltaToFishSessionStart (c := c) h_bounds h_start
  cases h with
  | omits => exact SessionStep.none (fishPhase_schedule (a := b.undo) h_pending _ _)
  | merges =>
      refine SessionStep.none ?_
      apply fishPhase_schedule
      split <;> exact h_pending
  | fishesNear =>
      exact SessionStep.plans h_phase h_bounds h_agrees h_fits rfl
        (schedule_pending_of_idle _ _ _ (by exact h_pending)) (Or.inl ⟨rfl, h_wait⟩)
  | fishesFar _ _ _ h_left =>
      refine SessionStep.plans h_phase h_bounds h_agrees h_fits rfl
        (schedule_pending_of_idle _ _ _ (by exact h_pending)) (Or.inr ⟨rfl, ?_⟩)
      rw [← h_wait]
      omega
  | provisions => exact SessionStep.none (fishPhase_schedule h_pending _ _)
  | stalls => exact SessionStep.none (fishPhase_of_idle h_pending)

theorem TaskRan.sessionStep {t : Task} (h_pending : a.pending = [(t, e.now)])
    (h : TaskRan c e (a.dequeued e t e.now) t a') (h_clock : a.clock ≤ e.now)
    (h_waits : PeriodWaits c a t e.now) (h_agrees : a.protocol.fishing.SessionAgrees) :
    SessionStep e a a' := by
  have h_idle := dequeued_pending e t e.now h_pending
  have h_phase := fishPhase_of_waiting h_pending
  have h_start := Nat.le_trans h_waits.start h_clock
  have h_in : t ≠ .startSyncPeriodMaintain → a.protocol.schedule.InBounds :=
    fun h_t => h_waits.bounds.resolve_right h_t
  by_cases h_quiet : ∀ k ∈ t.next, k.fishPhase = .none
  · exact SessionStep.none (fishPhase_of_awaits (h.awaits h_idle) h_quiet)
  cases h with
  | preludesFish =>
      exact SessionStep.preludes h_pending rfl (schedule_pending_of_idle _ _ _ h_idle)
  | @listened p p₁ _ _ h_end h_fish h_next =>
      have h_chosen := sessionChosen_of_listened h_end h_fish (h_in Task.noConfusion) h_agrees
      refine h_next.sessionStep h_idle h_phase h_chosen.bounds ?_ h_chosen.session h_chosen.fits
      show p₁.schedule.startTimeOfSyncPeriod ≤ e.now
      rw [h_chosen.start]
      exact h_start
  | @sentOver p _ _ h_fish h_next =>
      have h_chosen := sessionChosen_of_sent h_fish (h_in Task.noConfusion) h_agrees
      refine h_next.sessionStep h_idle h_phase h_chosen.bounds ?_ h_chosen.session h_chosen.fits
      show p.schedule.startTimeOfSyncPeriod ≤ e.now
      rw [h_chosen.start]
      exact h_start
  | fishes =>
      exact SessionStep.fishes h_pending (schedule_pending_of_idle _ .fishSlotEnd _ h_idle)
  | pauses h_t => rcases h_t with rfl | rfl <;> exact absurd (by decide) h_quiet
  | sends h_t => rcases h_t with rfl | rfl <;> exact absurd (by decide) h_quiet
  | listens h_t => rcases h_t with rfl | rfl <;> exact absurd (by decide) h_quiet
  | _ => exact absurd (by decide) h_quiet

theorem AgentStep.sessionStep (h : AgentStep c e a ev a') (h_time : a.OnTime (e, ev))
    (h_clock : a.clock ≤ e.now) (h_a : a.PeriodKept c)
    (h_agrees : a.protocol.fishing.SessionAgrees) : SessionStep e a a' := by
  cases h with
  | @ran t x _ h_pending _ _ _ h_ran =>
      obtain rfl : e.now = x := h_time
      exact h_ran.sessionStep h_pending h_clock (h_a.waiting _ _ h_pending) h_agrees
  | @heard packet handler x _ _ h_pending _ h_taken =>
      refine SessionStep.heard ?_ h_taken.pending
      rw [fishPhase_of_waiting h_pending]
      cases handler <;> exact FishPhase.noConfusion
  | @succeeded provision p h_pending =>
      exact SessionStep.none (fishPhase_schedule (by exact h_pending) .provisionEnd _)
  | failed h_pending =>
      exact SessionStep.none (fishPhase_schedule (by exact h_pending) .provisionEnd _)

end Agent

-- ============================================================================
-- What is remembered of a session
-- ============================================================================

/-- A session is noted where it is planned. -/
def noteFishSession (a : Agent) (l : Env × AgentEvent) (a' : Agent) (g : Option FishSession) :
    Option FishSession :=
  if a.fishPhase = .none ∧ a'.fishPhase = .planned then some ⟨l.1.now, a'.protocol⟩ else g

/-- A unit with an exact timer, and its present or last session. -/
def fishSessionSystem (c : Config) :
    System (Agent × Option FishSession) (Env × AgentEvent) TaskFault :=
  ((agentSystem c).guarded Agent.OnTime).watched none noteFishSession

/-- Every task of a session that is pending is due at its time. -/
def FishSessionKept (a : Agent) (g : Option FishSession) : Prop :=
  ∀ t x, a.pending = [(t, x)] → t.fishPhase ≠ .none →
    ∃ s, g = some s ∧ s.Planned ∧ s.Due a.protocol t x

section Runs

variable {c : Config} {e : Env} {a a' : Agent} {ev : AgentEvent} {g : Option FishSession}

theorem noteFishSession_of_kept (h : a.fishPhase ≠ .none ∨ a'.fishPhase ≠ .planned) :
    noteFishSession a (e, ev) a' g = g := by
  refine if_neg ?_
  rintro ⟨h_none, h_planned⟩
  rcases h with h | h
  · exact h h_none
  · exact h h_planned

theorem FishSessionKept.of_waiting {t : Task} {x : Nat} {s : FishSession}
    (h_pending : a.pending = [(t, x)]) (h_planned : s.Planned) (h_due : s.Due a.protocol t x) :
    FishSessionKept a (some s) := by
  intro t' x' h_pending' _
  rw [h_pending] at h_pending'
  cases h_pending'
  exact ⟨s, rfl, h_planned, h_due⟩

/-- Each task of a session schedules the next for its time. -/
theorem FishSessionKept.step (h : FishSessionKept a g) (h_step : a.SessionStep e a') :
    FishSessionKept a' (noteFishSession a (e, ev) a' g) := by
  cases h_step with
  | none h_phase =>
      intro t x h_pending h_t
      rw [Agent.fishPhase_of_waiting h_pending] at h_phase
      exact absurd h_phase h_t
  | heard h_phase h_same =>
      have h_phase' : a'.fishPhase = a.fishPhase := by
        unfold Agent.fishPhase
        rw [h_same]
      rw [noteFishSession_of_kept (Or.inr (h_phase'.symm ▸ h_phase))]
      intro t x h_pending h_t
      rw [h_same] at h_pending
      obtain ⟨s, h_s, h_planned, h_due⟩ := h t x h_pending h_t
      refine ⟨s, h_s, h_planned, ?_⟩
      rw [Agent.fishPhase_of_waiting h_pending] at h_phase
      -- only the end of the slot waits while the radio is on
      cases t with
      | theRadioPreludeTaskWFish => exact absurd rfl h_phase
      | fishSlotStart => exact absurd rfl h_phase
      | fishSlotEnd => exact h_due
      | _ => trivial
  | @plans p t x _ h_phase h_bounds h_agrees h_fits h_protocol h_pending h_next =>
      have h_phase' : a'.fishPhase = .planned := by
        rw [Agent.fishPhase_of_waiting h_pending]
        rcases h_next with ⟨rfl, -⟩ | ⟨rfl, -⟩ <;> rfl
      have h_memo : p.setStartAndEndTimes.fishing.memoStartTimeOfFishSlot = p.fishStart :=
        p.setStartAndEndTimes_eq.2.2.2.2
      rw [noteFishSession, if_pos ⟨h_phase, h_phase'⟩]
      refine FishSessionKept.of_waiting h_pending ⟨p, h_bounds, h_agrees, h_fits, h_protocol⟩ ?_
      rcases h_next with ⟨rfl, h_x⟩ | ⟨rfl, h_x⟩
      · refine ⟨rfl, ?_⟩
        simp only [FishSession.startsAt, h_protocol, h_memo, h_x]
      · refine ⟨rfl, ?_⟩
        simp only [FishSession.startsAt, h_protocol, h_memo, h_x]
  | preludes h_was h_protocol h_pending =>
      have h_phase := Agent.fishPhase_of_waiting h_was
      obtain ⟨s, rfl, h_planned, h_same, h_x⟩ := h _ _ h_was FishPhase.noConfusion
      rw [noteFishSession_of_kept (Or.inl (h_phase.symm ▸ FishPhase.noConfusion))]
      exact FishSessionKept.of_waiting h_pending h_planned ⟨h_protocol.trans h_same, h_x⟩
  | fishes h_was h_pending =>
      have h_phase := Agent.fishPhase_of_waiting h_was
      obtain ⟨s, rfl, h_planned, h_same, h_x⟩ := h _ _ h_was FishPhase.noConfusion
      rw [noteFishSession_of_kept (Or.inl (h_phase.symm ▸ FishPhase.noConfusion))]
      refine FishSessionKept.of_waiting h_pending h_planned ?_
      simp only [FishSession.Due, FishSession.duration, h_same, h_x]

theorem agentSystem_sessionAgrees (h : (agentSystem c).Reachable a) :
    a.protocol.fishing.SessionAgrees := by
  refine agentSystem_protocol (P := fun p => p.fishing.SessionAgrees) h ?_ ?_
  · exact fun _ _ => ⟨rfl, Nat.le_refl 1⟩
  · exact fun _ h_reach => (protocolSystem_trolls h_reach).agrees

theorem fishSessionSystem_kept {w : Agent × Option FishSession}
    (h : (fishSessionSystem c).Reachable w) : FishSessionKept w.1 w.2 := by
  refine System.Reachable.watched_invariant FishSessionKept h.guarded_true ?_ ?_
  · rintro a ⟨initTime, loopTime, -, rfl⟩ t x h_pending h_t
    cases h_pending
    exact absurd rfl h_t
  · rintro a g ⟨e, ev⟩ a' h_a h_g ⟨h_en, h_time⟩ - h_step
    have h_agent := Agent.stepAgent_step (agentSystem_oneTask h_a) h_en.2 h_step
    exact h_g.step (h_agent.sessionStep h_time h_en.1 (agentSystem_periodKept h_a.of_guarded)
      (agentSystem_sessionAgrees h_a.of_guarded))

/-- In every run with an exact timer, each session that ends is one that was
    planned, and the task that ends it runs no later than the next sync point of
    the session's period, and at the end that was set for the session, exactly if
    the nominal session fits into the period.  A trolling session planned at the
    end of a sync slot that was on time always does. -/
theorem fish_session_end_iff {w : Agent × Option FishSession}
    (h : (fishSessionSystem c).Reachable w) {x : Nat}
    (h_en : (fishSessionSystem c).enabled w (e, .timer .fishSlotEnd x)) :
    ∃ s, w.2 = some s ∧
      ((e.now ≤ s.timeOfNextSyncPoint ∧ e.now = s.timeOfFishSessionEnd) ↔ s.Fits) ∧
      (e.now ≤ s.timeOfNextSyncPoint ↔
        s.endOfSyncSlot + s.duration ≤ s.timeOfNextSyncPoint ∧
          (s.protocol.fishing.mode = .deepFishing →
            s.offset + deepFishSessionDurationTicks ≤
              s.timeOfNextSyncPoint - s.timeOfThisSyncPoint)) ∧
      (s.protocol.fishing.mode = .trolling →
        s.endOfSyncSlot ≤ s.timeOfThisSyncPoint + virtualSlotDuration → s.Fits) := by
  obtain ⟨⟨-, h_mem, -⟩, h_time⟩ := h_en
  obtain rfl : e.now = x := h_time
  have h_pending := (agentSystem_oneTask h.unwatched).pending_eq h_mem
  obtain ⟨s, h_s, h_planned, h_due⟩ :=
    fishSessionSystem_kept h _ _ h_pending FishPhase.noConfusion
  have h_now : e.now = s.startsAt + s.duration := h_due
  rw [h_now]
  exact ⟨s, h_s, h_planned.ends_iff, h_planned.inPeriod_iff, h_planned.fits_of_trolling⟩

end Runs

-- ============================================================================
-- A session in the middle of its period, and one that runs over its end
-- ============================================================================

instance (s : FishSession) : Decidable s.Fits :=
  inferInstanceAs (Decidable (_ ∧ (_ → _)))

instance (c : Config) (w : Agent × Option FishSession) (l : Env × AgentEvent) :
    Decidable ((fishSessionSystem c).enabled w l) :=
  inferInstanceAs (Decidable (((agentSystem c).guarded Agent.OnTime).enabled w.1 l))

theorem bootedFive_session_init :
    (fishSessionSystem unitFive).init (Agent.boot unitFive 0 0, none) :=
  ⟨⟨0, 0, Nat.le_refl 0, rfl⟩, rfl⟩

/-- Unit five fishes half a period after its sync slot. -/
theorem fish_session_end_iff_enticedTo :
    ∃ w, (fishSessionSystem unitFive).Reachable w ∧
      (fishSessionSystem unitFive).enabled w (onTime .fishSlotEnd 120050) ∧
      ∃ s, w.2 = some s ∧ 120050 ≤ s.timeOfNextSyncPoint ∧ 120050 = s.timeOfFishSessionEnd := by
  obtain ⟨w, h, h_en, s, h_s, h_fits⟩ :=
    System.Reachable.exists_of_play (M := fishSessionSystem unitFive)
      (P := fun w => (fishSessionSystem unitFive).enabled w (onTime .fishSlotEnd 120050) ∧
        ∃ s ∈ w.2, s.Fits)
      (enticedTo ⟨39975, by decide⟩ ++
        [onTime .theRadioPreludeTaskWFish 119950, onTime .fishSlotStart 120000])
      bootedFive_session_init (by decide +kernel)
  obtain ⟨s', h_s', h_iff, -⟩ := fish_session_end_iff h h_en
  rw [Option.mem_def, h_s'] at h_s
  cases h_s
  obtain ⟨h_period, h_end⟩ := h_iff.2 h_fits
  exact ⟨w, h, h_en, s, h_s', h_period, h_end⟩

/-- The offset is fifteen ticks less than the period: the session is set to end at
    the sync point, and the task that ends it runs 35 ticks later. -/
theorem fish_session_runs_over :
    ∃ w, (fishSessionSystem unitFive).Reachable w ∧ w.1.protocol.role = .fisher ∧
      (fishSessionSystem unitFive).enabled w (onTime .fishSlotEnd 160035) ∧
      ∃ s ∈ w.2, s.offset = 79985 ∧ s.timeOfNextSyncPoint = 160000 ∧
        s.timeOfFishSessionEnd = 160000 :=
  System.Reachable.exists_of_play (M := fishSessionSystem unitFive)
    (P := fun w => w.1.protocol.role = .fisher ∧
      (fishSessionSystem unitFive).enabled w (onTime .fishSlotEnd 160035) ∧
      ∃ s ∈ w.2, s.offset = 79985 ∧ s.timeOfNextSyncPoint = 160000 ∧
        s.timeOfFishSessionEnd = 160000)
    (enticedTo ⟨79960, by decide⟩ ++
      [onTime .theRadioPreludeTaskWFish 159935, onTime .fishSlotStart 159985])
    bootedFive_session_init (by decide +kernel)

end SleepSync
