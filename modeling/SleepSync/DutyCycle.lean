/-
  SleepSync.DutyCycle

  The unit sleeps mostly: for how long its receiver is on.

  In a period the receiver is on in the sync slot and in one fish slot.  It is
  switched off by the task that ends the slot, at the latest, so what it costs is
  bounded by the expiries of these tasks and by how late the timer runs them.  The
  sync slot has the length of one virtual slot, and the power manager lets a
  session of fishing become twenty-one of them.

  The periods do not overlap, and the first starts at the time of boot.  So the
  bound for one period is one for the part of all time in which the receiver is
  on.
-/

import SleepSync.Lib.Meter
import SleepSync.DeepListening
import SleepSync.PeriodShape
import SleepSync.TrollingSessions

namespace SleepSync

open Lib ScheduleParameters FishingParameters

-- ============================================================================
-- The durations that the power manager sets
-- ============================================================================

/-- The session is the short one, or the one of the maximum. -/
def Fishing.Managed (f : Fishing) : Prop :=
  f.session = if f.isMaxFishing then ⟨21 * virtualSlotDuration, 21⟩ else ⟨virtualSlotDuration, 1⟩

section Managed

variable {c : Config} {e : Env} {f f' : Fishing} {p p' : Protocol} {ev : ProtocolEvent}

theorem restartTrollingMode_power (h : f.restartTrollingMode = .ok f') :
    f'.isMaxFishing = f.isMaxFishing := by
  obtain ⟨t, -, rfl⟩ := Fishing.restartTrollingMode_eq_ok.1 h
  rfl

theorem Fishing.manage_managed {vcc : Bool} (h : f.manage vcc = .ok f') (h_f : f.Managed) :
    f'.Managed := by
  unfold Fishing.manage at h
  cases vcc with
  | false =>
      cases h
      rfl
  | true =>
      cases h_max : f.isMaxFishing with
      | true =>
          rw [h_max] at h
          cases h
          exact h_f
      | false =>
          rw [h_max] at h
          obtain ⟨f₁, h_incr, rfl⟩ := bind_return_eq_ok.1 h
          unfold Fishing.Managed at h_f
          rw [h_max] at h_f
          simp only [Fishing.incrementFishSessionDuration, h_f] at h_incr
          exact Protocol.restartTrollingMode_session h_incr

/-- Only the bookkeeping asks the power manager. -/
theorem stepProtocol_isMaxFishing (h_ev : ev ≠ .bookkeepingAtPreludeToSyncSlot)
    (h : stepProtocol c p e ev = .ok p') : p'.fishing.isMaxFishing = p.fishing.isMaxFishing := by
  cases stepProtocol_done h with
  | heard h_heard =>
      cases h_heard with
      | scattered _ _ _ h_f => exact restartTrollingMode_power h_f
      | enticed =>
          show (p.fishing.switchToDeepFishing _ _).isMaxFishing = _
          unfold Fishing.switchToDeepFishing
          split <;> rfl
      | _ => rfl
  | fished h_fished => cases h_fished <;> rfl
  | scattered _ h_f => exact restartTrollingMode_power h_f
  | listened h_ended =>
      cases h_ended with
      | asMaster => rfl
      | missed => rfl
      | grabbed _ _ _ _ h_f => exact restartTrollingMode_power h_f
      | reverted _ _ _ _ _ h_f => exact restartTrollingMode_power h_f
  | preFished h_f =>
      unfold Fishing.preFishing at h_f
      split at h_f
      · obtain ⟨t, -, rfl⟩ := bind_return_eq_ok.1 h_f
        rfl
      · cases h_f
        rfl
  | startsFishing =>
      show (p.fishing.setStartAndEndTimes p.schedule).isMaxFishing = _
      unfold Fishing.setStartAndEndTimes Fishing.getStartTimeToFish
      cases p.fishing.mode <;> rfl
  | checked h_checked => cases h_checked <;> rfl
  | booked => exact absurd rfl h_ev
  | _ => rfl

theorem stepProtocol_managed (h : stepProtocol c p e ev = .ok p') (h_p : p.fishing.Managed) :
    p'.fishing.Managed := by
  by_cases h_ev : ev = .bookkeepingAtPreludeToSyncSlot
  · subst h_ev
    obtain ⟨f, h_f, rfl⟩ := Protocol.bookkeepingAtPreludeToSyncSlot_eq_ok h
    exact Fishing.manage_managed h_f h_p
  · unfold Fishing.Managed
    rw [Protocol.stepProtocol_session h_ev h, stepProtocol_isMaxFishing h_ev h]
    exact h_p

theorem agentSystem_managed {a : Agent} (h : (agentSystem c).Reachable a) :
    a.protocol.fishing.Managed := by
  refine agentSystem_protocol (P := fun p => p.fishing.Managed) h (fun _ _ => rfl) ?_
  intro p h_p
  refine h_p.invariant (fun p => p.fishing.Managed) ?_ ?_
  · rintro p ⟨initTime, loopTime, rfl⟩
    rfl
  · intro p l p' h_managed _ h_step
    exact stepProtocol_managed h_step h_managed

/-- In either mode a session is at most twenty-one slots long. -/
theorem Fishing.Managed.duration_le (h : f.Managed) :
    f.getFishSessionDurationTicks ≤ 1050 := by
  unfold Fishing.getFishSessionDurationTicks
  cases f.mode with
  | deepFishing =>
      show deepFishSessionDurationTicks ≤ 1050
      decide
  | trolling =>
      show f.session.durationInTicks ≤ 1050
      rw [h]
      cases f.isMaxFishing <;> decide

end Managed

-- ============================================================================
-- The receiver in a period
-- ============================================================================

/-- For how long the receiver may have been on in the period, if no task runs more
    than `late` too late. -/
def Task.receiverTime (late : Nat) : Task → Nat
  | .startSyncPeriodMaintain | .sendSync | .endSyncSlotSend => 0
  | .endSyncSlotListen | .theRadioPreludeTaskWFish | .fishSlotStart | .mergerStartAndEnd
  | .provisionStart => 50 + late
  | .fishSlotEnd | .provisionEnd | .theRadioPreludeTaskWSync | .startSyncSlotAfterPrelude
  | .startSyncSlotWithoutScheduledPrelude => 1100 + 2 * late

/-- The time for which the radio receives, by the period. -/
def receiverMeter : Meter Agent (Env × AgentEvent) where
  clock := Agent.clock
  time l := l.1.now
  isOn a := a.radio.isSome
  marks l :=
    match l.2 with
    | .timer t _ => t.rolls
    | _ => false

def receiverQuota (late : Nat) : Quota Agent where
  limit a :=
    match a.pending with
    | [] => 1100 + 2 * late
    | y :: _ => y.1.receiverTime late
  due a :=
    match a.pending with
    | [] => a.clock
    | y :: _ => y.2 + late

/-- The timer runs no task more than `late` after its expiry. -/
def LateBy (late : Nat) (w : Agent × Reading) (l : Env × AgentEvent) : Prop :=
  ∀ y ∈ w.1.pending, l.1.now ≤ y.2 + late

instance (late : Nat) (w : Agent × Reading) (l : Env × AgentEvent) : Decidable (LateBy late w l) :=
  inferInstanceAs (Decidable (∀ y ∈ w.1.pending, l.1.now ≤ y.2 + late))

section Quota

variable {late span x : Nat} {a a' : Agent} {t t' : Task} {ts : List Task}

theorem receiverTime_le (t : Task) : t.receiverTime late ≤ 1100 + 2 * late := by
  cases t <;> simp only [Task.receiverTime] <;> omega

/-- The receiver may have been on for longer when the next task of the period runs. -/
theorem receiverTime_mono (h_t : t.rolls = false) (h : t' ∈ t.next) :
    t.receiverTime late ≤ t'.receiverTime late := by
  have h_all : ∀ t' ∈ t.next, t.receiverTime late ≤ t'.receiverTime late := by
    cases t <;> first | (cases h_t; done) | simp [Task.next, Task.receiverTime] <;> omega
  exact h_all t' h

theorem limit_of_pending (h : a.pending = [(t, x)]) :
    (receiverQuota late).limit a = t.receiverTime late := by
  simp [receiverQuota, h]

theorem due_of_pending (h : a.pending = [(t, x)]) : (receiverQuota late).due a = x + late := by
  simp [receiverQuota, h]

theorem limit_le (late : Nat) (a : Agent) : (receiverQuota late).limit a ≤ 1100 + 2 * late := by
  cases h : a.pending with
  | nil => simp [receiverQuota, h]
  | cons y rest =>
      simp only [receiverQuota, h]
      exact receiverTime_le y.1

theorem limit_of_idle (h : a.pending = []) :
    (receiverQuota late).limit a = 1100 + 2 * late := by
  simp [receiverQuota, h]

/-- With the receiver off, what counts is the limit of the task that is awaited. -/
theorem Agent.Awaits.within (h : a.Awaits ts) (h_off : a.radio = none)
    (h_span : span ≤ 1100 + 2 * late) (h_ts : ∀ t ∈ ts, span ≤ t.receiverTime late) :
    receiverMeter.Within (receiverQuota late) a span := by
  have h_isOn : receiverMeter.isOn a = false := by
    simp [receiverMeter, h_off]
  refine Meter.Within.of_off h_isOn ?_
  rcases h with h_none | ⟨t, h_t, x, h_one⟩
  · rw [limit_of_idle h_none]
    exact h_span
  · rw [limit_of_pending h_one]
    exact h_ts t h_t

end Quota

namespace Agent

variable {c : Config} {e : Env} {a a' : Agent} {ev : AgentEvent} {t : Task} {late span : Nat}

theorem SyncSlotNext.radio {u : Bool} (h : SyncSlotNext c e a u a') : a'.radio = a.radio := by
  cases h <;> rfl

theorem NonSyncScheduled.radio (h : NonSyncScheduled c e a a') : a'.radio = a.radio := by
  cases h with
  | merges => split <;> rfl
  | _ => rfl

theorem SyncSlotNext.clock {u : Bool} (h : SyncSlotNext c e a u a') : a'.clock = a.clock := by
  cases h <;> rfl

theorem NonSyncScheduled.clock (h : NonSyncScheduled c e a a') : a'.clock = a.clock := by
  cases h with
  | merges => split <;> rfl
  | _ => rfl

theorem TaskRan.clock (h : TaskRan c e a t a') : a'.clock = a.clock := by
  cases h with
  | listened _ _ _ h_next => exact h_next.clock
  | sentOver _ _ h_next => exact h_next.clock
  | fished _ _ h_next => exact h_next.clock
  | merged _ _ h_next => exact h_next.clock
  | failsToProvision _ _ h_next => exact h_next.clock
  | provisioned h_next => exact h_next.clock
  | _ => rfl

theorem AgentStep.clock (h : AgentStep c e a ev a') : a'.clock = e.now := by
  cases h with
  | ran _ _ _ _ h_ran => exact h_ran.clock
  | heard _ _ _ h_taken => cases h_taken <;> rfl
  | succeeded => rfl
  | failed => rfl

/-- The period has started. -/
theorem PeriodKept.start_le (h : a.PeriodKept c) (h_one : a.OneTask) :
    a.protocol.schedule.startTimeOfSyncPeriod ≤ a.clock := by
  cases h_pending : a.pending with
  | nil => exact (h.idle h_pending).period.start
  | cons y rest =>
      have h_y : (y.1, y.2) ∈ a.pending := by
        rw [h_pending]
        exact List.mem_cons_self
      exact (h.waiting y.1 y.2 (h_one.pending_eq h_y)).start

/-- Where a task leaves the receiver on, and until when. -/
inductive Receives (e : Env) (a : Agent) (t : Task) (a' : Agent) : Prop
  | inSyncSlot {x : Nat} (h_t : t.rolls = true) (h_pending : a'.pending = [(.endSyncSlotListen, x)])
      (h_end : x = max e.now a'.protocol.schedule.timeOfThisSyncSlotEnd) : Receives e a t a'
  | inFishSlot (h_t : t = .fishSlotStart)
      (h_pending : a'.pending =
        [(.fishSlotEnd, e.now + a.protocol.fishing.getFishSessionDurationTicks)]) :
      Receives e a t a'

theorem TaskRan.receiver (h : TaskRan c e a t a') (h_idle : a.pending = [])
    (h_radio : ∀ handler, a.radio = some handler → t = endOf handler)
    (h_start : a'.protocol.schedule.startTimeOfSyncPeriod ≤ e.now) :
    a'.radio = none ∨ Receives e a t a' := by
  cases h with
  | maintained _ h_off => exact Or.inl h_off
  | resumed _ h_off => exact Or.inl h_off
  | preludesSync => exact Or.inl (radio_off h_radio Task.noConfusion Task.noConfusion)
  | preludesFish => exact Or.inl (radio_off h_radio Task.noConfusion Task.noConfusion)
  | pauses _ _ h_off => exact Or.inl h_off
  | sends _ _ h_off => exact Or.inl h_off
  | @listens t p h_t =>
      have h_rolls : t.rolls = true := by
        rcases h_t with rfl | rfl <;> rfl
      have h_end : p.schedule.timeOfThisSyncSlotEnd =
          p.schedule.startTimeOfSyncPeriod + virtualSlotDuration := rfl
      have h_p : p.schedule.startTimeOfSyncPeriod ≤ e.now := h_start
      refine Or.inr (Receives.inSyncSlot h_rolls (schedule_pending_of_idle e _ _ h_idle) ?_)
      show e.now + c.tm.clampedTimeDifferenceFromNow e.now p.schedule.timeOfThisSyncSlotEnd =
        max e.now p.schedule.timeOfThisSyncSlotEnd
      refine c.tm.now_add_fromNow ?_
      rw [h_end, virtualSlotDuration_eq]
      omega
  | sent => exact Or.inl (radio_off h_radio Task.noConfusion Task.noConfusion)
  | listened _ _ _ h_next => exact Or.inl h_next.radio
  | sentOver _ _ h_next =>
      exact Or.inl (h_next.radio.trans (radio_off h_radio Task.noConfusion Task.noConfusion))
  | fishes =>
      refine Or.inr (Receives.inFishSlot rfl ?_)
      exact schedule_pending_of_idle e .fishSlotEnd _ h_idle
  | fished _ _ h_next => exact Or.inl h_next.radio
  | merged _ _ h_next =>
      exact Or.inl (h_next.radio.trans (radio_off h_radio Task.noConfusion Task.noConfusion))
  | provisions => exact Or.inl (radio_off h_radio Task.noConfusion Task.noConfusion)
  | failsToProvision _ _ h_next =>
      exact Or.inl (h_next.radio.trans (radio_off h_radio Task.noConfusion Task.noConfusion))
  | provisioned h_next =>
      exact Or.inl (h_next.radio.trans (radio_off h_radio Task.noConfusion Task.noConfusion))

/-- A task that does not roll the period goes on with the time used so far. -/
theorem TaskRan.within_of_used (h : TaskRan c e a t a') (h_idle : a.pending = [])
    (h_radio : ∀ handler, a.radio = some handler → t = endOf handler)
    (h_start : a'.protocol.schedule.startTimeOfSyncPeriod ≤ e.now) (h_clock : a'.clock = e.now)
    (h_managed : a.protocol.fishing.Managed) (h_t : t.rolls = false)
    (h_used : span ≤ t.receiverTime late) :
    receiverMeter.Within (receiverQuota late) a' span := by
  rcases h.receiver h_idle h_radio h_start with h_off | h_on
  · refine (h.awaits h_idle).within h_off (h_used.trans (receiverTime_le t)) ?_
    intro t' h_t'
    exact h_used.trans (receiverTime_mono h_t h_t')
  · cases h_on with
    | inSyncSlot h_rolls => rw [h_t] at h_rolls; cases h_rolls
    | inFishSlot h_fish h_pending =>
        subst h_fish
        have h_used' : span ≤ 50 + late := h_used
        have h_duration := h_managed.duration_le
        apply Meter.Within.of_due
        · rw [due_of_pending h_pending]
          show a'.clock ≤ _
          omega
        · rw [due_of_pending h_pending, limit_of_pending h_pending]
          show span + _ ≤ a'.clock + (1100 + 2 * late)
          omega

/-- A task that rolls the period starts with none. -/
theorem TaskRan.within_of_roll (h : TaskRan c e a t a') (h_idle : a.pending = [])
    (h_radio : ∀ handler, a.radio = some handler → t = endOf handler)
    (h_start : a'.protocol.schedule.startTimeOfSyncPeriod ≤ e.now) (h_clock : a'.clock = e.now)
    (h_t : t.rolls = true) : receiverMeter.Within (receiverQuota late) a' 0 := by
  rcases h.receiver h_idle h_radio h_start with h_off | h_on
  · exact (h.awaits h_idle).within h_off (Nat.zero_le _) fun _ _ => Nat.zero_le _
  · cases h_on with
    | inSyncSlot _ h_pending h_end =>
        have h_slot : a'.protocol.schedule.timeOfThisSyncSlotEnd =
            a'.protocol.schedule.startTimeOfSyncPeriod + 50 := rfl
        apply Meter.Within.of_due
        · rw [due_of_pending h_pending]
          show a'.clock ≤ _
          omega
        · rw [due_of_pending h_pending, limit_of_pending h_pending]
          show 0 + _ ≤ a'.clock + (50 + late)
          omega
    | inFishSlot h_fish => subst h_fish; cases h_t

/-- The provisioner leaves the receiver as it is: off. -/
theorem within_endProvisioning {b : Agent} {l : Env × AgentEvent}
    (h_a : receiverMeter.Within (receiverQuota late) a span) (h_pending : a.pending = [])
    (h_radio : a.radio = none) (h_b : b.pending = []) (h_off : b.radio = none) :
    receiverMeter.Within (receiverQuota late) (b.endProvisioning e)
      (span + receiverMeter.elapsed a l) := by
  have h_isOn : receiverMeter.isOn a = false := by
    simp [receiverMeter, h_radio]
  have h_span := h_a.limit
  rw [limit_of_idle h_pending] at h_span
  rw [Meter.elapsed_of_off h_isOn, Nat.add_zero]
  have h_awaits : (b.endProvisioning e).Awaits [.provisionEnd] :=
    awaits_schedule (a := { b with isProvisioning := false }) h_b List.mem_cons_self
  refine h_awaits.within h_off h_span ?_
  intro t h_t
  rw [List.mem_singleton.1 h_t]
  exact h_span

/-- The quota is kept by every event that is not too late. -/
theorem AgentStep.within (h : AgentStep c e a ev a') (h_clock : a.clock ≤ e.now)
    (h_late : ∀ y ∈ a.pending, e.now ≤ y.2 + late) (h_kept : a'.PeriodKept c)
    (h_managed : a.protocol.fishing.Managed)
    (h_a : receiverMeter.Within (receiverQuota late) a span) :
    receiverMeter.Within (receiverQuota late) a'
      (receiverMeter.note a (e, ev) a' ⟨span, 0⟩).span := by
  have h_now : a'.clock = e.now := h.clock
  have h_one := h.oneTask
  cases h with
  | @ran t x a' h_pending _ _ h_radio h_ran =>
      have h_due : e.now ≤ x + late := h_late (t, x) (h_pending ▸ List.mem_cons_self)
      have h_idle : (a.dequeued e t x).pending = [] := dequeued_pending e t x h_pending
      have h_used : span + receiverMeter.elapsed a (e, .timer t x) ≤ t.receiverTime late := by
        rw [← limit_of_pending h_pending]
        refine h_a.elapsed ?_
        rw [due_of_pending h_pending]
        exact h_due
      have h_start := PeriodKept.start_le h_kept h_one
      rw [h_now] at h_start
      cases h_t : t.rolls with
      | true =>
          simp only [Meter.note, receiverMeter, h_t, if_true]
          exact h_ran.within_of_roll h_idle h_radio h_start h_now h_t
      | false =>
          simp only [Meter.note, receiverMeter, h_t]
          exact h_ran.within_of_used h_idle h_radio h_start h_now h_managed h_t h_used
  | @heard packet handler x a' h_radio h_pending _ h_taken =>
      have h_due : e.now ≤ x + late := h_late (_, x) (h_pending ▸ List.mem_cons_self)
      have h_same : a'.pending = a.pending := by
        cases h_taken <;> rfl
      refine h_a.continues ?_ h_clock h_now ?_ ?_ ?_
      · simp [receiverMeter, h_radio]
      · rw [due_of_pending h_pending]
        exact h_due
      · simp only [receiverQuota, h_same, h_pending]
      · simp only [receiverQuota, h_same]
  | succeeded h_pending h_radio => exact within_endProvisioning h_a h_pending h_radio h_pending h_radio
  | failed h_pending h_radio => exact within_endProvisioning h_a h_pending h_radio h_pending h_radio

end Agent

-- ============================================================================
-- Runs
-- ============================================================================

namespace Agent

variable {c : Config} {e : Env} {a a' : Agent} {ev : AgentEvent} {t : Task} {late loopTime : Nat}
  {r : Reading}

/-- A task that rolls the period leaves the unit in the one that follows. -/
theorem TaskRan.rolls_period (h : TaskRan c e a t a') (h_t : t.rolls = true) :
    a'.protocol.schedule.InBounds ∧
      a'.protocol.schedule.startTimeOfSyncPeriod = a.protocol.schedule.endTimeOfSyncPeriod := by
  have h_rolled : ∀ {p p' : Protocol}, p.schedule = a.protocol.schedule →
      stepProtocol c p.preludeToSyncPeriod e .dispatchSyncSlotKind = .ok p' →
        p'.schedule.InBounds ∧
          p'.schedule.startTimeOfSyncPeriod = a.protocol.schedule.endTimeOfSyncPeriod := by
    intro p p' h_p h_step
    refine ⟨Protocol.stepProtocol_inBounds h_step (Schedule.rollPeriodForward_inBounds _), ?_⟩
    rw [Protocol.stepProtocol_start ProtocolEvent.noConfusion h_step, ← h_p]
    rfl
  have h_book : ∀ {p : Protocol}, a.protocol.bookkeepingAtPreludeToSyncSlot c e = .ok p →
      p.preludeToSyncPeriod.schedule.InBounds ∧
        p.preludeToSyncPeriod.schedule.startTimeOfSyncPeriod =
          a.protocol.schedule.endTimeOfSyncPeriod := by
    intro p h_p
    refine ⟨Schedule.rollPeriodForward_inBounds _, ?_⟩
    rw [← Protocol.bookkeepingAtPreludeToSyncSlot_schedule h_p]
    rfl
  cases h with
  | maintained _ _ h_p => exact h_book h_p
  | resumed _ _ h_p => exact h_book h_p
  | pauses => exact ⟨Schedule.rollPeriodForward_inBounds _, rfl⟩
  | sends _ _ _ _ _ _ h_step => exact h_rolled rfl h_step
  | listens _ _ _ _ _ h_step => exact h_rolled rfl h_step
  | _ => cases h_t

/-- Nothing has been received before the first period, which starts at `loopTime`. -/
structure NotReceived (loopTime : Nat) (a : Agent) (r : Reading) : Prop where
  total : r.total = 0
  radio : a.radio = none
  isFirst : ∃ x, a.pending = [(.startSyncPeriodMaintain, x)]
  ends : a.protocol.schedule.endTimeOfSyncPeriod = loopTime

/-- What is on the meter in a run from `loopTime` on. -/
structure ReceiverKept (late loopTime : Nat) (a : Agent) (r : Reading) : Prop where
  span : receiverMeter.Within (receiverQuota late) a r.span
  paid : NotReceived loopTime a r ∨ a.protocol.schedule.InBounds ∧
    loopTime ≤ a.protocol.schedule.startTimeOfSyncPeriod ∧
      Meter.Paid (1100 + 2 * late) normalSyncPeriodDuration loopTime
        a.protocol.schedule.startTimeOfSyncPeriod r

/-- The step of a task that rolls the period. -/
theorem AgentStep.rolls (h : AgentStep c e a ev a') (h_rolls : receiverMeter.marks (e, ev) = true) :
    ∃ t x, ev = .timer t x ∧ a.pending = [(t, x)] ∧ a'.protocol.schedule.InBounds ∧
      a'.protocol.schedule.startTimeOfSyncPeriod = a.protocol.schedule.endTimeOfSyncPeriod := by
  cases h with
  | @ran t x _ h_pending _ _ _ h_ran => exact ⟨t, x, rfl, h_pending, h_ran.rolls_period h_rolls⟩
  | heard => cases h_rolls
  | succeeded => cases h_rolls
  | failed => cases h_rolls

/-- The first task rolls the period. -/
theorem AgentStep.rolls_first {x : Nat} (h : AgentStep c e a ev a')
    (h_pending : a.pending = [(.startSyncPeriodMaintain, x)]) :
    receiverMeter.marks (e, ev) = true := by
  cases h with
  | ran h_ran =>
      rw [h_pending] at h_ran
      cases h_ran
      rfl
  | @heard _ handler _ _ _ h_one =>
      rw [h_pending] at h_one
      cases handler <;> cases h_one
  | succeeded h_none =>
      rw [h_pending] at h_none
      cases h_none
  | failed h_none =>
      rw [h_pending] at h_none
      cases h_none

/-- Any other event stays in the period. -/
theorem AgentStep.stays_in_period (h : AgentStep c e a ev a') (h_clock : a.clock ≤ e.now)
    (h_possible : ev.Possible a e) (h_period : a.PeriodKept c)
    (h_bounds : a.protocol.schedule.InBounds) :
    a'.protocol.schedule.InBounds ∧
      a.protocol.schedule.startTimeOfSyncPeriod ≤ a'.protocol.schedule.startTimeOfSyncPeriod := by
  refine ⟨?_, ?_⟩
  · refine h.keeps (P := fun p => p.schedule.InBounds) h_clock h_possible h_period ?_ h_bounds
    intro p event p' h_p _ _ h_step
    exact Protocol.stepProtocol_inBounds h_step h_p
  · have h_end := h_bounds.end_ge
    rcases h.start with h_same | h_next
    · exact Nat.le_of_eq h_same.symm
    · omega

theorem AgentStep.receiverKept (h : AgentStep c e a ev a') (h_clock : a.clock ≤ e.now)
    (h_possible : ev.Possible a e) (h_late : ∀ y ∈ a.pending, e.now ≤ y.2 + late)
    (h_period : a.PeriodKept c) (h_managed : a.protocol.fishing.Managed)
    (h_a : ReceiverKept late loopTime a r) :
    ReceiverKept late loopTime a' (receiverMeter.note a (e, ev) a' r) := by
  have h_within := h.within h_clock h_late (h.periodKept h_clock h_period) h_managed h_a.span
  refine ⟨h_within, Or.inr ?_⟩
  cases h_rolls : receiverMeter.marks (e, ev) with
  | true =>
      obtain ⟨t, x, rfl, h_pending, h_bounds, h_start⟩ := h.rolls h_rolls
      rw [h_start]
      refine ⟨h_bounds, ?_⟩
      rcases h_a.paid with ⟨h_total, h_radio, -, h_end⟩ | ⟨h_in, h_first, h_paid⟩
      · have h_off : receiverMeter.isOn a = false := by
          simp [receiverMeter, h_radio]
        have h_none : (receiverMeter.note a (e, .timer t x) a' r).total = 0 := by
          simp [Meter.note, h_total, Meter.elapsed_of_off h_off]
        exact ⟨h_end.ge, Meter.Paid.of_none h_none h_end.ge⟩
      · have h_period_end := h_in.end_ge
        have h_due : e.now ≤ x + late := h_late (t, x) (h_pending ▸ List.mem_cons_self)
        have h_used : r.span + receiverMeter.elapsed a (e, .timer t x) ≤ 1100 + 2 * late := by
          refine (h_a.span.elapsed ?_).trans ?_
          · rw [due_of_pending h_pending]
            exact h_due
          · rw [limit_of_pending h_pending]
            exact receiverTime_le t
        refine ⟨by omega, h_paid.marked h_rolls h_used ?_⟩
        rw [normalSyncPeriodDuration_eq]
        exact h_period_end
  | false =>
      rcases h_a.paid with h_none | ⟨h_in, h_first, h_paid⟩
      · obtain ⟨x, h_pending⟩ := h_none.isFirst
        rw [h.rolls_first h_pending] at h_rolls
        cases h_rolls
      · obtain ⟨h_bounds, h_start⟩ := h.stays_in_period h_clock h_possible h_period h_in
        exact ⟨h_bounds, h_first.trans h_start, h_paid.unmarked h_rolls h_start⟩

theorem receiverKept_boot (initTime : Nat) :
    ReceiverKept late loopTime (Agent.boot c initTime loopTime) ⟨0, 0⟩ where
  span := Meter.Within.of_off rfl (Nat.zero_le _)
  paid := Or.inl ⟨rfl, rfl, ⟨_, rfl⟩, rfl⟩

end Agent

/-- The receiver of a unit that runs its tasks at most `late` ticks late is on for at
    most 22 slots and twice that lateness in each period, and not at all while the unit
    pauses or sends its sync; in all it is on for that part of the time since boot, and
    of one more period. -/
theorem duty_cycle {c : Config} {late initTime loopTime : Nat} {w : Agent × Reading}
    (h_boot : initTime ≤ loopTime)
    (h : ((Meter.metered (agentSystem c) receiverMeter).guarded (LateBy late)).Leads
      (Agent.boot c initTime loopTime, ⟨0, 0⟩) w) :
    w.2.span ≤ 22 * virtualSlotDuration + 2 * late ∧
    (∀ t x, w.1.pending = [(t, x)] →
      t = .startSyncPeriodMaintain ∨ t = .sendSync ∨ t = .endSyncSlotSend → w.2.span = 0) ∧
    w.2.total * normalSyncPeriodDuration ≤
      (22 * virtualSlotDuration + 2 * late) *
        (normalSyncPeriodDuration + (w.1.clock - loopTime)) := by
  have h_start : (agentSystem c).Reachable (Agent.boot c initTime loopTime) :=
    System.Reachable.start ⟨initTime, loopTime, h_boot, rfl⟩
  obtain ⟨h_reach, h_kept⟩ := System.Leads.watched_invariant (Agent.ReceiverKept late loopTime) h
    h_start (Agent.receiverKept_boot initTime) (by
      rintro a r ⟨e, ev⟩ a' h_a h_r ⟨h_clock, h_possible⟩ h_late h_next
      have h_one := agentSystem_oneTask h_a.guarded_true
      have h_step := Agent.stepAgent_step h_one h_possible h_next
      exact h_step.receiverKept h_clock h_possible h_late (agentSystem_periodKept h_a)
        (agentSystem_managed h_a) h_r)
  have h_limit : w.2.span ≤ 1100 + 2 * late := h_kept.span.limit.trans (limit_le late w.1)
  have h_now : w.1.protocol.schedule.startTimeOfSyncPeriod ≤ w.1.clock :=
    Agent.PeriodKept.start_le (agentSystem_periodKept h_reach)
      (agentSystem_oneTask h_reach.guarded_true)
  refine ⟨h_limit, ?_, ?_⟩
  · intro t x h_pending h_t
    have h_span := h_kept.span.limit
    rw [limit_of_pending h_pending] at h_span
    rcases h_t with rfl | rfl | rfl <;> exact Nat.le_zero.1 h_span
  · rcases h_kept.paid with h_none | ⟨-, h_first, h_paid⟩
    · rw [h_none.total, Nat.zero_mul]
      exact Nat.zero_le _
    · refine (h_paid.total_le h_limit h_first).trans (Nat.mul_le_mul_left _ ?_)
      omega

/-- Unit five, charged, up to the end of its first fish slot: it has listened in its
    sync slot and for a session of the maximum. -/
def fishesCharged : List (Env × AgentEvent) :=
  [charged .startSyncPeriodMaintain 0, charged .theRadioPreludeTaskWSync 79950,
    charged .startSyncSlotAfterPrelude 80000, charged .endSyncSlotListen 80050,
    charged .theRadioPreludeTaskWFish 81050, charged .fishSlotStart 81100,
    charged .fishSlotEnd 82150]

theorem duty_cycle_fishesCharged :
    ∃ w, ((Meter.metered (agentSystem unitFive) receiverMeter).guarded (LateBy 0)).Leads
        (Agent.boot unitFive 0 0, ⟨0, 0⟩) w ∧
      w.2 = ⟨1100, 1100⟩ ∧ w.1.clock = 82150 ∧
      1100 * normalSyncPeriodDuration ≤ 1100 * (normalSyncPeriodDuration + 82150) := by
  obtain ⟨w, h, h_meter, h_clock⟩ := System.Leads.exists_of_play
    (M := (Meter.metered (agentSystem unitFive) receiverMeter).guarded (LateBy 0))
    (P := fun w => w.2 = ⟨1100, 1100⟩ ∧ w.1.clock = 82150)
    (Agent.boot unitFive 0 0, ⟨0, 0⟩) fishesCharged (by decide +kernel)
  obtain ⟨-, -, h_total⟩ := duty_cycle (Nat.le_refl 0) h
  rw [h_meter, h_clock] at h_total
  exact ⟨w, h, h_meter, h_clock, h_total⟩

end SleepSync
