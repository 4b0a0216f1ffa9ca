/-
  SleepSync.PeriodClock

  The clock of the period under a timer that may run tasks late, but not early.

  A roll of the period is the last of a chain of tasks, each scheduled by a
  delay that the one before it computed from the end of the period.  Messages
  and dropouts move the end, but only while a task is pending that is not of the
  chain, since the radio is off under the others.  So no roll is before the end
  in force, and the time never is before the start of the period.

  Without a provisioner some task is always pending.
-/

import SleepSync.SlotTimes
import SleepSync.Bookkeeping

namespace SleepSync

open Lib ScheduleParameters

/-- A task that rolls a period, and the prelude before it, are not early for its
    end. -/
def Schedule.NotEarly (s : Schedule) (t : Task) (x : Nat) : Prop :=
  match t with
  | .startSyncPeriodMaintain | .startSyncSlotAfterPrelude
  | .startSyncSlotWithoutScheduledPrelude => s.endTimeOfSyncPeriod ≤ x
  | .theRadioPreludeTaskWSync => s.endTimeOfSyncPeriod ≤ x + virtualSlotDuration
  | _ => True

/-- The period is not rolled before its end. -/
def Occurrence.RollsAtEnd (o : Occurrence) : Prop :=
  o.isRoll = true → o.protocol.schedule.endTimeOfSyncPeriod ≤ o.now

theorem Occurrence.rollsAtEnd_of_not {o : Occurrence} (h : o.isRoll = false) : o.RollsAtEnd := by
  intro h_roll
  rw [h] at h_roll
  cases h_roll

/-- The mode of provisioning is entered only with a softdevice. -/
def Protocol.ProvisionsWithSoftdevice (c : Config) (p : Protocol) : Prop :=
  p.mode = .syncAndProvision → c.softdevicePresent = true

/-- The protocol in its period, some time after its start. -/
structure Protocol.InPeriod (c : Config) (p : Protocol) (now : Nat) : Prop where
  bounds : p.schedule.InBounds
  start : p.schedule.startTimeOfSyncPeriod ≤ now
  mode : p.ProvisionsWithSoftdevice c

/-- What holds while a task is pending.  The schedule of the loader is not in
    bounds until it is rolled. -/
structure PeriodWaits (c : Config) (a : Agent) (t : Task) (x : Nat) : Prop where
  bounds : a.protocol.schedule.InBounds ∨ t = .startSyncPeriodMaintain
  start : a.protocol.schedule.startTimeOfSyncPeriod ≤ a.clock
  mode : a.protocol.ProvisionsWithSoftdevice c
  notEarly : a.protocol.schedule.NotEarly t x
  provision : t = .provisionStart ∨ t = .provisionEnd → c.softdevicePresent = true

/-- What holds while none is. -/
structure PeriodIdle (c : Config) (a : Agent) : Prop where
  period : a.protocol.InPeriod c a.clock
  provision : c.softdevicePresent = true

-- ============================================================================
-- The protocol
-- ============================================================================

section Modes

variable {c : Config} {e : Env} {p p' : Protocol} {ev : ProtocolEvent}

theorem checkPowerAndTryModeTransitions_provisions (h : p.ProvisionsWithSoftdevice c) :
    (p.checkPowerAndTryModeTransitions c e).ProvisionsWithSoftdevice c := by
  have h_only : p.toSyncOnly.ProvisionsWithSoftdevice c := by
    intro h_mode
    unfold Protocol.toSyncOnly Protocol.toNoFishingFromOther at h_mode
    split at h_mode <;> cases h_mode
  have h_should : ∀ b p₁, p.shouldProvision c = (b, p₁) →
      (if b = true then { p₁ with mode := .syncAndProvision } else p₁).ProvisionsWithSoftdevice
        c := by
    intro b p₁ h_eq
    unfold Protocol.shouldProvision at h_eq
    split at h_eq
    · rename_i h_soft
      exact fun _ => h_soft
    · cases h_eq
      exact h
  unfold Protocol.checkPowerAndTryModeTransitions
  split
  · split
    · intro h_mode
      cases h_mode
    · exact h
  · split
    · intro h_mode
      cases h_mode
    · split
      · intro h_mode
        cases h_mode
      · exact h
  · split
    · exact h_only
    · exact h_should _ _ rfl
  · split
    · exact h_only
    · intro h_mode
      cases h_mode

theorem stepProtocol_provisions (h : stepProtocol c p e ev = .ok p')
    (h_p : p.ProvisionsWithSoftdevice c) : p'.ProvisionsWithSoftdevice c := by
  by_cases h_ev : ev = .bookkeepingAtPreludeToSyncSlot
  · subst h_ev
    obtain ⟨f, -, rfl⟩ := Protocol.bookkeepingAtPreludeToSyncSlot_eq_ok h
    have h_called : (p.callApp .onSyncPoint).ProvisionsWithSoftdevice c := h_p
    exact checkPowerAndTryModeTransitions_provisions (e := e) h_called
  · intro h_mode
    rw [stepProtocol_mode h_ev h] at h_mode
    exact h_p h_mode

/-- No event but a roll leaves the period. -/
theorem stepProtocol_inPeriod {now : Nat} (h_ev : ev ≠ .rollPeriodForward)
    (h : stepProtocol c p e ev = .ok p') (h_p : p.InPeriod c now) : p'.InPeriod c now where
  bounds := Protocol.stepProtocol_inBounds h h_p.bounds
  start := by
    rw [Protocol.stepProtocol_start h_ev h]
    exact h_p.start
  mode := stepProtocol_provisions h h_p.mode

/-- A roll that is not before the end of the period begins another. -/
theorem preludeToSyncPeriod_inPeriod {now : Nat}
    (h_end : p.schedule.endTimeOfSyncPeriod ≤ now) (h_mode : p.ProvisionsWithSoftdevice c) :
    p.preludeToSyncPeriod.InPeriod c now where
  bounds := Schedule.rollPeriodForward_inBounds _
  start := h_end
  mode := h_mode

end Modes

-- ============================================================================
-- The tasks
-- ============================================================================

namespace Agent

variable {c : Config} {e : Env} {a a' : Agent} {ev : AgentEvent} {t : Task}

/-- A sleep until the sync point does not end before it. -/
theorem end_le_nowTilSyncPoint (h : a.protocol.InPeriod c e.now) :
    a.protocol.schedule.endTimeOfSyncPeriod ≤ e.now + a.nowTilSyncPoint c e := by
  have h_delta := h.bounds.deltaNowToNextSyncPoint_eq c.tm h.start
  unfold nowTilSyncPoint
  omega

/-- A sleep until the prelude to the sync point. -/
theorem end_le_preludeTilSyncPoint (h : a.protocol.InPeriod c e.now) :
    a.protocol.schedule.endTimeOfSyncPeriod ≤
      e.now + (a.nowTilSyncPoint c e - virtualSlotDuration) + virtualSlotDuration := by
  have h_sleep := end_le_nowTilSyncPoint h
  omega

abbrev PeriodKept (c : Config) (a : Agent) : Prop :=
  Keeps (PeriodWaits c) (PeriodIdle c) Occurrence.RollsAtEnd a

theorem PeriodKept.of_waiting {x : Nat} (h_pending : a.pending = [(t, x)])
    (h_period : a.protocol.InPeriod c a.clock) (h_early : a.protocol.schedule.NotEarly t x)
    (h_provision : t = .provisionStart ∨ t = .provisionEnd → c.softdevicePresent = true)
    (h_trace : ∀ o ∈ a.trace, o.RollsAtEnd) : a.PeriodKept c :=
  Keeps.of_waiting h_pending
    ⟨Or.inl h_period.bounds, h_period.start, h_period.mode, h_early, h_provision⟩ h_trace

/-- The prelude is not part of it. -/
theorem PeriodKept.withPrelude (h : a.PeriodKept c) (since : Option Nat) :
    ({ a with prelude := since } : Agent).PeriodKept c where
  waiting t x h_pending := by
    have h_waits := h.waiting t x h_pending
    exact ⟨h_waits.bounds, h_waits.start, h_waits.mode, h_waits.notEarly, h_waits.provision⟩
  idle h_pending := by
    have h_idle := h.idle h_pending
    exact ⟨h_idle.period, h_idle.provision⟩
  trace := h.trace

/-- What holds while a task runs that is in a period: no other is pending. -/
structure PeriodRuns (c : Config) (e : Env) (a : Agent) : Prop where
  pending : a.pending = []
  clock : a.clock = e.now
  period : a.protocol.InPeriod c e.now
  trace : ∀ o ∈ a.trace, o.RollsAtEnd

namespace PeriodRuns

theorem of_step {p : Protocol} {event : ProtocolEvent} (h : PeriodRuns c e a)
    (h_ev : event ≠ .rollPeriodForward) (h_step : stepProtocol c a.protocol e event = .ok p) :
    PeriodRuns c e { a with protocol := p } :=
  ⟨h.pending, h.clock, stepProtocol_inPeriod h_ev h_step h.period, h.trace⟩

/-- Scheduling a task that will not be early, and is not the provisioner's. -/
theorem schedule {d : Nat} (h : PeriodRuns c e a)
    (h_early : a.protocol.schedule.NotEarly t (e.now + d))
    (h_provision : t = .provisionStart ∨ t = .provisionEnd → c.softdevicePresent = true) :
    (a.schedule e t d).PeriodKept c := by
  have h_period := h.period
  rw [← h.clock] at h_period
  refine Keeps.schedule h.pending ?_ (Occurrence.rollsAtEnd_of_not rfl) h.trace
  exact ⟨Or.inl h_period.bounds, h_period.start, h_period.mode, h_early, h_provision⟩

theorem undo (h : PeriodRuns c e a) : PeriodRuns c e a.undo :=
  ⟨h.pending, h.clock, h.period, h.trace⟩

end PeriodRuns

/-- The tasks of the provisioner are scheduled by it only. -/
theorem not_provision (h_start : t ≠ .provisionStart) (h_end : t ≠ .provisionEnd) :
    t = .provisionStart ∨ t = .provisionEnd → c.softdevicePresent = true := by
  rintro (h_t | h_t)
  · exact absurd h_t h_start
  · exact absurd h_t h_end

theorem SyncSlotNext.periodKept {u : Bool} (h : SyncSlotNext c e a u a')
    (h_runs : PeriodRuns c e a) : a'.PeriodKept c := by
  cases h with
  | afterPrelude =>
      refine h_runs.undo.schedule ?_ (not_provision Task.noConfusion Task.noConfusion)
      exact end_le_preludeTilSyncPoint h_runs.period
  | abuts =>
      refine h_runs.schedule ?_ (not_provision Task.noConfusion Task.noConfusion)
      exact end_le_nowTilSyncPoint h_runs.period

theorem NonSyncScheduled.periodKept (h : NonSyncScheduled c e a a')
    (h_runs : PeriodRuns c e a) : a'.PeriodKept c := by
  have h_step : stepProtocol c a.protocol e .setStartAndEndTimes =
      .ok a.protocol.setStartAndEndTimes := rfl
  have h_set := h_runs.of_step ProtocolEvent.noConfusion h_step
  cases h with
  | omits =>
      refine h_runs.undo.schedule ?_ (not_provision Task.noConfusion Task.noConfusion)
      exact end_le_preludeTilSyncPoint h_runs.period
  | merges =>
      have h_other := not_provision (c := c) (t := .mergerStartAndEnd) Task.noConfusion
        Task.noConfusion
      split
      · exact h_runs.schedule trivial h_other
      · exact h_runs.undo.schedule trivial h_other
  | fishesNear =>
      exact h_set.schedule trivial (not_provision Task.noConfusion Task.noConfusion)
  | fishesFar =>
      exact h_set.undo.schedule trivial (not_provision Task.noConfusion Task.noConfusion)
  | provisions _ h_soft => exact h_runs.schedule trivial (fun _ => h_soft)
  | stalls h_mode h_soft =>
      -- nothing is scheduled, but the mode is not entered either
      have h_present := h_runs.period.mode h_mode
      rw [h_soft] at h_present
      cases h_present

/-- After a roll that is not before the end in force. -/
theorem rolled_periodRuns (h_pending : a.pending = []) (h_clock : a.clock = e.now)
    (h_end : a.protocol.schedule.endTimeOfSyncPeriod ≤ e.now)
    (h_mode : a.protocol.ProvisionsWithSoftdevice c) (h_trace : ∀ o ∈ a.trace, o.RollsAtEnd) :
    PeriodRuns c e (a.rolled e t) where
  pending := h_pending
  clock := h_clock
  period := preludeToSyncPeriod_inPeriod h_end h_mode
  trace := List.forall_mem_cons.2 ⟨fun _ => h_end, h_trace⟩

/-- The maintenance, in the schedule of the loader too. -/
theorem TaskRan.periodKept_of_maintain (h : TaskRan c e a t a')
    (h_t : t = .startSyncPeriodMaintain) (h_pending : a.pending = []) (h_clock : a.clock = e.now)
    (h_waits : PeriodWaits c a t e.now) (h_trace : ∀ o ∈ a.trace, o.RollsAtEnd) :
    a'.PeriodKept c := by
  subst h_t
  have h_rolls : ∀ {p : Protocol}, a.protocol.bookkeepingAtPreludeToSyncSlot c e = .ok p →
      PeriodRuns c e ((a.bookkept e p).rolled e .startSyncPeriodMaintain) := by
    intro p h_book
    have h_step : stepProtocol c a.protocol e .bookkeepingAtPreludeToSyncSlot = .ok p := h_book
    have h_end : a.protocol.schedule.endTimeOfSyncPeriod ≤ e.now := h_waits.notEarly
    apply rolled_periodRuns
    · exact h_pending
    · exact h_clock
    · show p.schedule.endTimeOfSyncPeriod ≤ e.now
      rw [Protocol.bookkeepingAtPreludeToSyncSlot_schedule h_book]
      exact h_end
    · exact stepProtocol_provisions h_step h_waits.mode
    · exact List.forall_mem_cons.2 ⟨Occurrence.rollsAtEnd_of_not rfl, h_trace⟩
  cases h with
  | maintained _ _ h_book =>
      have h_next := h_rolls h_book
      refine h_next.schedule ?_ (not_provision Task.noConfusion Task.noConfusion)
      exact end_le_nowTilSyncPoint h_next.period
  | resumed _ _ h_book =>
      have h_next := h_rolls h_book
      refine h_next.schedule ?_ (not_provision Task.noConfusion Task.noConfusion)
      exact end_le_preludeTilSyncPoint h_next.period
  | pauses h_t => rcases h_t with h_t | h_t <;> cases h_t
  | sends h_t => rcases h_t with h_t | h_t <;> cases h_t
  | listens h_t => rcases h_t with h_t | h_t <;> cases h_t

/-- The start of a sync slot rolls the schedule. -/
theorem TaskRan.periodKept_of_startsSyncSlot (h : TaskRan c e a t a') (h_t : startsSyncSlot t)
    (h_pending : a.pending = []) (h_clock : a.clock = e.now)
    (h_waits : PeriodWaits c a t e.now) (h_trace : ∀ o ∈ a.trace, o.RollsAtEnd) :
    a'.PeriodKept c := by
  have h_rolled : PeriodRuns c e (a.rolled e t) := by
    refine rolled_periodRuns h_pending h_clock ?_ h_waits.mode h_trace
    rcases h_t with rfl | rfl <;> exact h_waits.notEarly
  cases h with
  | pauses =>
      refine PeriodKept.withPrelude ?_ none
      refine h_rolled.schedule ?_ (not_provision Task.noConfusion Task.noConfusion)
      exact end_le_nowTilSyncPoint h_rolled.period
  | @sends _ k p p' delay _ _ _ _ _ _ h_step =>
      have h_sent := h_rolled.of_step ProtocolEvent.noConfusion h_step
      apply PeriodKept.of_waiting (pending_append h_rolled.pending _ _)
      · show p'.InPeriod c a.clock
        rw [h_clock]
        exact h_sent.period
      · trivial
      · exact not_provision Task.noConfusion Task.noConfusion
      · exact List.forall_mem_cons.2 ⟨Occurrence.rollsAtEnd_of_not rfl, h_rolled.trace⟩
  | @listens _ p _ _ _ _ _ h_step =>
      have h_next := h_rolled.of_step ProtocolEvent.noConfusion h_step
      refine PeriodRuns.schedule ⟨h_pending, h_clock, ?_, ?_⟩ trivial
        (not_provision Task.noConfusion Task.noConfusion)
      · exact h_next.period
      · exact List.forall_mem_cons.2 ⟨Occurrence.rollsAtEnd_of_not rfl, h_next.trace⟩
  | _ => rcases h_t with h_t | h_t <;> cases h_t

theorem TaskRan.periodKept (h : TaskRan c e a t a') (h_pending : a.pending = [])
    (h_clock : a.clock = e.now) (h_waits : PeriodWaits c a t e.now)
    (h_trace : ∀ o ∈ a.trace, o.RollsAtEnd) : a'.PeriodKept c := by
  -- all but the task of the loader run in a period
  have h_runs : t ≠ .startSyncPeriodMaintain → PeriodRuns c e a := by
    intro h_t
    have h_start := h_waits.start
    rw [h_clock] at h_start
    exact ⟨h_pending, h_clock, ⟨h_waits.bounds.resolve_right h_t, h_start, h_waits.mode⟩, h_trace⟩
  have h_maintains := h.periodKept_of_maintain
  have h_starts := h.periodKept_of_startsSyncSlot
  cases h with
  | maintained => exact h_maintains rfl h_pending h_clock h_waits h_trace
  | resumed => exact h_maintains rfl h_pending h_clock h_waits h_trace
  | pauses h_t => exact h_starts h_t h_pending h_clock h_waits h_trace
  | sends h_t => exact h_starts h_t h_pending h_clock h_waits h_trace
  | listens h_t => exact h_starts h_t h_pending h_clock h_waits h_trace
  | @preludesSync p h_book =>
      have h_step : stepProtocol c a.protocol e .bookkeepingAtPreludeToSyncSlot = .ok p := h_book
      have h_next := (h_runs Task.noConfusion).of_step ProtocolEvent.noConfusion h_step
      have h_same := Protocol.bookkeepingAtPreludeToSyncSlot_schedule h_book
      have h_end : a.protocol.schedule.endTimeOfSyncPeriod ≤ e.now + virtualSlotDuration :=
        h_waits.notEarly
      apply PeriodKept.of_waiting (pending_append h_pending _ _)
      · show p.InPeriod c a.clock
        rw [h_clock]
        exact h_next.period
      · show p.schedule.endTimeOfSyncPeriod ≤ e.now + virtualSlotDuration
        rw [h_same]
        exact h_end
      · exact not_provision Task.noConfusion Task.noConfusion
      · refine List.forall_mem_cons.2 ⟨Occurrence.rollsAtEnd_of_not rfl, ?_⟩
        exact List.forall_mem_cons.2 ⟨Occurrence.rollsAtEnd_of_not rfl, h_trace⟩
  | preludesFish =>
      refine PeriodKept.withPrelude ?_ (some e.now)
      refine (h_runs Task.noConfusion).schedule trivial ?_
      exact not_provision Task.noConfusion Task.noConfusion
  | sent =>
      have h_next := h_runs Task.noConfusion
      refine PeriodRuns.schedule ⟨h_pending, h_clock, h_next.period, ?_⟩ trivial
        (not_provision Task.noConfusion Task.noConfusion)
      exact List.forall_mem_cons.2 ⟨Occurrence.rollsAtEnd_of_not rfl, h_trace⟩
  | @listened p p₁ _ _ h_end h_fish h_sched =>
      have h_listen : stepProtocol c a.protocol e .endListen = .ok p := h_end
      have h_choose : stepProtocol c p e .preFishing = .ok p₁ := h_fish
      have h_next := ((h_runs Task.noConfusion).of_step ProtocolEvent.noConfusion h_listen).of_step
        ProtocolEvent.noConfusion h_choose
      exact h_sched.periodKept ⟨h_next.pending, h_next.clock, h_next.period, h_next.trace⟩
  | @sentOver p _ _ h_fish h_sched =>
      have h_choose : stepProtocol c a.protocol e .preFishing = .ok p := h_fish
      exact h_sched.periodKept ((h_runs Task.noConfusion).of_step ProtocolEvent.noConfusion
        h_choose)
  | fishes =>
      have h_next := (h_runs Task.noConfusion).period
      rw [← h_clock] at h_next
      apply PeriodKept.of_waiting (pending_append h_pending _ _)
      · exact h_next
      · trivial
      · exact not_provision Task.noConfusion Task.noConfusion
      · refine List.forall_mem_cons.2 ⟨Occurrence.rollsAtEnd_of_not rfl, ?_⟩
        exact List.forall_mem_cons.2 ⟨Occurrence.rollsAtEnd_of_not rfl, h_trace⟩
  | @fished p _ _ h_check h_sync =>
      have h_step : stepProtocol c a.protocol e .checkFishingDone = .ok p := h_check
      have h_next := (h_runs Task.noConfusion).of_step ProtocolEvent.noConfusion h_step
      exact h_sync.periodKept ⟨h_next.pending, h_next.clock, h_next.period, h_next.trace⟩
  | @merged msg p _ _ h_sent h_sync =>
      have h_step : stepProtocol c a.protocol e .mergeSyncSent = .ok p := h_sent
      have h_next := (h_runs Task.noConfusion).of_step ProtocolEvent.noConfusion h_step
      refine h_sync.periodKept ⟨h_next.pending, h_next.clock, h_next.period, ?_⟩
      exact List.forall_mem_cons.2 ⟨Occurrence.rollsAtEnd_of_not rfl, h_trace⟩
  | provisions =>
      have h_next := (h_runs Task.noConfusion).period
      rw [← h_clock] at h_next
      refine Keeps.of_idle h_pending ⟨h_next, ?_⟩ h_trace
      exact h_waits.provision (Or.inl rfl)
  | failsToProvision _ _ h_sync => exact h_sync.periodKept (h_runs Task.noConfusion)
  | provisioned h_sync => exact h_sync.periodKept (h_runs Task.noConfusion)

/-- The timer is not early, so neither is the task that it runs. -/
theorem notEarly_mono {s : Schedule} {x y : Nat} (h : s.NotEarly t x) (h_le : x ≤ y) :
    s.NotEarly t y := by
  cases t with
  | startSyncPeriodMaintain => exact Nat.le_trans h h_le
  | theRadioPreludeTaskWSync => exact Nat.le_trans h (Nat.add_le_add_right h_le _)
  | startSyncSlotAfterPrelude => exact Nat.le_trans h h_le
  | startSyncSlotWithoutScheduledPrelude => exact Nat.le_trans h h_le
  | _ => trivial

theorem AgentStep.periodKept (h : AgentStep c e a ev a') (h_clock : a.clock ≤ e.now)
    (h_a : a.PeriodKept c) : a'.PeriodKept c := by
  cases h with
  | @ran t x _ h_pending h_expired _ _ h_ran =>
      have h_waits := h_a.waiting t x h_pending
      apply h_ran.periodKept (dequeued_pending e t x h_pending) rfl
      · exact ⟨h_waits.bounds, Nat.le_trans h_waits.start h_clock, h_waits.mode,
          notEarly_mono h_waits.notEarly h_expired, h_waits.provision⟩
      · exact List.forall_mem_cons.2 ⟨Occurrence.rollsAtEnd_of_not rfl, h_a.trace⟩
  | @heard packet handler x _ h_radio h_pending _ h_taken =>
      have h_waits := h_a.waiting _ x h_pending
      have h_period : a.protocol.InPeriod c e.now := by
        refine ⟨h_waits.bounds.resolve_right ?_, Nat.le_trans h_waits.start h_clock, h_waits.mode⟩
        cases handler <;> exact Task.noConfusion
      have h_handled : ∀ {b : Agent}, b.pending = [(endOf handler, x)] → b.clock = e.now →
          b.protocol.InPeriod c e.now → (∀ o ∈ b.trace, o.RollsAtEnd) → b.PeriodKept c := by
        intro b h_next h_now h_b h_trace
        rw [← h_now] at h_b
        apply PeriodKept.of_waiting h_next h_b _ _ h_trace
        · cases handler <;> trivial
        · cases handler <;> exact not_provision Task.noConfusion Task.noConfusion
      cases h_taken with
      | ignored =>
          refine h_handled (b := (a.received e).startReceiving e handler) h_pending rfl h_period ?_
          exact List.forall_mem_cons.2 ⟨Occurrence.rollsAtEnd_of_not rfl, h_a.trace⟩
      | goesOn _ h_step =>
          apply h_handled
          · exact h_pending
          · rfl
          · exact stepProtocol_inPeriod hears_ne_rollPeriodForward h_step h_period
          refine List.forall_mem_cons.2 ⟨Occurrence.rollsAtEnd_of_not rfl, ?_⟩
          exact List.forall_mem_cons.2 ⟨Occurrence.rollsAtEnd_of_not rfl, h_a.trace⟩
      | ends _ h_step =>
          apply h_handled
          · exact h_pending
          · rfl
          · exact stepProtocol_inPeriod hears_ne_rollPeriodForward h_step h_period
          exact List.forall_mem_cons.2 ⟨Occurrence.rollsAtEnd_of_not rfl, h_a.trace⟩
  | succeeded h_pending _ h_step =>
      obtain ⟨⟨h_bounds, h_start, h_mode⟩, h_soft⟩ := h_a.idle h_pending
      have h_period : a.protocol.InPeriod c e.now :=
        ⟨h_bounds, Nat.le_trans h_start h_clock, h_mode⟩
      refine PeriodRuns.schedule ⟨h_pending, rfl, ?_, h_a.trace⟩ trivial (fun _ => h_soft)
      exact stepProtocol_inPeriod ProtocolEvent.noConfusion h_step h_period
  | failed h_pending =>
      obtain ⟨⟨h_bounds, h_start, h_mode⟩, h_soft⟩ := h_a.idle h_pending
      refine PeriodRuns.schedule ⟨h_pending, rfl, ?_, h_a.trace⟩ trivial (fun _ => h_soft)
      exact ⟨h_bounds, Nat.le_trans h_start h_clock, h_mode⟩

theorem periodKept_boot (initTime loopTime : Nat) :
    (Agent.boot c initTime loopTime).PeriodKept c := by
  refine Keeps.schedule rfl ?_ (Occurrence.rollsAtEnd_of_not rfl) (fun o h_mem => by cases h_mem)
  refine ⟨Or.inr rfl, Nat.zero_le _, ?_, ?_, not_provision Task.noConfusion Task.noConfusion⟩
  · intro h_mode
    cases h_mode
  · exact Nat.le_add_right loopTime _

end Agent

-- ============================================================================
-- Runs
-- ============================================================================

theorem agentSystem_periodKept {c : Config} {a : Agent} (h : (agentSystem c).Reachable a) :
    a.PeriodKept c := by
  refine Agent.invariant (Agent.PeriodKept c) h.guarded_true
    (fun i l _ => Agent.periodKept_boot i l) ?_
  intro a e ev a' h_a h_clock _ _ h_step
  exact h_step.periodKept h_clock h_a

/-- In an unadjusted period the sync point is at most a period away. -/
theorem Protocol.InPeriod.syncOffset_le {c : Config} {e : Env} {p : Protocol}
    (h : p.InPeriod c e.now)
    (h_end : p.schedule.endTimeOfSyncPeriod = p.schedule.unadjustedEndTimeOfSyncPeriod) :
    p.syncOffset c e ≤ normalSyncPeriodDuration := by
  have h_unadjusted := h.bounds.unadjusted_eq
  have h_start := h.start
  have h_delta := h.bounds.deltaNowToNextSyncPoint_eq c.tm h_start
  unfold Protocol.syncOffset
  rw [h_delta, c.tm.clampedSubtraction_eq]
  omega

/-- The message of a sync slot is out of the range of its offset only where the
    sync point is more than a period away. -/
theorem Agent.sendSync_deltaSyncRange {c : Config} {e : Env} {a : Agent}
    (h : a.sendSync c e = .error (.protocol .deltaSyncRange)) :
    normalSyncPeriodDuration < a.protocol.syncOffset c e := by
  have h_init : ∀ {t : MessageType} {work : Payload},
      ofProtocol (a.protocol.initSyncMessage c e t work) =
        .error (.protocol .deltaSyncRange) →
      normalSyncPeriodDuration < a.protocol.syncOffset c e := by
    intro t work h_msg
    obtain ⟨f, h_f, h_init⟩ := Agent.ofProtocol_eq_error.1 h_msg
    cases h_f
    rcases Protocol.initSyncMessage_eq_error h_init with ⟨h_flt, -⟩ | ⟨-, h_lt⟩
    · cases h_flt
    · exact h_lt
  have h_msg := bind_return_eq_error.1 h
  unfold Agent.syncSlotMessage at h_msg
  cases h_kind : a.kind <;> rw [h_kind] at h_msg
  · exact h_init h_msg
  · exact h_init h_msg
  · exact h_init h_msg
  · cases h_msg

/-- Without a softdevice, in every run: one task is pending, no period is rolled
    before its end, the time is not before the start of the period, and a message
    of an unadjusted period has an offset in its range. -/
theorem period_clock {c : Config} {a : Agent} (h_soft : c.softdevicePresent = false)
    (h : (agentSystem c).Reachable a) :
    a.pending.length = 1 ∧
      (∀ o ∈ a.trace, o.isRoll = true →
        o.protocol.schedule.endTimeOfSyncPeriod ≤ o.now) ∧
      a.protocol.schedule.startTimeOfSyncPeriod ≤ a.clock ∧
      ∀ e x, (agentSystem c).enabled a (e, .timer .sendSync x) →
        a.protocol.schedule.endTimeOfSyncPeriod =
          a.protocol.schedule.unadjustedEndTimeOfSyncPeriod →
        a.protocol.syncOffset c e ≤ normalSyncPeriodDuration ∧
          (agentSystem c).step a (e, .timer .sendSync x) ≠
            .error (.protocol .deltaSyncRange) := by
  have h_kept := agentSystem_periodKept h
  have h_one := agentSystem_oneTask h.guarded_true
  have h_pending : ∃ y, a.pending = [y] := by
    refine List.length_eq_one_iff.1 (Nat.le_antisymm h_one.pending ?_)
    refine List.length_pos_iff.2 fun h_none => ?_
    have h_present := (h_kept.idle h_none).provision
    rw [h_soft] at h_present
    cases h_present
  obtain ⟨⟨t, y⟩, h_pending⟩ := h_pending
  have h_waits := h_kept.waiting t y h_pending
  refine ⟨by rw [h_pending, List.length_singleton], h_kept.trace, h_waits.start, ?_⟩
  rintro e x ⟨h_clock, h_mem, -⟩ h_end
  have h_t : t = .sendSync := by
    rw [h_pending, List.mem_singleton] at h_mem
    cases h_mem
    rfl
  have h_period : a.protocol.InPeriod c e.now := by
    refine ⟨h_waits.bounds.resolve_right ?_, Nat.le_trans h_waits.start h_clock, h_waits.mode⟩
    rw [h_t]
    exact Task.noConfusion
  have h_le := h_period.syncOffset_le h_end
  refine ⟨h_le, fun h_step => ?_⟩
  exact Nat.not_lt_of_le h_le
    (Agent.sendSync_deltaSyncRange (a := a.dequeued e .sendSync x) h_step)

/-- Unit five sends in its first sync slot, late in it by ten ticks. -/
theorem period_clock_sendsLate :
    ∃ a, (agentSystem unitFive).Reachable a ∧
      a.pending = [(.sendSync, 80015)] ∧ a.pending.length = 1 ∧
      a.protocol.syncOffset unitFive (Env.quiet 80025) ≤ normalSyncPeriodDuration := by
  obtain ⟨a, h, h_pending, h_end, h_enabled⟩ :=
    System.Reachable.exists_of_play (M := agentSystem unitFive)
      (P := fun a => a.pending = [(.sendSync, 80015)] ∧
        a.protocol.schedule.endTimeOfSyncPeriod =
          a.protocol.schedule.unadjustedEndTimeOfSyncPeriod ∧
        (agentSystem unitFive).enabled a (Env.quiet 80025, .timer .sendSync 80015))
      [onTime .startSyncPeriodMaintain 0,
        onTime .theRadioPreludeTaskWSync 79950,
        ({ Env.quiet 80000 with syncCoinToss := true }, .timer .startSyncSlotAfterPrelude 80000)]
      ⟨0, 0, Nat.le_refl 0, rfl⟩ (by decide +kernel)
  obtain ⟨h_length, -, -, h_offset⟩ := period_clock rfl h
  exact ⟨a, h, h_pending, h_length, (h_offset _ _ h_enabled h_end).1⟩

end SleepSync
