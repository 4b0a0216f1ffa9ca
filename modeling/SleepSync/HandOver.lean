/-
  SleepSync.HandOver

  The timing of the hand-over from task to task, where the timer runs each task
  exactly when it expires.

  For each task there is one formula for when it runs, from the schedule and the
  fish session (`Timed`).  From it follows that enough of the period is left to
  schedule a prelude, with three exceptions, which `EndsInTime` excludes: a deep
  fishing session that ends in the last virtual slot of its period (the
  predicate that should keep the prelude then has its comparison the wrong way,
  and is asked after the mode may have changed), a merge slot near the end of
  the period, for which a prelude is kept that was never done, and a provisioner
  that is late.
-/

import SleepSync.SlotTimes
import SleepSync.TaskRuns

namespace SleepSync

open Lib ScheduleParameters FishingParameters

-- ============================================================================
-- Timing
-- ============================================================================

/-- The prelude was started a virtual slot before `x`, or earlier. -/
def PreludeSince (prelude : Option Nat) (x : Nat) : Prop :=
  ∃ since, prelude = some since ∧ since + virtualSlotDuration ≤ x

/-- A sync slot starts at its sync point with the prelude done, and a prelude is
    scheduled where a virtual slot is left for it. -/
def Occurrence.HandsOverInTime (o : Occurrence) : Prop :=
  match o.what with
  | .schedule .theRadioPreludeTaskWSync =>
      o.now + virtualSlotDuration ≤ o.protocol.schedule.endTimeOfSyncPeriod
  | .schedule .theRadioPreludeTaskWFish =>
      o.now + virtualSlotDuration ≤ o.protocol.fishing.memoStartTimeOfFishSlot
  | .rollPeriodForward .startSyncSlotAfterPrelude
  | .rollPeriodForward .startSyncSlotWithoutScheduledPrelude =>
      o.now = o.protocol.schedule.endTimeOfSyncPeriod ∧ PreludeSince o.prelude o.now
  | _ => True

/-- The session that is being fished, or was last, began in deep fishing mode. -/
def Agent.fishedDeep (a : Agent) : Bool :=
  match a.trace.find? (fun o => o.what = .run .fishSlotStart) with
  | some o => o.protocol.fishing.mode = .deepFishing
  | none => false

/-- The timer is exact, and task bodies take no time. -/
def Agent.OnTime (_ : Agent) (l : Env × AgentEvent) : Prop :=
  match l.2 with
  | .timer _ expiry => l.1.now = expiry
  | _ => True

/-- A session that was fished deeply started two virtual slots before the end of
    its period; or one, if trolling is on again and its last session, which is
    then asked about, was near the end. -/
def Protocol.DeepSessionFits (p : Protocol) : Prop :=
  p.fishing.memoStartTimeOfFishSlot + 2 * virtualSlotDuration ≤
      p.schedule.endTimeOfSyncPeriod ∨
    ((p.fishing.mode = .trolling ∨
        countFishingsPerDeepFishing < p.fishing.deep.countFishings) ∧
      p.fishing.troll.isFishSessionNearEndSyncPeriod = true ∧
      p.fishing.memoStartTimeOfFishSlot + virtualSlotDuration ≤
        p.schedule.endTimeOfSyncPeriod)

/-- The slots of the non-sync period end in time, where the prelude is left to
    be scheduled. -/
def Agent.EndsInTime (c : Config) (a : Agent) (l : Env × AgentEvent) : Prop :=
  match l.2 with
  | .timer .fishSlotEnd _ => a.fishedDeep = true → a.protocol.DeepSessionFits
  | .timer .mergerStartAndEnd _ =>
      a.prelude = none → a.protocol.isMergerEndSyncPeriod c = false
  | .provisionerSucceed _ | .provisionerFail =>
      l.1.now + virtualSlotDuration ≤ a.protocol.schedule.endTimeOfSyncPeriod ∨
        (a.protocol.isMergerEndSyncPeriod c = true ∧
          l.1.now ≤ a.protocol.schedule.endTimeOfSyncPeriod)
  | _ => True

def Agent.InTime (c : Config) (a : Agent) (l : Env × AgentEvent) : Prop :=
  a.OnTime l ∧ a.EndsInTime c l

instance (a : Agent) : (l : Env × AgentEvent) → Decidable (a.OnTime l)
  | (e, .timer _ expiry) => inferInstanceAs (Decidable (e.now = expiry))
  | (_, .packet _) | (_, .provisionerSucceed _) | (_, .provisionerFail) => isTrue trivial

instance (p : Protocol) : Decidable p.DeepSessionFits :=
  inferInstanceAs (Decidable (_ ∨ _))

instance (c : Config) (a : Agent) : (l : Env × AgentEvent) → Decidable (a.EndsInTime c l)
  | (_, .timer t _) =>
      match t with
      | .fishSlotEnd =>
          inferInstanceAs (Decidable (a.fishedDeep = true → a.protocol.DeepSessionFits))
      | .mergerStartAndEnd => inferInstanceAs (Decidable (a.prelude = none →
          a.protocol.isMergerEndSyncPeriod c = false))
      | .startSyncPeriodMaintain | .theRadioPreludeTaskWSync | .theRadioPreludeTaskWFish
      | .startSyncSlotAfterPrelude | .startSyncSlotWithoutScheduledPrelude | .sendSync
      | .endSyncSlotListen | .endSyncSlotSend | .fishSlotStart | .provisionStart
      | .provisionEnd => isTrue trivial
  | (e, .provisionerSucceed _) | (e, .provisionerFail) =>
      inferInstanceAs (Decidable (
        e.now + virtualSlotDuration ≤ a.protocol.schedule.endTimeOfSyncPeriod ∨
          (a.protocol.isMergerEndSyncPeriod c = true ∧
            e.now ≤ a.protocol.schedule.endTimeOfSyncPeriod)))
  | (_, .packet _) => isTrue trivial

instance (c : Config) (a : Agent) (l : Env × AgentEvent) :
    Decidable (((agentSystem c).guarded Agent.OnTime).enabled a l) :=
  inferInstanceAs (Decidable (_ ∧ _))

instance (c : Config) (a : Agent) (l : Env × AgentEvent) :
    Decidable (((agentSystem c).guarded (Agent.InTime c)).enabled a l) :=
  inferInstanceAs (Decidable (_ ∧ _ ∧ _))

-- ============================================================================
-- When each task runs
-- ============================================================================

/-- The session is the one that this period's times are set for. -/
structure Protocol.FishSet (p : Protocol) : Prop where
  fits : p.fishing.SessionFits
  memo : p.fishing.mode = .trolling → p.fishing.memoStartTimeOfFishSlot =
    p.schedule.startTimeOfSyncPeriod + (p.fishing.troll.currentStartSlotOrdinal - 1) * 50

/-- When the pending task will run, and what it will find of the prelude. -/
def Timed (c : Config) (p : Protocol) (prelude : Option Nat) (deep : Bool) (t : Task)
    (x : Nat) : Prop :=
  match t with
  | .startSyncPeriodMaintain => x = p.schedule.endTimeOfSyncPeriod
  | .theRadioPreludeTaskWSync => x + 50 = p.schedule.endTimeOfSyncPeriod
  | .startSyncSlotAfterPrelude | .startSyncSlotWithoutScheduledPrelude =>
      x = p.schedule.endTimeOfSyncPeriod ∧ PreludeSince prelude x
  | .sendSync =>
      p.schedule.startTimeOfSyncPeriod ≤ x ∧ x ≤ p.schedule.startTimeOfSyncPeriod + 50 ∧
        PreludeSince prelude p.schedule.startTimeOfSyncPeriod
  | .endSyncSlotListen | .endSyncSlotSend =>
      x = p.schedule.startTimeOfSyncPeriod + 50 ∧
        PreludeSince prelude p.schedule.startTimeOfSyncPeriod
  | .theRadioPreludeTaskWFish =>
      x + 50 = p.fishing.memoStartTimeOfFishSlot ∧
        p.schedule.startTimeOfSyncPeriod + 150 ≤ p.fishing.memoStartTimeOfFishSlot ∧ p.FishSet
  | .fishSlotStart =>
      x = max (p.schedule.startTimeOfSyncPeriod + 50) p.fishing.memoStartTimeOfFishSlot ∧
        PreludeSince prelude x ∧ p.FishSet
  | .fishSlotEnd =>
      PreludeSince prelude x ∧
        (deep = false → p.fishing.mode = .trolling ∧
          x = p.schedule.startTimeOfSyncPeriod + p.fishing.troll.currentEndSlotOrdinal * 50 ∧
          p.fishing.troll.currentEndSlotOrdinal ≤ 1600) ∧
        (deep = true → x =
          max (p.schedule.startTimeOfSyncPeriod + 50) p.fishing.memoStartTimeOfFishSlot + 50)
  | .mergerStartAndEnd =>
      x = max (p.schedule.startTimeOfSyncPeriod + 50)
          (p.schedule.startTimeOfSyncPeriod + p.cliqueMerger.periodTimeToMergeSlotStart) ∧
        p.schedule.startTimeOfSyncPeriod + p.cliqueMerger.periodTimeToMergeSlotStart <
          p.schedule.endTimeOfSyncPeriod ∧
        (prelude = none ∨ PreludeSince prelude x)
  | .provisionStart =>
      x = p.schedule.startTimeOfSyncPeriod + 50 ∧ PreludeSince prelude x
  | .provisionEnd =>
      p.schedule.startTimeOfSyncPeriod ≤ x ∧ PreludeSince prelude x ∧
        (x + 50 ≤ p.schedule.endTimeOfSyncPeriod ∨
          (p.isMergerEndSyncPeriod c = true ∧ x ≤ p.schedule.endTimeOfSyncPeriod))

structure Agent.HandOverKept (c : Config) (a : Agent) : Prop where
  /-- the schedule of the loader is not one, until it is rolled -/
  bounds : a.protocol.schedule.InBounds ∨ ∃ x, a.pending = [(.startSyncPeriodMaintain, x)]
  session : a.protocol.fishing.SessionAgrees
  waiting : ∀ t x, a.pending = [(t, x)] → Timed c a.protocol a.prelude a.fishedDeep t x
  idle : a.pending = [] → a.protocol.schedule.startTimeOfSyncPeriod ≤ a.clock ∧
    PreludeSince a.prelude a.clock
  trace : ∀ o ∈ a.trace, o.HandsOverInTime

section Timed

variable {c : Config} {e : Env} {a : Agent} {p p' : Protocol} {msg : SyncMessage}
  {prelude : Option Nat} {x y : Nat}

theorem PreludeSince.mono (h : PreludeSince prelude x) (h_le : x ≤ y) :
    PreludeSince prelude y := by
  obtain ⟨since, h_some, h_since⟩ := h
  exact ⟨since, h_some, Nat.le_trans h_since h_le⟩

theorem timed_startsSyncSlot {t : Task} {deep : Bool} (h_t : Agent.startsSyncSlot t) :
    Timed c p prelude deep t x ↔
      x = p.schedule.endTimeOfSyncPeriod ∧ PreludeSince prelude x := by
  rcases h_t with rfl | rfl <;> exact Iff.rfl

/-- What happens but the start of a fish slot does not change what was fished. -/
theorem fishedDeep_of_trace {a b : Agent} {o : Occurrence} (h : b.trace = o :: a.trace)
    (h_o : o.what ≠ .run .fishSlotStart) : b.fishedDeep = a.fishedDeep := by
  unfold Agent.fishedDeep
  rw [h, List.find?_cons_of_neg (by simpa using h_o)]

/-- A message in the fish slot ends deep fishing, or leaves the session alone. -/
theorem hearInFishSlot_fishing (h : stepProtocol c p e (.hearInFishSlot msg) = .ok p') :
    p'.fishing = p.fishing ∨
      (p.fishing.mode = .deepFishing ∧ p'.fishing = p.fishing.switchToTrolling) := by
  obtain ⟨⟨r, p₁⟩, h_handle, rfl⟩ := bind_return_eq_ok.1 h
  cases Protocol.FishSlot.handle_heard h_handle with
  | mergesMy => exact Or.inl rfl
  | mergesOther => exact Or.inl rfl
  | caughtDeep h_mode => exact Or.inr ⟨h_mode, rfl⟩
  | kept => exact Or.inl rfl

end Timed

-- ============================================================================
-- The end of a slot of the non-sync period
-- ============================================================================

section Decisions

variable {c : Config} {p p' : Protocol} {prelude : Option Nat} {x : Nat}

/-- At the end of a fish slot: the prelude is undone where there is time for
    another, and otherwise kept up to the sync point. -/
theorem fishSlotEnd_decides {deep : Bool} (h_bounds : p.schedule.InBounds)
    (h_timed : Timed c p prelude deep .fishSlotEnd x)
    (h_fits : deep = true → p.DeepSessionFits) (h_check : p.checkFishingDone c = .ok p') :
    p'.schedule = p.schedule ∧
      (p'.fishing.isFishSlotEndSyncPeriod = false →
        x + 50 ≤ p.schedule.endTimeOfSyncPeriod) ∧
      x ≤ p.schedule.endTimeOfSyncPeriod := by
  have h_end := h_bounds.end_ge
  have h_checked := Protocol.checkFishingDone_checked h_check
  have h_schedule : p'.schedule = p.schedule := by
    cases h_checked <;> rfl
  obtain ⟨-, h_troll, h_deep⟩ := h_timed
  refine ⟨h_schedule, ?_⟩
  cases deep with
  | false =>
      obtain ⟨h_mode, h_x, h_last⟩ := h_troll rfl
      have h_same : p' = p := by
        cases h_checked with
        | goesOn => rfl
        | finished h_finished =>
            rw [h_mode] at h_finished
            cases h_finished
      rw [h_same]
      refine ⟨fun h_far => ?_, by omega⟩
      unfold Fishing.isFishSlotEndSyncPeriod at h_far
      rw [h_mode] at h_far
      have h_not := of_decide_eq_false h_far
      rw [lastSlotOrdinalShouldFish_eq] at h_not
      omega
  | true =>
      have h_x := h_deep rfl
      rcases h_fits rfl with h_early | ⟨h_finished, h_near, h_late⟩
      · rw [virtualSlotDuration_eq] at h_early
        exact ⟨fun _ => by omega, by omega⟩
      · rw [virtualSlotDuration_eq] at h_late
        have h_kept : p'.fishing.isFishSlotEndSyncPeriod = true := by
          cases h_checked with
          | goesOn h_on =>
              have h_mode : p.fishing.mode = .trolling := by
                rcases h_finished with h_mode | h_count
                · exact h_mode
                · exact h_on.resolve_right (Nat.not_le_of_lt h_count)
              unfold Fishing.isFishSlotEndSyncPeriod
              rw [h_mode]
              exact h_near
          | finished => exact h_near
        refine ⟨fun h_far => ?_, by omega⟩
        rw [h_kept] at h_far
        cases h_far

/-- A fish slot ends in the period it is in. -/
theorem timed_fishSlotEnd_ge {deep : Bool} (h_timed : Timed c p prelude deep .fishSlotEnd x) :
    p.schedule.startTimeOfSyncPeriod ≤ x := by
  obtain ⟨-, h_troll, h_deep⟩ := h_timed
  cases deep with
  | false =>
      obtain ⟨-, h_x, -⟩ := h_troll rfl
      omega
  | true =>
      have h_x := h_deep rfl
      omega

/-- At a merge slot. -/
theorem mergerStartAndEnd_decides {deep : Bool} (h_bounds : p.schedule.InBounds)
    (h_timed : Timed c p prelude deep .mergerStartAndEnd x) :
    (p.isMergerEndSyncPeriod c = false → x + 50 ≤ p.schedule.endTimeOfSyncPeriod) ∧
      x ≤ p.schedule.endTimeOfSyncPeriod := by
  have h_end := h_bounds.end_ge
  obtain ⟨h_x, h_lt, -⟩ := h_timed
  refine ⟨fun h_far => ?_, by omega⟩
  have h_not := of_decide_eq_false h_far
  rw [CliqueMerger.deltaMergeSlotEndToSyncPoint, c.tm.clampedSubtraction_eq,
    twoSlotDuration_eq, normalSyncPeriodDuration_eq] at h_not
  omega

/-- At the end of a provisioning. -/
theorem provisionEnd_decides {deep : Bool}
    (h_timed : Timed c p prelude deep .provisionEnd x) :
    (p.isMergerEndSyncPeriod c = false → x + 50 ≤ p.schedule.endTimeOfSyncPeriod) ∧
      x ≤ p.schedule.endTimeOfSyncPeriod := by
  obtain ⟨-, -, h_early | ⟨h_kept, h_late⟩⟩ := h_timed
  · exact ⟨fun _ => h_early, by omega⟩
  · refine ⟨fun h_far => ?_, h_late⟩
    rw [h_kept] at h_far
    cases h_far

end Decisions

-- ============================================================================
-- What tasks leave for the next
-- ============================================================================

namespace Agent

variable {c : Config} {e : Env} {a a' : Agent} {ev : AgentEvent} {t : Task} {x : Nat}

/-- A task is pending that will run on time. -/
theorem HandOverKept.of_waiting (h_pending : a.pending = [(t, x)])
    (h_bounds : a.protocol.schedule.InBounds) (h_session : a.protocol.fishing.SessionAgrees)
    (h_timed : Timed c a.protocol a.prelude a.fishedDeep t x)
    (h_trace : ∀ o ∈ a.trace, o.HandsOverInTime) : a.HandOverKept c where
  bounds := Or.inl h_bounds
  session := h_session
  waiting t' x' h_eq := by
    rw [h_pending] at h_eq
    cases h_eq
    exact h_timed
  idle h_eq := by
    rw [h_pending] at h_eq
    cases h_eq
  trace := h_trace

/-- A prelude that is scheduled for its time is scheduled early enough. -/
theorem handsOverInTime_schedule {p : Protocol} {prelude : Option Nat} {deep : Bool} {now : Nat}
    (h_timed : Timed c p prelude deep t x) (h_now : now ≤ x) :
    Occurrence.HandsOverInTime ⟨.schedule t, now, prelude, p⟩ := by
  cases t with
  | theRadioPreludeTaskWSync =>
      have h_x : x + 50 = p.schedule.endTimeOfSyncPeriod := h_timed
      show now + virtualSlotDuration ≤ p.schedule.endTimeOfSyncPeriod
      rw [virtualSlotDuration_eq]
      omega
  | theRadioPreludeTaskWFish =>
      have h_x : x + 50 = p.fishing.memoStartTimeOfFishSlot := h_timed.1
      show now + virtualSlotDuration ≤ p.fishing.memoStartTimeOfFishSlot
      rw [virtualSlotDuration_eq]
      omega
  | _ => trivial

/-- No task waits: what must hold for the next one to be scheduled. -/
structure BetweenTasks (a : Agent) : Prop where
  pending : a.pending = []
  bounds : a.protocol.schedule.InBounds
  session : a.protocol.fishing.SessionAgrees
  trace : ∀ o ∈ a.trace, o.HandsOverInTime

theorem BetweenTasks.undo (h : a.BetweenTasks) : a.undo.BetweenTasks :=
  ⟨h.pending, h.bounds, h.session, h.trace⟩

theorem BetweenTasks.stopReceive (h : a.BetweenTasks) : a.stopReceive.BetweenTasks :=
  ⟨h.pending, h.bounds, h.session, h.trace⟩

theorem BetweenTasks.startReceiving (h : a.BetweenTasks) (handler : MessageHandler) :
    (a.startReceiving e handler).BetweenTasks :=
  ⟨h.pending, h.bounds, h.session, List.forall_mem_cons.2 ⟨trivial, h.trace⟩⟩

theorem BetweenTasks.sendMessage (h : a.BetweenTasks) (msg : SyncMessage) :
    (a.sendMessage e msg).BetweenTasks :=
  ⟨h.pending, h.bounds, h.session, List.forall_mem_cons.2 ⟨trivial, h.trace⟩⟩

/-- The task has changed the protocol, in the same period. -/
theorem BetweenTasks.of_protocol {p : Protocol} (h : a.BetweenTasks)
    (h_bounds : p.schedule.InBounds) (h_session : p.fishing.SessionAgrees) :
    ({ a with protocol := p } : Agent).BetweenTasks :=
  ⟨h.pending, h_bounds, h_session, h.trace⟩

/-- Scheduling a task that will run on time. -/
theorem BetweenTasks.schedule {b : Agent} {d : Nat} (h : b.BetweenTasks)
    (h_timed : Timed c b.protocol b.prelude b.fishedDeep t (e.now + d)) :
    (b.schedule e t d).HandOverKept c := by
  have h_next := schedule_pending_of_idle e t d h.pending
  have h_fished : (b.schedule e t d).fishedDeep = b.fishedDeep :=
    fishedDeep_of_trace (schedule_trace e b t d) Effect.noConfusion
  refine HandOverKept.of_waiting h_next h.bounds h.session ?_ ?_
  · rw [h_fished]
    exact h_timed
  · rw [schedule_trace]
    refine List.forall_mem_cons.2 ⟨?_, h.trace⟩
    exact handsOverInTime_schedule h_timed (Nat.le_add_right e.now d)

/-- In the period, a sleep until the sync point ends there. -/
theorem now_add_nowTilSyncPoint (h_bounds : a.protocol.schedule.InBounds)
    (h_start : a.protocol.schedule.startTimeOfSyncPeriod ≤ e.now)
    (h_end : e.now ≤ a.protocol.schedule.endTimeOfSyncPeriod) :
    e.now + a.nowTilSyncPoint c e = a.protocol.schedule.endTimeOfSyncPeriod := by
  have h_delta := h_bounds.deltaNowToNextSyncPoint_eq c.tm h_start
  unfold nowTilSyncPoint
  omega

/-- A sleep until the start of a period's second slot. -/
theorem now_add_deltaToThisSyncSlotEnd (h_start : e.now ≤
      a.protocol.schedule.startTimeOfSyncPeriod + 50)
    (h_now : a.protocol.schedule.startTimeOfSyncPeriod ≤ e.now) :
    e.now + a.deltaToThisSyncSlotEnd c e = a.protocol.schedule.startTimeOfSyncPeriod + 50 := by
  have h_add : e.now + a.deltaToThisSyncSlotEnd c e =
      max e.now (a.protocol.schedule.startTimeOfSyncPeriod + 50) := by
    refine c.tm.now_add_fromNow ?_
    show a.protocol.schedule.startTimeOfSyncPeriod + virtualSlotDuration - e.now < _
    rw [virtualSlotDuration_eq]
    omega
  rw [h_add, Nat.max_eq_right h_start]

theorem SyncSlotNext.handOverKept {u : Bool} (h : SyncSlotNext c e a u a')
    (h_a : a.BetweenTasks) (h_start : a.protocol.schedule.startTimeOfSyncPeriod ≤ e.now)
    (h_end : e.now ≤ a.protocol.schedule.endTimeOfSyncPeriod)
    (h_prelude : u = false → PreludeSince a.prelude e.now) : a'.HandOverKept c := by
  have h_sleep := now_add_nowTilSyncPoint (c := c) h_a.bounds h_start h_end
  cases h with
  | afterPrelude h_undo h_left =>
      rw [virtualSlotDuration_eq] at h_left
      apply h_a.undo.schedule
      show e.now + (a.nowTilSyncPoint c e - 50) + 50 = a.protocol.schedule.endTimeOfSyncPeriod
      omega
  | abuts h_keep =>
      apply h_a.schedule
      refine ⟨h_sleep, ?_⟩
      exact (h_prelude h_keep).mono (Nat.le_add_right _ _)

/-- The period's fish session, once its times are set. -/
theorem setStartAndEndTimes_fishSet {p : Protocol} (h_bounds : p.schedule.InBounds)
    (h_session : p.fishing.SessionAgrees) (h_fits : p.fishing.SessionFits) :
    p.setStartAndEndTimes.FishSet := by
  obtain ⟨h_schedule, h_mode, h_same, h_troll, h_memo⟩ := p.setStartAndEndTimes_eq
  constructor
  · intro h_trolls
    rw [h_mode] at h_trolls
    rw [h_troll, h_same]
    exact h_fits h_trolls
  · intro h_trolls
    rw [h_mode] at h_trolls
    rw [h_memo, h_schedule, h_troll]
    exact Protocol.fishStart_of_trolling h_bounds h_fits h_session.2 h_trolls

/-- A sleep until the fish session whose times have been set. -/
theorem now_add_deltaToFishSessionStart (h_bounds : a.protocol.schedule.InBounds)
    (h_start : a.protocol.schedule.startTimeOfSyncPeriod ≤ e.now) :
    e.now + a.protocol.setStartAndEndTimes.fishing.deltaToFishSessionStart c.tm e.now =
      max e.now a.protocol.fishStart := by
  obtain ⟨-, -, -, -, h_memo⟩ := a.protocol.setStartAndEndTimes_eq
  have h_le : a.protocol.fishStart ≤ a.protocol.schedule.endTimeOfSyncPeriod :=
    Nat.min_le_right _ _
  have h_short := h_bounds.end_le'
  unfold Fishing.deltaToFishSessionStart
  rw [h_memo]
  exact c.tm.now_add_fromNow (by omega)

theorem NonSyncScheduled.handOverKept (h : NonSyncScheduled c e a a') (h_a : a.BetweenTasks)
    (h_fits : a.protocol.fishing.SessionFits)
    (h_now : e.now = a.protocol.schedule.startTimeOfSyncPeriod + 50) (h_clock : a.clock = e.now)
    (h_prelude : PreludeSince a.prelude e.now) : a'.HandOverKept c := by
  have h_bounds := h_a.bounds
  have h_long := h_bounds.end_ge
  have h_sleep := now_add_nowTilSyncPoint (c := c) (e := e) h_bounds (by omega) (by omega)
  -- the fish session of the period
  obtain ⟨h_schedule, -, h_same, -, h_memo⟩ := a.protocol.setStartAndEndTimes_eq
  have h_set := setStartAndEndTimes_fishSet h_bounds h_a.session h_fits
  have h_fisher := h_a.of_protocol (h_schedule ▸ h_bounds)
    (Fishing.sessionAgrees_of_eq h_same h_a.session)
  have h_fish := now_add_deltaToFishSessionStart (c := c) (e := e) h_bounds (by omega)
  cases h with
  | omits _ h_left =>
      rw [virtualSlotDuration_eq] at h_left
      apply h_a.undo.schedule
      show e.now + (a.nowTilSyncPoint c e - 50) + 50 = a.protocol.schedule.endTimeOfSyncPeriod
      omega
  | @merges delay _ _ _ h_delay =>
      obtain ⟨t, h_t, h_delay⟩ := bind_return_eq_ok.1 h_delay
      obtain ⟨h_lt, h_t⟩ := require_bind_eq_ok.1 h_t
      cases h_t
      have h_short := h_bounds.end_le'
      have h_add : e.now + delay = max e.now (a.protocol.schedule.startTimeOfSyncPeriod +
          a.protocol.cliqueMerger.periodTimeToMergeSlotStart) := by
        rw [h_delay]
        exact c.tm.now_add_fromNow (by omega)
      have h_timed : ∀ prelude deep,
          prelude = none ∨ PreludeSince prelude (e.now + delay) →
            Timed c a.protocol prelude deep .mergerStartAndEnd (e.now + delay) := by
        intro prelude deep h_either
        refine ⟨?_, h_lt, h_either⟩
        rw [h_add, h_now]
      split
      · apply h_a.schedule
        exact h_timed _ _ (Or.inr (h_prelude.mono (Nat.le_add_right _ _)))
      · apply h_a.undo.schedule
        exact h_timed _ _ (Or.inl rfl)
  | fishesNear =>
      apply h_fisher.schedule
      refine ⟨?_, ?_, h_set⟩
      · rw [h_fish, h_memo, h_schedule, h_now]
      · exact h_prelude.mono (Nat.le_add_right _ _)
  | fishesFar _ _ h_far h_left =>
      have h_min := Protocol.fishStart_of_far h_bounds h_fits h_far
      rw [virtualSlotDuration_eq] at h_left
      apply h_fisher.undo.schedule
      refine ⟨?_, ?_, h_set⟩
      · show e.now + (a.protocol.setStartAndEndTimes.fishing.deltaToFishSessionStart c.tm e.now -
          50) + 50 = a.protocol.setStartAndEndTimes.fishing.memoStartTimeOfFishSlot
        omega
      · show a.protocol.setStartAndEndTimes.schedule.startTimeOfSyncPeriod + 150 ≤
          a.protocol.setStartAndEndTimes.fishing.memoStartTimeOfFishSlot
        rw [h_memo, h_schedule]
        exact h_min
  | provisions => exact h_a.schedule ⟨h_now, h_prelude⟩
  | stalls =>
      refine ⟨Or.inl h_bounds, h_a.session, ?_, ?_, h_a.trace⟩
      · intro t x h_one
        rw [h_a.pending] at h_one
        cases h_one
      · intro _
        rw [h_clock]
        exact ⟨by omega, h_prelude⟩

/-- No event but a roll ends the period. -/
theorem stepProtocol_period {p p' : Protocol} {event : ProtocolEvent}
    (h_ev : event ≠ .rollPeriodForward) (h : stepProtocol c p e event = .ok p')
    (h_bounds : p.schedule.InBounds) (h_session : p.fishing.SessionAgrees) :
    p'.schedule.InBounds ∧
      p'.schedule.startTimeOfSyncPeriod = p.schedule.startTimeOfSyncPeriod ∧
      p'.fishing.SessionAgrees :=
  ⟨Protocol.stepProtocol_inBounds h h_bounds, Protocol.stepProtocol_start h_ev h,
    Protocol.stepProtocol_sessionAgrees h h_session⟩

/-- The sync slot is over, and the session of the period is chosen. -/
structure SessionChosen (p p' : Protocol) : Prop where
  bounds : p'.schedule.InBounds
  start : p'.schedule.startTimeOfSyncPeriod = p.schedule.startTimeOfSyncPeriod
  session : p'.fishing.SessionAgrees
  fits : p'.fishing.SessionFits

theorem sessionChosen_of_sent {p p' : Protocol} (h_fish : p.preFishing = .ok p')
    (h_bounds : p.schedule.InBounds) (h_session : p.fishing.SessionAgrees) :
    SessionChosen p p' := by
  obtain ⟨f, h_f, rfl⟩ := bind_return_eq_ok.1 h_fish
  obtain ⟨-, h_same, -, h_fits⟩ := Fishing.preFishing_eq_ok h_f
  exact ⟨h_bounds, rfl, Fishing.sessionAgrees_of_eq h_same h_session, h_fits⟩

theorem sessionChosen_of_listened {p p₁ p' : Protocol} (h_end : p.endListen c e = .ok p₁)
    (h_fish : p₁.preFishing = .ok p') (h_bounds : p.schedule.InBounds)
    (h_session : p.fishing.SessionAgrees) : SessionChosen p p' := by
  have h_listen : stepProtocol c p e .endListen = .ok p₁ := h_end
  obtain ⟨h_bounds₁, h_start, h_session₁⟩ :=
    stepProtocol_period ProtocolEvent.noConfusion h_listen h_bounds h_session
  have h_chosen := sessionChosen_of_sent h_fish h_bounds₁ h_session₁
  exact { h_chosen with start := h_chosen.start.trans h_start }

/-- When a fish slot that starts now will end. -/
theorem timed_fishSlotEnd {p : Protocol} {prelude : Option Nat} {now : Nat}
    (h_now : now =
      max (p.schedule.startTimeOfSyncPeriod + 50) p.fishing.memoStartTimeOfFishSlot)
    (h_prelude : PreludeSince prelude now) (h_session : p.fishing.SessionAgrees)
    (h_set : p.FishSet) :
    Timed c p prelude (decide (p.fishing.mode = .deepFishing)) .fishSlotEnd
      (now + p.fishing.getFishSessionDurationTicks) := by
  refine ⟨h_prelude.mono (Nat.le_add_right _ _), fun h_trolls => ?_, fun h_deep => ?_⟩
  · have h_mode : p.fishing.mode = .trolling := by
      cases h_mode : p.fishing.mode with
      | trolling => rfl
      | deepFishing => exact absurd h_mode (of_decide_eq_false h_trolls)
    obtain ⟨h_ticks, h_pos⟩ := h_session
    obtain ⟨h_lo, h_end, h_hi⟩ := h_set.fits h_mode
    have h_memo := h_set.memo h_mode
    refine ⟨h_mode, ?_, h_hi⟩
    unfold Fishing.getFishSessionDurationTicks
    rw [h_mode]
    dsimp only
    omega
  · unfold Fishing.getFishSessionDurationTicks
    rw [of_decide_eq_true h_deep, h_now]
    rfl

/-- A period that is rolled forward at the sync point starts there. -/
theorem rolled_onTime (h_now : e.now = a.protocol.schedule.endTimeOfSyncPeriod) :
    (a.rolled e t).protocol.schedule.InBounds ∧
      (a.rolled e t).protocol.schedule.startTimeOfSyncPeriod = e.now ∧
      e.now + (a.rolled e t).nowTilSyncPoint c e =
        (a.rolled e t).protocol.schedule.endTimeOfSyncPeriod := by
  have h_bounds : (a.rolled e t).protocol.schedule.InBounds :=
    Schedule.rollPeriodForward_inBounds _
  have h_start : (a.rolled e t).protocol.schedule.startTimeOfSyncPeriod = e.now := h_now.symm
  have h_end := h_bounds.end_ge
  refine ⟨h_bounds, h_start, now_add_nowTilSyncPoint h_bounds ?_ ?_⟩
  · exact Nat.le_of_eq h_start
  · omega

/-- After the roll at the sync point the task schedules the next. -/
theorem betweenTasks_rolled (h_pending : a.pending = [])
    (h_session : a.protocol.fishing.SessionAgrees) (h_trace : ∀ o ∈ a.trace, o.HandsOverInTime)
    (h_roll : Occurrence.HandsOverInTime
      ⟨.rollPeriodForward t, e.now, a.prelude, a.protocol⟩) : (a.rolled e t).BetweenTasks :=
  ⟨h_pending, Schedule.rollPeriodForward_inBounds _, h_session,
    List.forall_mem_cons.2 ⟨h_roll, h_trace⟩⟩

/-- The middle of a sync slot that starts now. -/
theorem timeTillMiddleOfSyncSlot {s : Schedule} (h_start : s.startTimeOfSyncPeriod = e.now) :
    c.tm.clampedTimeDifferenceFromNow e.now (s.timeOfThisSyncSlotMiddleSubslot c.platform) =
      25 - PhysicalParameters.sendLatency c.platform := by
  unfold Schedule.timeOfThisSyncSlotMiddleSubslot
  rw [h_start, deltaSyncSlotStartToSyncSlotXmit_eq, c.tm.fromNow_eq (by omega)]
  omega

/-- The tasks that start a sync slot. -/
theorem TaskRan.handOverKept_of_startsSyncSlot (h : TaskRan c e a t a')
    (h_t : startsSyncSlot t) (h_pending : a.pending = [])
    (h_session : a.protocol.fishing.SessionAgrees)
    (h_timed : Timed c a.protocol a.prelude a.fishedDeep t e.now)
    (h_trace : ∀ o ∈ a.trace, o.HandsOverInTime) : a'.HandOverKept c := by
  obtain ⟨h_now, h_prelude⟩ := (timed_startsSyncSlot h_t).1 h_timed
  obtain ⟨h_bounds, h_start, h_sleep⟩ := rolled_onTime (c := c) (t := t) h_now
  have h_rolled : (a.rolled e t).BetweenTasks := by
    refine betweenTasks_rolled h_pending h_session h_trace ?_
    rcases h_t with rfl | rfl <;> exact ⟨h_now, h_prelude⟩
  cases h with
  | pauses =>
      refine HandOverKept.of_waiting (schedule_pending_of_idle e _ _ h_rolled.pending) ?_ ?_ ?_ ?_
      · exact h_bounds
      · exact h_session
      · exact h_sleep
      · exact List.forall_mem_cons.2 ⟨trivial, h_rolled.trace⟩
  | @sends _ k p p' delay _ _ _ _ _ h_decide h_step h_delay =>
      obtain ⟨h_bounds', h_start', h_session'⟩ :=
        stepProtocol_period ProtocolEvent.noConfusion h_step h_bounds h_session
      rw [h_start] at h_start'
      obtain ⟨i, h_i⟩ := Protocol.decideKind_eq c e (a.rolled e t).protocol
      rw [h_decide] at h_i
      have h_p : p = { (a.rolled e t).protocol with intraClique := i } := h_i
      have h_middle : delay = 25 - PhysicalParameters.sendLatency c.platform := by
        rw [h_delay, h_p]
        exact timeTillMiddleOfSyncSlot h_start
      refine HandOverKept.of_waiting (schedule_pending_of_idle e _ _ h_rolled.pending) ?_ ?_ ?_ ?_
      · exact h_bounds'
      · exact h_session'
      · show _ ∧ _ ∧ PreludeSince a.prelude _
        dsimp only
        rw [h_start', h_middle]
        exact ⟨Nat.le_add_right _ _, by omega, h_prelude⟩
      · exact List.forall_mem_cons.2 ⟨trivial, h_rolled.trace⟩
  | @listens _ p _ _ _ _ _ h_step =>
      obtain ⟨h_bounds', h_start', h_session'⟩ :=
        stepProtocol_period ProtocolEvent.noConfusion h_step h_bounds h_session
      rw [h_start] at h_start'
      have h_slot : ({ a.rolled e t with kind := .listen, protocol := p } : Agent).BetweenTasks :=
        ⟨h_pending, h_bounds', h_session', h_rolled.trace⟩
      apply (h_slot.startReceiving .syncSlot).schedule
      refine ⟨now_add_deltaToThisSyncSlotEnd ?_ (Nat.le_of_eq h_start'), ?_⟩
      · show e.now ≤ p.schedule.startTimeOfSyncPeriod + 50
        omega
      · show PreludeSince a.prelude p.schedule.startTimeOfSyncPeriod
        rw [h_start']
        exact h_prelude
  | _ => rcases h_t with h_t | h_t <;> cases h_t

/-- The maintenance, also from the schedule of the loader, which has its sync point
    too. -/
theorem TaskRan.handOverKept_of_maintain (h : TaskRan c e a t a')
    (h_t : t = .startSyncPeriodMaintain) (h_pending : a.pending = [])
    (h_session : a.protocol.fishing.SessionAgrees)
    (h_timed : Timed c a.protocol a.prelude a.fishedDeep t e.now)
    (h_trace : ∀ o ∈ a.trace, o.HandsOverInTime) : a'.HandOverKept c := by
  subst h_t
  have h_rolls : ∀ {p : Protocol}, a.protocol.bookkeepingAtPreludeToSyncSlot c e = .ok p →
      ((a.bookkept e p).rolled e .startSyncPeriodMaintain).BetweenTasks ∧
        e.now + ((a.bookkept e p).rolled e .startSyncPeriodMaintain).nowTilSyncPoint c e =
          ((a.bookkept e p).rolled e .startSyncPeriodMaintain).protocol.schedule.endTimeOfSyncPeriod
      := by
    intro p h_book
    have h_step : stepProtocol c a.protocol e .bookkeepingAtPreludeToSyncSlot = .ok p := h_book
    have h_now : e.now = p.schedule.endTimeOfSyncPeriod := by
      rw [Protocol.bookkeepingAtPreludeToSyncSlot_schedule h_book]
      exact h_timed
    obtain ⟨-, -, h_sleep⟩ := rolled_onTime (c := c) (a := a.bookkept e p)
      (t := .startSyncPeriodMaintain) h_now
    refine ⟨betweenTasks_rolled h_pending ?_ ?_ trivial, h_sleep⟩
    · exact Protocol.stepProtocol_sessionAgrees h_step h_session
    · exact List.forall_mem_cons.2 ⟨trivial, h_trace⟩
  cases h with
  | @maintained p _ _ h_book =>
      obtain ⟨h_rolled, h_sleep⟩ := h_rolls h_book
      exact h_rolled.schedule h_sleep
  | @resumed p _ _ h_book _ h_left =>
      obtain ⟨h_rolled, h_sleep⟩ := h_rolls h_book
      rw [virtualSlotDuration_eq] at h_left
      apply h_rolled.schedule
      show e.now + (_ - 50) + 50 = _
      rw [← h_sleep]
      omega
  | pauses h_t => rcases h_t with h_t | h_t <;> cases h_t
  | sends h_t => rcases h_t with h_t | h_t <;> cases h_t
  | listens h_t => rcases h_t with h_t | h_t <;> cases h_t

/-- The start and the end of a fish slot. -/
theorem TaskRan.handOverKept_of_fishSlot (h : TaskRan c e a t a')
    (h_t : t = .fishSlotStart ∨ t = .fishSlotEnd) (h_idle : a.BetweenTasks)
    (h_timed : Timed c a.protocol a.prelude a.fishedDeep t e.now)
    (h_fits : t = .fishSlotEnd → a.fishedDeep = true → a.protocol.DeepSessionFits)
    (h_mode : t = .fishSlotStart →
      a.fishedDeep = decide (a.protocol.fishing.mode = .deepFishing)) : a'.HandOverKept c := by
  cases h with
  | fishes =>
      obtain ⟨h_now, h_prelude, h_set⟩ := h_timed
      refine HandOverKept.of_waiting (schedule_pending_of_idle e _ _ h_idle.pending) ?_ ?_ ?_ ?_
      · exact h_idle.bounds
      · exact h_idle.session
      · have h_deep : ((a.scheduleFishSlotEnd e).startReceiving e .fishSlot).fishedDeep =
            decide (a.protocol.fishing.mode = .deepFishing) := by
          rw [fishedDeep_of_trace (startReceiving_trace e _ _) Effect.noConfusion]
          unfold scheduleFishSlotEnd
          rw [fishedDeep_of_trace (schedule_trace e _ _ _) Effect.noConfusion]
          exact h_mode rfl
        rw [h_deep]
        exact timed_fishSlotEnd h_now h_prelude h_idle.session h_set
      · refine List.forall_mem_cons.2 ⟨trivial, ?_⟩
        exact List.forall_mem_cons.2 ⟨trivial, h_idle.trace⟩
  | @fished p _ _ h_check h_sync =>
      have h_step : stepProtocol c a.protocol e .checkFishingDone = .ok p := h_check
      obtain ⟨h_schedule, -, h_end⟩ :=
        fishSlotEnd_decides h_idle.bounds h_timed (h_fits rfl) h_check
      have h_start := timed_fishSlotEnd_ge h_timed
      rw [← h_schedule] at h_start h_end
      refine h_sync.handOverKept ?_ h_start h_end (fun _ => h_timed.1)
      have h_agrees := Protocol.stepProtocol_sessionAgrees h_step h_idle.session
      refine h_idle.stopReceive.of_protocol ?_ h_agrees
      rw [h_schedule]
      exact h_idle.bounds
  | pauses h_starts => rcases h_starts with rfl | rfl <;> rcases h_t with h_t | h_t <;> cases h_t
  | sends h_starts => rcases h_starts with rfl | rfl <;> rcases h_t with h_t | h_t <;> cases h_t
  | listens h_starts => rcases h_starts with rfl | rfl <;> rcases h_t with h_t | h_t <;> cases h_t
  | _ => rcases h_t with h_t | h_t <;> cases h_t

/-- A merge slot keeps the prelude if the sync slot is near, and has one then. -/
theorem TaskRan.handOverKept_of_merge (h : TaskRan c e a t a') (h_t : t = .mergerStartAndEnd)
    (h_idle : a.BetweenTasks) (h_timed : Timed c a.protocol a.prelude a.fishedDeep t e.now)
    (h_merges : a.prelude = none → a.protocol.isMergerEndSyncPeriod c = false) :
    a'.HandOverKept c := by
  subst h_t
  cases h with
  | @merged msg p _ _ h_sent h_sync =>
      obtain ⟨h_schedule, h_fishing, h_same⟩ := Protocol.mergeSyncSent_frame (c := c) h_sent
      obtain ⟨-, h_end⟩ := mergerStartAndEnd_decides h_idle.bounds h_timed
      obtain ⟨h_x, -, h_prelude⟩ := h_timed
      have h_start : a.protocol.schedule.startTimeOfSyncPeriod ≤ e.now := by omega
      rw [← h_schedule] at h_start h_end
      refine h_sync.handOverKept ?_ h_start h_end ?_
      · refine (h_idle.sendMessage msg).of_protocol ?_ ?_
        · rw [h_schedule]
          exact h_idle.bounds
        · rw [h_fishing]
          exact h_idle.session
      · intro h_keep
        rw [h_same] at h_keep
        rcases h_prelude with h_none | h_since
        · rw [h_merges h_none] at h_keep
          cases h_keep
        · exact h_since
  | pauses h_t => rcases h_t with h_t | h_t <;> cases h_t
  | sends h_t => rcases h_t with h_t | h_t <;> cases h_t
  | listens h_t => rcases h_t with h_t | h_t <;> cases h_t

theorem TaskRan.handOverKept (h : TaskRan c e a t a') (h_pending : a.pending = [])
    (h_clock : a.clock = e.now)
    (h_bounds : a.protocol.schedule.InBounds ∨ t = .startSyncPeriodMaintain)
    (h_session : a.protocol.fishing.SessionAgrees)
    (h_timed : Timed c a.protocol a.prelude a.fishedDeep t e.now)
    (h_fits : t = .fishSlotEnd → a.fishedDeep = true → a.protocol.DeepSessionFits)
    (h_merges : t = .mergerStartAndEnd → a.prelude = none →
      a.protocol.isMergerEndSyncPeriod c = false)
    (h_deep : t = .fishSlotStart →
      a.fishedDeep = decide (a.protocol.fishing.mode = .deepFishing))
    (h_trace : ∀ o ∈ a.trace, o.HandsOverInTime) : a'.HandOverKept c := by
  have h_a : t ≠ .startSyncPeriodMaintain → a.BetweenTasks :=
    fun h_t => ⟨h_pending, h_bounds.resolve_right h_t, h_session, h_trace⟩
  have h_starts := h.handOverKept_of_startsSyncSlot
  have h_maintains := h.handOverKept_of_maintain
  have h_fishes := h.handOverKept_of_fishSlot
  have h_merge := h.handOverKept_of_merge
  cases h with
  | maintained => exact h_maintains rfl h_pending h_session h_timed h_trace
  | resumed => exact h_maintains rfl h_pending h_session h_timed h_trace
  | @preludesSync p h_book =>
      have h_step : stepProtocol c a.protocol e .bookkeepingAtPreludeToSyncSlot = .ok p := h_book
      have h_schedule := Protocol.bookkeepingAtPreludeToSyncSlot_schedule h_book
      have h_now : e.now + 50 = a.protocol.schedule.endTimeOfSyncPeriod := h_timed
      refine HandOverKept.of_waiting (schedule_pending_of_idle e _ _ h_pending) ?_ ?_ ?_ ?_
      · show p.schedule.InBounds
        rw [h_schedule]
        exact (h_a Task.noConfusion).bounds
      · exact Protocol.stepProtocol_sessionAgrees h_step h_session
      · refine ⟨?_, e.now, rfl, Nat.le_refl _⟩
        show e.now + 50 = p.schedule.endTimeOfSyncPeriod
        rw [h_schedule, h_now]
      · refine List.forall_mem_cons.2 ⟨trivial, ?_⟩
        exact List.forall_mem_cons.2 ⟨trivial, h_trace⟩
  | preludesFish =>
      obtain ⟨h_x, h_far, h_set⟩ := h_timed
      refine HandOverKept.of_waiting (schedule_pending_of_idle e _ _ h_pending) ?_ ?_ ?_ ?_
      · exact (h_a Task.noConfusion).bounds
      · exact h_session
      · refine ⟨?_, ⟨e.now, rfl, Nat.le_refl _⟩, h_set⟩
        show e.now + 50 = max (a.protocol.schedule.startTimeOfSyncPeriod + 50)
          a.protocol.fishing.memoStartTimeOfFishSlot
        omega
      · exact List.forall_mem_cons.2 ⟨trivial, h_trace⟩
  | pauses h_t => exact h_starts h_t h_pending h_session h_timed h_trace
  | sends h_t => exact h_starts h_t h_pending h_session h_timed h_trace
  | listens h_t => exact h_starts h_t h_pending h_session h_timed h_trace
  | @sent msg =>
      obtain ⟨h_lo, h_hi, h_prelude⟩ := h_timed
      apply ((h_a Task.noConfusion).sendMessage msg).schedule
      exact ⟨now_add_deltaToThisSyncSlotEnd h_hi h_lo, h_prelude⟩
  | @listened p p₁ _ _ h_end h_fish h_sched =>
      obtain ⟨h_now, h_prelude⟩ := h_timed
      have h_idle := h_a Task.noConfusion
      have h_chosen := sessionChosen_of_listened h_end h_fish h_idle.bounds h_session
      refine h_sched.handOverKept ?_ h_chosen.fits ?_ h_clock ?_
      · exact h_idle.stopReceive.of_protocol h_chosen.bounds h_chosen.session
      · show e.now = p₁.schedule.startTimeOfSyncPeriod + 50
        rw [h_chosen.start, h_now]
      · exact h_prelude.mono (by omega)
  | @sentOver p _ _ h_fish h_sched =>
      obtain ⟨h_now, h_prelude⟩ := h_timed
      have h_idle := h_a Task.noConfusion
      have h_chosen := sessionChosen_of_sent h_fish h_idle.bounds h_session
      refine h_sched.handOverKept ?_ h_chosen.fits ?_ h_clock ?_
      · exact h_idle.of_protocol h_chosen.bounds h_chosen.session
      · show e.now = p.schedule.startTimeOfSyncPeriod + 50
        rw [h_chosen.start, h_now]
      · exact h_prelude.mono (by omega)
  | fishes => exact h_fishes (Or.inl rfl) (h_a Task.noConfusion) h_timed h_fits h_deep
  | fished => exact h_fishes (Or.inr rfl) (h_a Task.noConfusion) h_timed h_fits h_deep
  | merged => exact h_merge rfl (h_a Task.noConfusion) h_timed (h_merges rfl)
  | provisions =>
      obtain ⟨h_x, h_prelude⟩ := h_timed
      refine ⟨Or.inl (h_a Task.noConfusion).bounds, h_session, ?_, ?_, h_trace⟩
      · intro t x h_one
        have h_none : ([] : List (Task × Nat)) = [(t, x)] := h_pending ▸ h_one
        cases h_none
      · intro _
        show a.protocol.schedule.startTimeOfSyncPeriod ≤ a.clock ∧ PreludeSince a.prelude a.clock
        rw [h_clock]
        exact ⟨by omega, h_prelude⟩
  | failsToProvision _ _ h_sync =>
      obtain ⟨h_x, h_prelude⟩ := h_timed
      have h_idle := h_a Task.noConfusion
      have h_long := h_idle.bounds.end_ge
      exact h_sync.handOverKept h_idle (by omega) (by omega) (fun _ => h_prelude)
  | provisioned h_sync =>
      obtain ⟨-, h_end⟩ := provisionEnd_decides h_timed
      obtain ⟨h_start, h_prelude, -⟩ := h_timed
      exact h_sync.handOverKept (h_a Task.noConfusion) h_start h_end (fun _ => h_prelude)

/-- What is heard in a slot does not move its end. -/
theorem timed_heard {handler : MessageHandler} {msg : SyncMessage} {p p' : Protocol}
    {prelude : Option Nat} {deep : Bool} (h : Timed c p prelude deep (endOf handler) x)
    (h_step : stepProtocol c p e (hears handler msg) = .ok p') :
    Timed c p' prelude deep (endOf handler) x := by
  have h_start : p'.schedule.startTimeOfSyncPeriod = p.schedule.startTimeOfSyncPeriod := by
    refine Protocol.stepProtocol_start ?_ h_step
    cases handler <;> exact ProtocolEvent.noConfusion
  cases handler with
  | syncSlot =>
      obtain ⟨h_x, h_prelude⟩ := h
      refine ⟨?_, ?_⟩
      · rw [h_start]
        exact h_x
      · rw [h_start]
        exact h_prelude
  | fishSlot =>
      obtain ⟨h_prelude, h_troll, h_deep⟩ := h
      have h_fishing := hearInFishSlot_fishing h_step
      refine ⟨h_prelude, fun h_not => ?_, fun h_is => ?_⟩
      · obtain ⟨h_mode, h_x⟩ := h_troll h_not
        rcases h_fishing with h_same | ⟨h_was, -⟩
        · rw [h_same, h_start]
          exact ⟨h_mode, h_x⟩
        · rw [h_mode] at h_was
          cases h_was
      · have h_memo : p'.fishing.memoStartTimeOfFishSlot = p.fishing.memoStartTimeOfFishSlot := by
          rcases h_fishing with h_same | ⟨-, h_same⟩
          · rw [h_same]
          · rw [h_same]
            rfl
        rw [h_memo, h_start]
        exact h_deep h_is

/-- The provisioner has called back in time. -/
theorem HandOverKept.endProvisioning {p : Protocol} (h_a : a.HandOverKept c)
    (h_pending : a.pending = []) (h_clock : a.clock ≤ e.now)
    (h_ends : e.now + virtualSlotDuration ≤ a.protocol.schedule.endTimeOfSyncPeriod ∨
      (a.protocol.isMergerEndSyncPeriod c = true ∧
        e.now ≤ a.protocol.schedule.endTimeOfSyncPeriod))
    (h_schedule : p.schedule = a.protocol.schedule)
    (h_fishing : p.fishing = a.protocol.fishing)
    (h_merger : p.cliqueMerger = a.protocol.cliqueMerger) :
    (({ a with clock := e.now, protocol := p } : Agent).endProvisioning e).HandOverKept c := by
  have h_bounds : a.protocol.schedule.InBounds := by
    refine h_a.bounds.resolve_right ?_
    rintro ⟨y, h_one⟩
    rw [h_pending] at h_one
    cases h_one
  obtain ⟨h_start, h_prelude⟩ := h_a.idle h_pending
  rw [virtualSlotDuration_eq] at h_ends
  have h_ended : ({ a with clock := e.now, protocol := p, isProvisioning := false } :
      Agent).BetweenTasks := by
    refine ⟨h_pending, ?_, ?_, h_a.trace⟩
    · show p.schedule.InBounds
      rw [h_schedule]
      exact h_bounds
    · show p.fishing.SessionAgrees
      rw [h_fishing]
      exact h_a.session
  apply h_ended.schedule
  refine ⟨?_, h_prelude.mono h_clock, ?_⟩
  · show p.schedule.startTimeOfSyncPeriod ≤ e.now
    rw [h_schedule]
    exact Nat.le_trans h_start h_clock
  · unfold Protocol.isMergerEndSyncPeriod at h_ends ⊢
    dsimp only
    rw [h_schedule, h_merger]
    exact h_ends

/-- The head of the timer runs, on time. -/
theorem HandOverKept.dequeued (h_a : a.HandOverKept c) (h_pending : a.pending = [(t, x)])
    (h_now : e.now = x) :
    (a.protocol.schedule.InBounds ∨ t = .startSyncPeriodMaintain) ∧
      Timed c a.protocol a.prelude (a.dequeued e t x).fishedDeep t e.now ∧
      (t ≠ .fishSlotStart → (a.dequeued e t x).fishedDeep = a.fishedDeep) := by
  have h_run : (a.dequeued e t x).trace = ⟨.run t, e.now, a.prelude, a.protocol⟩ :: a.trace := rfl
  have h_same : t ≠ .fishSlotStart → (a.dequeued e t x).fishedDeep = a.fishedDeep :=
    fun h_t => fishedDeep_of_trace h_run (fun h_eq => h_t (Effect.run.inj h_eq))
  have h_timed := h_a.waiting t x h_pending
  rw [← h_now] at h_timed
  refine ⟨?_, ?_, h_same⟩
  · rcases h_a.bounds with h_bounds | ⟨y, h_one⟩
    · exact Or.inl h_bounds
    · rw [h_pending] at h_one
      cases h_one
      exact Or.inr rfl
  · by_cases h_t : t = .fishSlotStart
    · subst h_t
      exact h_timed
    · rw [h_same h_t]
      exact h_timed

theorem AgentStep.handOverKept (h : AgentStep c e a ev a') (h_clock : a.clock ≤ e.now)
    (h_in : a.InTime c (e, ev)) (h_a : a.HandOverKept c) : a'.HandOverKept c := by
  obtain ⟨h_time, h_ends⟩ := h_in
  cases h with
  | @ran t x _ h_pending _ _ _ h_ran =>
      obtain ⟨h_bounds, h_timed, h_same⟩ := h_a.dequeued h_pending h_time
      apply h_ran.handOverKept (dequeued_pending e t x h_pending) rfl
      · exact h_bounds
      · exact h_a.session
      · exact h_timed
      · rintro rfl h_deep
        rw [h_same Task.noConfusion] at h_deep
        exact h_ends h_deep
      · rintro rfl h_none
        exact h_ends h_none
      · rintro rfl
        unfold fishedDeep
        rw [dequeued_trace, List.find?_cons_of_pos (by rfl)]
        rfl
      · exact List.forall_mem_cons.2 ⟨trivial, h_a.trace⟩
  | @heard packet handler x _ h_radio h_pending _ h_taken =>
      have h_timed := h_a.waiting _ x h_pending
      have h_bounds : a.protocol.schedule.InBounds := by
        refine h_a.bounds.resolve_right ?_
        rintro ⟨y, h_one⟩
        rw [h_pending] at h_one
        cases handler <;> cases h_one
      have h_handled : ∀ {b : Agent} {msg : SyncMessage} {p : Protocol},
          stepProtocol c a.protocol e (hears handler msg) = .ok p →
          b.protocol = p → b.pending = [(endOf handler, x)] → b.prelude = a.prelude →
          b.fishedDeep = a.fishedDeep → (∀ o ∈ b.trace, o.HandsOverInTime) →
            b.HandOverKept c := by
        rintro b msg p h_step rfl h_next h_prelude h_deep h_trace
        obtain ⟨h_bounds', -, h_session'⟩ :=
          stepProtocol_period hears_ne_rollPeriodForward h_step h_bounds h_a.session
        apply HandOverKept.of_waiting h_next h_bounds' h_session' ?_ h_trace
        rw [h_prelude, h_deep]
        exact timed_heard h_timed h_step
      cases h_taken with
      | ignored =>
          refine HandOverKept.of_waiting h_pending h_bounds h_a.session ?_ ?_
          · exact h_timed
          · exact List.forall_mem_cons.2 ⟨trivial, h_a.trace⟩
      | goesOn _ h_step =>
          apply h_handled h_step
          · rfl
          · exact h_pending
          · rfl
          · rw [fishedDeep_of_trace (startReceiving_trace e _ _) Effect.noConfusion]
            rfl
          · refine List.forall_mem_cons.2 ⟨trivial, ?_⟩
            exact List.forall_mem_cons.2 ⟨trivial, h_a.trace⟩
      | ends _ h_step =>
          apply h_handled h_step
          · rfl
          · exact h_pending
          · rfl
          · rfl
          · exact List.forall_mem_cons.2 ⟨trivial, h_a.trace⟩
  | @succeeded provision p h_pending _ h_step =>
      obtain ⟨i, y, rfl⟩ := Protocol.provisionSucceed_eq_ok h_step
      exact h_a.endProvisioning h_pending h_clock h_ends rfl rfl rfl
  | failed h_pending =>
      exact h_a.endProvisioning h_pending h_clock h_ends rfl rfl rfl

theorem handOverKept_boot (initTime loopTime : Nat) :
    (Agent.boot c initTime loopTime).HandOverKept c where
  bounds := Or.inr ⟨_, rfl⟩
  session := ⟨rfl, Nat.le_refl 1⟩
  waiting t x h_eq := by
    cases h_eq
    have h_sleep : loopTime + c.tm.clampedTimeDifferenceFromNow loopTime loopTime =
        max loopTime loopTime := c.tm.now_add_fromNow (by omega)
    exact h_sleep.trans (Nat.max_self loopTime)
  idle h_eq := by cases h_eq
  trace o h_mem := by
    cases List.mem_singleton.1 h_mem
    trivial

-- ============================================================================
-- No subtraction fails
-- ============================================================================

/-- There is time left after the sync slot. -/
theorem not_nonSyncLate (h_bounds : a.protocol.schedule.InBounds)
    (h_fits : a.protocol.fishing.SessionFits)
    (h_now : e.now = a.protocol.schedule.startTimeOfSyncPeriod + 50) : ¬ NonSyncLate c e a := by
  have h_long := h_bounds.end_ge
  have h_sleep := now_add_nowTilSyncPoint (c := c) (e := e) h_bounds (by omega) (by omega)
  intro h
  cases h with
  | sync _ h_late =>
      rw [virtualSlotDuration_eq] at h_late
      omega
  | fish _ _ h_far h_late =>
      have h_min := Protocol.fishStart_of_far h_bounds h_fits h_far
      have h_fish := now_add_deltaToFishSessionStart (c := c) (e := e) h_bounds (by omega)
      rw [virtualSlotDuration_eq] at h_late
      omega

/-- A task that runs on time has time left for the prelude of the next. -/
theorem TaskFails.handOver {flt : TaskFault} (h : TaskFails c e a t flt)
    (h_bounds : a.protocol.schedule.InBounds ∨ t = .startSyncPeriodMaintain)
    (h_session : a.protocol.fishing.SessionAgrees)
    (h_timed : Timed c a.protocol a.prelude a.fishedDeep t e.now)
    (h_fits : t = .fishSlotEnd → a.fishedDeep = true → a.protocol.DeepSessionFits) :
    flt ≠ .deltaSubtraction := by
  have h_in : t ≠ .startSyncPeriodMaintain → a.protocol.schedule.InBounds :=
    fun h_t => h_bounds.resolve_right h_t
  cases h with
  | notDone => exact TaskFault.noConfusion
  | done => exact TaskFault.noConfusion
  | @lateAfterMaintain p _ h_book h_late =>
      exfalso
      have h_now : e.now = p.schedule.endTimeOfSyncPeriod := by
        rw [Protocol.bookkeepingAtPreludeToSyncSlot_schedule h_book]
        exact h_timed
      obtain ⟨h_rolled, h_start, h_sleep⟩ := rolled_onTime (c := c) (a := a.bookkept e p)
        (t := .startSyncPeriodMaintain) h_now
      have h_long := h_rolled.end_ge
      rw [virtualSlotDuration_eq] at h_late
      omega
  | @lateAfterListening p p₁ h_end h_fish h_late =>
      have h_chosen := sessionChosen_of_listened h_end h_fish (h_in Task.noConfusion) h_session
      refine absurd h_late (not_nonSyncLate h_chosen.bounds h_chosen.fits ?_)
      show e.now = p₁.schedule.startTimeOfSyncPeriod + 50
      rw [h_chosen.start]
      exact h_timed.1
  | @lateAfterSending p h_fish h_late =>
      have h_chosen := sessionChosen_of_sent h_fish (h_in Task.noConfusion) h_session
      refine absurd h_late (not_nonSyncLate h_chosen.bounds h_chosen.fits ?_)
      show e.now = p.schedule.startTimeOfSyncPeriod + 50
      rw [h_chosen.start]
      exact h_timed.1
  | @lateAfterFishing p h_check h_undo h_late =>
      exfalso
      have h_bounds := h_in Task.noConfusion
      obtain ⟨h_schedule, h_far, -⟩ :=
        fishSlotEnd_decides h_bounds h_timed (h_fits rfl) h_check
      have h_left := h_far h_undo
      have h_start := timed_fishSlotEnd_ge h_timed
      rw [h_schedule, h_bounds.deltaNowToNextSyncPoint_eq c.tm h_start,
        virtualSlotDuration_eq] at h_late
      omega
  | @lateAfterMerging p h_sent h_undo h_late =>
      exfalso
      have h_bounds := h_in Task.noConfusion
      obtain ⟨h_schedule, -, h_same⟩ := Protocol.mergeSyncSent_frame (c := c) h_sent
      obtain ⟨h_far, -⟩ := mergerStartAndEnd_decides h_bounds h_timed
      have h_left := h_far (h_same ▸ h_undo)
      have h_x := h_timed.1
      rw [h_schedule, h_bounds.deltaNowToNextSyncPoint_eq c.tm (by omega),
        virtualSlotDuration_eq] at h_late
      omega
  | lateAfterProvisioning h_t h_undo h_late =>
      exfalso
      rw [virtualSlotDuration_eq] at h_late
      rcases h_t with rfl | ⟨rfl, -⟩
      · obtain ⟨h_far, h_end⟩ := provisionEnd_decides h_timed
        have h_left := h_far h_undo
        have h_sleep := now_add_nowTilSyncPoint (c := c) (h_in Task.noConfusion) h_timed.1 h_end
        omega
      · have h_bounds := h_in Task.noConfusion
        have h_long := h_bounds.end_ge
        have h_x := h_timed.1
        have h_sleep := now_add_nowTilSyncPoint (c := c) (e := e) h_bounds (by omega) (by omega)
        omega
  | other h_not =>
      rintro rfl
      cases h_not

end Agent

-- ============================================================================
-- Runs
-- ============================================================================

theorem inTimeSystem_handOverKept {c : Config} {a : Agent}
    (h : ((agentSystem c).guarded (Agent.InTime c)).Reachable a) : a.HandOverKept c := by
  refine Agent.invariant (Agent.HandOverKept c) h (fun i l _ => Agent.handOverKept_boot i l) ?_
  intro a e ev a' h_a h_clock _ h_in h_step
  exact h_step.handOverKept h_clock h_in h_a

/-- In every run in which the slots end in time, each prelude is scheduled where
    a virtual slot is left for it, every sync slot starts at its sync point with
    the prelude started a virtual slot earlier, and no subtraction fails. -/
theorem hand_over_in_time {c : Config} {a : Agent}
    (h : ((agentSystem c).guarded (Agent.InTime c)).Reachable a) :
    (∀ o ∈ a.trace, o.HandsOverInTime) ∧
      (∀ t x, (t, x) ∈ a.pending → Agent.startsSyncSlot t →
        x = a.protocol.schedule.endTimeOfSyncPeriod ∧ PreludeSince a.prelude x) ∧
      ∀ e ev flt, ((agentSystem c).guarded (Agent.InTime c)).enabled a (e, ev) →
        (agentSystem c).step a (e, ev) = .error flt → flt ≠ .deltaSubtraction := by
  have h_one := agentSystem_oneTask h
  have h_kept := inTimeSystem_handOverKept h
  refine ⟨h_kept.trace, ?_, ?_⟩
  · intro t x h_mem h_t
    exact (timed_startsSyncSlot h_t).1 (h_kept.waiting t x (h_one.pending_eq h_mem))
  · rintro e ev flt ⟨⟨-, h_possible⟩, h_time, h_ends⟩ h_step rfl
    obtain ⟨t, x, rfl, h_fails⟩ := Agent.stepAgent_fails h_step rfl
    have h_pending := h_one.pending_eq h_possible.1
    obtain ⟨h_bounds, h_timed, h_same⟩ := h_kept.dequeued h_pending h_time
    refine h_fails.handOver h_bounds h_kept.session h_timed ?_ rfl
    rintro rfl h_deep
    rw [h_same Task.noConfusion] at h_deep
    exact h_ends h_deep

/-- A merge message in the first sync slot makes unit five a deep fisher, of a
    sync point `offset` after the message. -/
def enticedTo (offset : DeltaSync) : List (Env × AgentEvent) :=
  [onTime .startSyncPeriodMaintain 0,
    onTime .theRadioPreludeTaskWSync 79950,
    onTime .startSyncSlotAfterPrelude 80000,
    arrives 80025 { masterSyncFrom 3 offset with type := .mergeOther },
    onTime .endSyncSlotListen 80050]

/-- It fishes in the middle of the period, and its next sync slot starts on time. -/
theorem hand_over_in_time_enticedTo :
    ∃ a, ((agentSystem unitFive).guarded (Agent.InTime unitFive)).Reachable a ∧
      a.fishedDeep = true ∧ a.protocol.schedule.startTimeOfSyncPeriod = 160000 ∧
      a.prelude = some 119950 ∧ ∀ o ∈ a.trace, o.HandsOverInTime := by
  obtain ⟨a, h, h_deep, h_start, h_prelude⟩ :=
    System.Reachable.exists_of_play
      (M := (agentSystem unitFive).guarded (Agent.InTime unitFive))
      (P := fun a => a.fishedDeep = true ∧
        a.protocol.schedule.startTimeOfSyncPeriod = 160000 ∧ a.prelude = some 119950)
      (enticedTo ⟨39975, by decide⟩ ++
        [onTime .theRadioPreludeTaskWFish 119950,
          onTime .fishSlotStart 120000,
          onTime .fishSlotEnd 120050,
          onTime .startSyncSlotWithoutScheduledPrelude 160000])
      ⟨0, 0, Nat.le_refl 0, rfl⟩ (by decide +kernel)
  exact ⟨a, h, h_deep, h_start, h_prelude, (hand_over_in_time h).1⟩

/-- A deep session that ends in the last virtual slot of its period: every task
    has run on time, and the prelude for the sync slot is too late by 35 ticks. -/
theorem deep_session_at_end_stops :
    ∃ a, ((agentSystem unitFive).guarded Agent.OnTime).Reachable a ∧
      ((agentSystem unitFive).guarded Agent.OnTime).enabled a (onTime .fishSlotEnd 159985) ∧
      (agentSystem unitFive).step a (onTime .fishSlotEnd 159985) = .error .deltaSubtraction :=
  System.Reachable.exists_of_play
    (enticedTo ⟨79910, by decide⟩ ++
      [onTime .theRadioPreludeTaskWFish 159885,
        onTime .fishSlotStart 159935])
    ⟨0, 0, Nat.le_refl 0, rfl⟩ (by decide +kernel)

end SleepSync
