/-
  SleepSync.AirRendezvous

  What the agreement of a clique is for: a sync message that is sent in the sync
  slot of its sender arrives at the phase of the sync slots of every unit of the
  clique.

  While a sending slot waits for its task, the period is not adjusted: its end is
  a whole period after its start, unless the unit has just scattered its clique.
  So the start of the slot has the phase of the clique.  A receiver has a slot at
  that phase in each period that is not adjusted; where its period was extended, it
  skips the slots in between, and has the next one at its next sync point.
-/

import SleepSync.AirAgreement
import SleepSync.AirControl
import SleepSync.Lib.Phase

namespace SleepSync

open Lib ScheduleParameters PhysicalParameters

-- ============================================================================
-- The slot of the sender
-- ============================================================================

namespace Protocol

/-- The sync slot that has started is a whole number of periods before the next sync
    point, unless the unit has just scattered its clique. -/
def StartInPhase (c : Config) (p : Protocol) : Prop :=
  InPhase p.schedule.startTimeOfSyncPeriod p.schedule.timeOfNextSyncPoint ∨
    (p.isSelfMaster c = true ∧ ¬ p.StaysTogether)

section Sender

variable {c : Config} {e : Env} {p p' : Protocol}

theorem preludeToSyncPeriod_startInPhase (p : Protocol) :
    InPhase p.preludeToSyncPeriod.schedule.startTimeOfSyncPeriod
      p.preludeToSyncPeriod.schedule.timeOfNextSyncPoint :=
  p.schedule.rollPeriodForward_inPhase.symm

theorem dispatch_startInPhase
    (h : stepProtocol c p.preludeToSyncPeriod e .dispatchSyncSlotKind = .ok p') :
    p'.StartInPhase c := by
  rcases dispatch_scatters h with ⟨h_schedule, -⟩ | ⟨-, -, h_own, h_callback⟩
  · refine Or.inl ?_
    rw [h_schedule]
    exact p.preludeToSyncPeriod_startInPhase
  · exact Or.inr ⟨decide_eq_true h_own, fun h_stays => h_stays.onDoneScatter h_callback rfl⟩

end Sender

end Protocol

namespace Agent

variable {c : Config} {e : Env} {a a' : Agent} {ev : AgentEvent} {x : Nat}

/-- What is pending is what was scheduled, where nothing was. -/
theorem task_of_schedule {b : Agent} {t t' : Task} {d : Nat} (h_idle : b.pending = [])
    (h : (b.schedule e t d).pending = [(t', x)]) : t = t' := by
  rw [schedule_pending_of_idle e t d h_idle] at h
  cases h
  rfl

/-- A task that leaves a sync message to be sent has started its slot. -/
theorem TaskRan.startInPhase {t : Task} (h : TaskRan c e a t a') (h_idle : a.pending = [])
    (h_sends : a'.pending = [(.sendSync, x)]) : a'.protocol.StartInPhase c := by
  have h_next : Task.sendSync ∈ t.next := (h.awaits h_idle).mem h_sends
  cases h with
  | sends _ _ _ _ _ _ h_step => exact Protocol.dispatch_startInPhase h_step
  | listens => cases task_of_schedule (by exact h_idle) h_sends
  | pauses => cases task_of_schedule (by exact h_idle) h_sends
  | _ => exact absurd h_next (by decide)

/-- In every run, while a sync message waits to be sent. -/
theorem sendSync_startInPhase (h : (agentSystem c).Reachable a)
    (h_sends : a.pending = [(.sendSync, x)]) : a.protocol.StartInPhase c := by
  revert x
  refine Agent.invariant (fun a => ∀ {x}, a.pending = [(.sendSync, x)] →
    a.protocol.StartInPhase c) h.guarded_true ?_ ?_
  · intro initTime loopTime _ x h_sends
    cases h_sends
  · intro a e ev a' _ _ _ _ h_step x h_sends
    cases h_step with
    | ran h_pending _ _ _ h_ran =>
        exact h_ran.startInPhase (dequeued_pending e _ _ h_pending) h_sends
    | @heard _ handler _ _ _ h_pending _ h_taken =>
        have h_same : a'.pending = a.pending := by
          cases h_taken <;> rfl
        rw [h_same, h_pending] at h_sends
        cases handler <;> cases h_sends
    | succeeded h_pending => cases task_of_schedule (by exact h_pending) h_sends
    | failed h_pending => cases task_of_schedule (by exact h_pending) h_sends

end Agent

-- ============================================================================
-- Sender and receivers
-- ============================================================================

namespace Units

variable {ι : Type} {u : Units ι} {zero : ι → ℤ} {k : ι} [DecidableEq ι] {w : ι → Agent}

/-- The best unit hears no better clique. -/
theorem hearsNoBetter_of_best (h_best : ∀ i, (u.config k).id ≤ (u.config i).id)
    {ok : (ι → Agent) → ι × (Env × AgentEvent) → Prop}
    (h : ((u.stations zero).air.guarded ok).Reachable w) {l : ι × (Env × AgentEvent)}
    (h_en : (u.stations zero).air.enabled w l) : u.HearsNoBetter k l := by
  intro _ msg h_msg h_type
  obtain ⟨j, f, h_f, h_from⟩ := heardFrom_of_enabled h_en h_msg
  obtain ⟨m, h_m⟩ := (air_follows h j).2 f h_f msg h_from.read
    (Protocol.doesCarrySync_of_type h_type)
  rw [h_m]
  exact h_best m

/-- The steps in which messages are sent in time, and no unit is provisioned to
    scatter its clique. -/
def SendsInTimeUnscattered (u : Units ι) (s : ι → Agent) (l : ι × (Env × AgentEvent)) : Prop :=
  u.SendsInTime s l ∧ ProvisionedOnly (· ≠ 1) s l

/-- No unit is told to scatter where none is provisioned so. -/
theorem notToldToScatter_of_unprovisioned
    (h : ((u.stations zero).air.guarded (ProvisionedOnly (· ≠ 1))).Reachable w)
    {l : ι × (Env × AgentEvent)} (h_en : (u.stations zero).air.enabled w l)
    (h_ok : ProvisionedOnly (· ≠ 1) w l) : u.NotToldToScatter k l := by
  refine fun _ => ⟨fun msg h_msg h_type => ?_, h_ok⟩
  obtain ⟨j, f, h_f, h_from⟩ := heardFrom_of_enabled h_en h_msg
  exact absurd rfl ((air_control_told h j).2 f h_f msg 1 h_from.read (.scatter h_type))

theorem keepsTogether_of_best (h_best : ∀ i, (u.config k).id ≤ (u.config i).id)
    (h : ((u.stations zero).air.guarded u.SendsInTimeUnscattered).Reachable w) :
    ((u.stations zero).air.guarded (u.KeepsTogether k)).Reachable w := by
  refine h.guarded_of_reachable ?_
  intro s l h_s h_en h_l
  have h_told : ((u.stations zero).air.guarded (ProvisionedOnly (· ≠ 1))).Reachable s :=
    h_s.guarded_of_reachable fun _ _ _ _ h_both => h_both.2
  exact ⟨h_l.1, hearsNoBetter_of_best h_best h_s h_en,
    notToldToScatter_of_unprovisioned h_told h_en h_l.2⟩

instance (s : ι → Agent) (l : ι × (Env × AgentEvent)) :
    Decidable (u.SendsInTimeUnscattered s l) :=
  inferInstanceAs (Decidable (_ ∧ _))

variable {i j : ι} {e : Env} {x : Nat}

/-- A unit of the clique that is about to send started its slot in phase. -/
theorem slotStart_inPhase
    (h : ((u.stations zero).air.guarded (u.KeepsTogether k)).Reachable w)
    (h_sends : (w j).pending = [(.sendSync, x)]) (h_j : (w j).protocol.masterID = (u.config k).id) :
    InPhase (zero j + (w j).protocol.schedule.startTimeOfSyncPeriod) (syncPoint zero w j) := by
  rcases Agent.sendSync_startInPhase (air_agent h j) h_sends with h_start | ⟨h_self, h_scatters⟩
  · exact h_start.add_left _
  · have h_id : (u.config j).id = (u.config k).id := (of_decide_eq_true h_self).symm.trans h_j
    obtain rfl : j = k := u.id_injective h_id
    obtain ⟨φ, h_all⟩ := air_inClique h
    exact absurd ((h_all j).1.head rfl).2 h_scatters

omit [DecidableEq ι] in
/-- What arrives at the phase of the slots of a unit arrives in the slot at its next
    sync point, or, if its period is not adjusted, in the slot of this period. -/
theorem arrives_in_slot_of_phase {arrival : ℤ}
    (h : InWindow normalSyncPeriodDuration virtualSlotDuration (syncPoint zero w i) arrival) :
    (syncPoint zero w i ≤ arrival → arrival < syncPoint zero w i + normalSyncPeriodDuration →
        arrival ≤ syncPoint zero w i + virtualSlotDuration) ∧
      ((w i).protocol.schedule.timeOfNextSyncPoint =
          (w i).protocol.schedule.startTimeOfSyncPeriod + normalSyncPeriodDuration →
        zero i + (w i).protocol.schedule.startTimeOfSyncPeriod ≤ arrival →
          arrival < syncPoint zero w i →
            arrival ≤ zero i + (w i).protocol.schedule.startTimeOfSyncPeriod +
              virtualSlotDuration) := by
  refine ⟨h.le_of_mem, fun h_unadjusted h_start h_end => ?_⟩
  have h_point : syncPoint zero w i =
      zero i + (w i).protocol.schedule.startTimeOfSyncPeriod + normalSyncPeriodDuration := by
    unfold syncPoint
    rw [h_unadjusted]
    omega
  have h_phase : syncPoint zero w i ≡ zero i + (w i).protocol.schedule.startTimeOfSyncPeriod
      [ZMOD normalSyncPeriodDuration] := by
    rw [h_point]
    exact Int.add_modEq_right
  exact ((InWindow.congr_start h_phase).1 h).le_of_mem h_start (h_point ▸ h_end)

/-- The rendezvous of the best clique.  In every run in which messages are sent in time
    and no unit is provisioned to scatter: what any unit of the clique sends in its
    sync slot arrives, for every unit of the clique, at the phase of its sync slots.
    If it arrives in a period that is not adjusted, it arrives in the slot of that
    period, and if it arrives in the period after the next sync point, in the slot
    there. -/
theorem air_rendezvous (h_best : ∀ i, (u.config k).id ≤ (u.config i).id)
    (h : ((u.stations zero).air.guarded u.SendsInTimeUnscattered).Reachable w)
    (h_en : (agentSystem (u.config j)).enabled (w j) (e, .timer .sendSync x))
    (h_slot : e.now + sendLatency (u.config j).platform ≤
      (w j).protocol.schedule.startTimeOfSyncPeriod + virtualSlotDuration)
    (h_j : (w j).protocol.masterID = (u.config k).id)
    (h_i : (w i).protocol.masterID = (u.config k).id) {arrival : ℤ}
    (h_arrival : arrival = zero j + e.now + sendLatency (u.config j).platform) :
    InWindow normalSyncPeriodDuration virtualSlotDuration (syncPoint zero w i) arrival ∧
      (syncPoint zero w i ≤ arrival →
        arrival < syncPoint zero w i + normalSyncPeriodDuration →
          arrival ≤ syncPoint zero w i + virtualSlotDuration) ∧
      ((w i).protocol.schedule.timeOfNextSyncPoint =
          (w i).protocol.schedule.startTimeOfSyncPeriod + normalSyncPeriodDuration →
        zero i + (w i).protocol.schedule.startTimeOfSyncPeriod ≤ arrival →
          arrival < syncPoint zero w i →
            arrival ≤ zero i + (w i).protocol.schedule.startTimeOfSyncPeriod +
              virtualSlotDuration) := by
  have h_keeps := keepsTogether_of_best h_best h
  have h_reach := air_agent h j
  obtain ⟨-, h_start⟩ := sendSync_inPeriod h_reach h_en
  have h_sends := (agentSystem_oneTask h_reach.guarded_true).pending_eq h_en.2.1
  obtain ⟨φ, h_all⟩ := air_inClique h_keeps
  have h_phase : InPhase (syncPoint zero w i)
      (zero j + (w j).protocol.schedule.startTimeOfSyncPeriod) :=
    calc syncPoint zero w i
        ≡ φ [ZMOD normalSyncPeriodDuration] := (h_all i).1.phase h_i
      _ ≡ syncPoint zero w j [ZMOD normalSyncPeriodDuration] := ((h_all j).1.phase h_j).symm
      _ ≡ zero j + (w j).protocol.schedule.startTimeOfSyncPeriod
          [ZMOD normalSyncPeriodDuration] := (slotStart_inPhase h_keeps h_sends h_j).symm
  have h_short : virtualSlotDuration < normalSyncPeriodDuration := by decide
  have h_window : InWindow normalSyncPeriodDuration virtualSlotDuration (syncPoint zero w i)
      arrival := by
    rw [InWindow.congr_start h_phase]
    exact InWindow.of_mem (by omega) (by omega) (by omega)
  exact ⟨h_window, arrives_in_slot_of_phase h_window⟩

/-- The clock of unit five is 1000 ticks ahead of that of unit three. -/
def thousandAhead (i : Fin 2) : ℤ := if i = five then -1000 else 0

/-- Unit five has joined unit three, and both start their next sync slot. -/
def meetsAgain : List (Fin 2 × (Env × AgentEvent)) :=
  [(three, onTime .startSyncPeriodMaintain 0), (five, onTime .startSyncPeriodMaintain 1000),
    (three, onTime .theRadioPreludeTaskWSync 79950), (five, onTime .theRadioPreludeTaskWSync 80950),
    (three, ({ Env.quiet 80000 with syncCoinToss := true },
      .timer .startSyncSlotAfterPrelude 80000)),
    (five, onTime .startSyncSlotAfterPrelude 81000),
    (three, onTime .sendSync 80015),
    (five, arrives 81025 syncOfThree),
    (three, onTime .endSyncSlotSend 80050),
    (three, onTime .fishSlotStart 80100),
    (three, onTime .fishSlotEnd 80150),
    (three, onTime .theRadioPreludeTaskWSync 159950),
    (three, ({ Env.quiet 160000 with syncCoinToss := true },
      .timer .startSyncSlotAfterPrelude 160000)),
    (five, ({ Env.quiet 81050 with isPowerAboveMedium := false },
      .timer .endSyncSlotListen 81050)),
    (five, onTime .theRadioPreludeTaskWSync 160950),
    (five, onTime .startSyncSlotAfterPrelude 161000)]

/-- Both have started their slot when three sends. -/
theorem air_rendezvous_meetsAgain :
    ∃ w, ((fiveAndThree.stations thousandAhead).air.guarded
        fiveAndThree.SendsInTimeUnscattered).Reachable w ∧
      (agentSystem (fiveAndThree.config 1)).enabled (w 1)
        (Env.quiet 160015, .timer .sendSync 160015) ∧
      (w 0).protocol.masterID = 3 ∧ (w 0).protocol.schedule.startTimeOfSyncPeriod = 161000 ∧
      thousandAhead 1 + (Env.quiet 160015).now + sendLatency (fiveAndThree.config 1).platform ≤
        thousandAhead 0 + (w 0).protocol.schedule.startTimeOfSyncPeriod + virtualSlotDuration := by
  obtain ⟨w, h, h_en, h_slot, h_five, h_three, h_start, h_unadjusted⟩ :=
    System.Reachable.exists_of_play
      (M := (fiveAndThree.stations thousandAhead).air.guarded
        fiveAndThree.SendsInTimeUnscattered)
      (P := fun w =>
        (agentSystem (fiveAndThree.config 1)).enabled (w 1)
            (Env.quiet 160015, .timer .sendSync 160015) ∧
          (Env.quiet 160015).now + sendLatency (fiveAndThree.config 1).platform ≤
            (w 1).protocol.schedule.startTimeOfSyncPeriod + virtualSlotDuration ∧
          (w 0).protocol.masterID = 3 ∧ (w 1).protocol.masterID = 3 ∧
          (w 0).protocol.schedule.startTimeOfSyncPeriod = 161000 ∧
          (w 0).protocol.schedule.timeOfNextSyncPoint = 161000 + normalSyncPeriodDuration)
      meetsAgain
      (show (fiveAndThree.stations thousandAhead).air.init
        (fun i => Agent.boot (fiveAndThree.config i) (1000 - 1000 * i) (1000 - 1000 * i)) from
          fun i => ⟨_, _, Nat.le_refl _, rfl⟩)
      (by decide +kernel)
  obtain ⟨-, -, h_present⟩ := air_rendezvous (k := 1) (i := 0) (by decide) h h_en h_slot h_three
    h_five rfl
  refine ⟨w, h, h_en, h_five, h_start, h_present ?_ ?_ ?_⟩
  · rw [h_start]
    exact h_unadjusted
  · rw [h_start]
    decide
  · unfold syncPoint
    rw [h_unadjusted]
    decide

end Units

end SleepSync
