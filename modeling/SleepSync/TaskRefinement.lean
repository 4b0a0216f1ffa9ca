/-
  SleepSync.TaskRefinement

  The task machine refines the system of events: each task is a few events of
  the protocol at one time, so whatever holds of a unit by any events in any
  order (`protocolSystem`) holds of it as its tasks run it.

  The other way a task can end is at an assertion.  `TaskStops` says where that
  assertion is: in one of the events, in the building of a message, or about the
  radio.
-/

import SleepSync.PeriodClock

namespace SleepSync

open Lib ScheduleParameters

-- ============================================================================
-- Events of one task
-- ============================================================================

section Events

variable {c : Config} {e : Env} {p p' : Protocol} {ev : ProtocolEvent}

/-- The events of tasks; the others come from packets and from the provisioner. -/
def ProtocolEvent.isTask : ProtocolEvent → Bool
  | .hearInSyncSlot _ | .hearInFishSlot _ | .provisionSucceed _ => false
  | _ => true

theorem ProtocolEvent.heard_of_isTask (h : ev.isTask = true) : ev.heard = none := by
  cases ev <;> first | rfl | cases h

/-- The events of one task, all in the same environment. -/
def quietSystem (c : Config) (e : Env) : System Protocol (Env × ProtocolEvent) Fault :=
  (protocolSystem c).guarded fun _ l => l.1 = e ∧ l.2.isTask = true

/-- An event of a task, in its period. -/
theorem quietly_of_stepProtocol (h_task : ev.isTask = true)
    (h_start : p.schedule.startTimeOfSyncPeriod ≤ e.now)
    (h_step : stepProtocol c p e ev = .ok p') : (quietSystem c e).Leads p p' := by
  refine Relation.ReflTransGen.single
    ⟨(e, ev), ⟨⟨h_start, fun h_some => ?_⟩, rfl, h_task⟩, h_step⟩
  exact absurd (ProtocolEvent.heard_of_isTask h_task) h_some

/-- An event that handles no message, in its period. -/
theorem leads_of_stepProtocol (h_heard : ev.heard = none)
    (h_start : p.schedule.startTimeOfSyncPeriod ≤ e.now)
    (h_step : stepProtocol c p e ev = .ok p') : (protocolSystem c).Leads p p' := by
  refine Relation.ReflTransGen.single ⟨(e, ev), ⟨h_start, fun h_some => ?_⟩, h_step⟩
  exact absurd h_heard h_some

theorem toSyncOnly_preludeToSyncPeriod (p : Protocol) :
    p.preludeToSyncPeriod.toSyncOnly = p.toSyncOnly.preludeToSyncPeriod := by
  have h_role : p.preludeToSyncPeriod.role = p.role := rfl
  unfold Protocol.toSyncOnly Protocol.toNoFishingFromOther
  dsimp only
  rw [h_role]
  split <;> rfl

theorem shouldProvision_preludeToSyncPeriod (c : Config) (p : Protocol) :
    p.preludeToSyncPeriod.shouldProvision c =
      ((p.shouldProvision c).1, (p.shouldProvision c).2.preludeToSyncPeriod) := by
  have h_counter : p.preludeToSyncPeriod.provisionCounter = p.provisionCounter := rfl
  unfold Protocol.shouldProvision
  rw [h_counter]
  split
  · split <;> rfl
  · rfl

theorem checkPowerAndTryModeTransitions_preludeToSyncPeriod (c : Config) (e : Env)
    (p : Protocol) :
    p.preludeToSyncPeriod.checkPowerAndTryModeTransitions c e =
      (p.checkPowerAndTryModeTransitions c e).preludeToSyncPeriod := by
  have h_mode : p.preludeToSyncPeriod.mode = p.mode := rfl
  unfold Protocol.checkPowerAndTryModeTransitions
  rw [h_mode, toSyncOnly_preludeToSyncPeriod, shouldProvision_preludeToSyncPeriod]
  cases p.mode with
  | maintain => dsimp only; split <;> rfl
  | syncOnly =>
      dsimp only
      split
      · rfl
      · split <;> rfl
  | syncAndFishMerge =>
      dsimp only
      split
      · rfl
      · split <;> rfl
  | syncAndProvision => dsimp only; split <;> rfl

/-- The bookkeeping is not about the period: it may as well be done after a roll. -/
theorem bookkeeping_preludeToSyncPeriod (h : p.bookkeepingAtPreludeToSyncSlot c e = .ok p') :
    p.preludeToSyncPeriod.bookkeepingAtPreludeToSyncSlot c e = .ok p'.preludeToSyncPeriod := by
  obtain ⟨f, h_f, rfl⟩ := bind_return_eq_ok.1 h
  have h_same : (p.preludeToSyncPeriod.callApp .onSyncPoint).checkPowerAndTryModeTransitions c e =
      ((p.callApp .onSyncPoint).checkPowerAndTryModeTransitions c e).preludeToSyncPeriod :=
    checkPowerAndTryModeTransitions_preludeToSyncPeriod c e (p.callApp .onSyncPoint)
  refine bind_return_eq_ok.2 ⟨f, ?_, ?_⟩
  · rw [h_same]
    exact h_f
  · rw [h_same]
    rfl

end Events

/-- The valid message that an event of the unit brings, if any. -/
def AgentEvent.message : AgentEvent → Option SyncMessage
  | .packet received => Agent.messageOf received
  | _ => none

/-- What the provisioner calls back with, if it does. -/
def AgentEvent.provisioned : AgentEvent → Option ProvisionedValue
  | .provisionerSucceed provision => some provision
  | _ => none

namespace Agent

variable {c : Config} {e : Env} {a a' : Agent} {ev : AgentEvent} {t : Task}

theorem SyncSlotNext.protocol {u : Bool} (h : SyncSlotNext c e a u a') :
    a'.protocol = a.protocol := by
  cases h <;> rfl

theorem NonSyncScheduled.quietly (h : NonSyncScheduled c e a a')
    (h_start : a.protocol.schedule.startTimeOfSyncPeriod ≤ e.now) :
    (quietSystem c e).Leads a.protocol a'.protocol := by
  have h_step : stepProtocol c a.protocol e .setStartAndEndTimes =
      .ok a.protocol.setStartAndEndTimes := rfl
  have h_set := quietly_of_stepProtocol rfl h_start h_step
  cases h with
  | omits => exact Relation.ReflTransGen.refl
  | merges =>
      split
      · exact Relation.ReflTransGen.refl
      · exact Relation.ReflTransGen.refl
  | fishesNear => exact h_set
  | fishesFar => exact h_set
  | provisions => exact Relation.ReflTransGen.refl
  | stalls => exact Relation.ReflTransGen.refl

/-- A task that rolls the period does it at its end, and not before. -/
theorem quietly_rolled {p : Protocol} (h_start : p.schedule.startTimeOfSyncPeriod ≤ e.now) :
    (quietSystem c e).Leads p p.preludeToSyncPeriod := by
  have h_step : stepProtocol c p e .rollPeriodForward = .ok p.preludeToSyncPeriod := rfl
  exact quietly_of_stepProtocol rfl h_start h_step

theorem leads_rolled {p : Protocol} (h_start : p.schedule.startTimeOfSyncPeriod ≤ e.now) :
    (protocolSystem c).Leads p p.preludeToSyncPeriod :=
  System.Leads.of_guarded (quietly_rolled (e := e) h_start)

theorem TaskRan.quietly (h : TaskRan c e a t a') (h_clock : a.clock = e.now)
    (h_waits : PeriodWaits c a t e.now) : (quietSystem c e).Leads a.protocol a'.protocol := by
  have h_start : a.protocol.schedule.startTimeOfSyncPeriod ≤ e.now := h_clock ▸ h_waits.start
  have h_book : ∀ {p : Protocol}, a.protocol.bookkeepingAtPreludeToSyncSlot c e = .ok p →
      (quietSystem c e).Leads a.protocol p := by
    intro p h_p
    have h_step : stepProtocol c a.protocol e .bookkeepingAtPreludeToSyncSlot = .ok p := h_p
    exact quietly_of_stepProtocol rfl h_start h_step
  have h_maintain : ∀ {p : Protocol}, a.protocol.bookkeepingAtPreludeToSyncSlot c e = .ok p →
      (quietSystem c e).Leads a.protocol p.preludeToSyncPeriod := by
    intro p h_p
    refine (h_book h_p).trans (quietly_rolled (e := e) ?_)
    rw [Protocol.bookkeepingAtPreludeToSyncSlot_schedule h_p]
    exact h_start
  have h_dispatch : ∀ {p : Protocol}, startsSyncSlot t →
      stepProtocol c a.protocol.preludeToSyncPeriod e .dispatchSyncSlotKind = .ok p →
        (quietSystem c e).Leads a.protocol p := by
    intro p h_t h_p
    have h_end : a.protocol.schedule.endTimeOfSyncPeriod ≤ e.now := by
      have h_early := h_waits.notEarly
      rcases h_t with rfl | rfl <;> exact h_early
    refine (quietly_rolled h_start).trans ?_
    exact quietly_of_stepProtocol rfl h_end h_p
  have h_fish : ∀ {p p₁ : Protocol}, (quietSystem c e).Leads a.protocol p →
      p.schedule.startTimeOfSyncPeriod = a.protocol.schedule.startTimeOfSyncPeriod →
      p.preFishing = .ok p₁ → (quietSystem c e).Leads a.protocol p₁ ∧
        p₁.schedule.startTimeOfSyncPeriod ≤ e.now := by
    intro p p₁ h_leads h_same h_p₁
    have h_step : stepProtocol c p e .preFishing = .ok p₁ := h_p₁
    refine ⟨h_leads.trans (quietly_of_stepProtocol rfl (h_same ▸ h_start) h_step), ?_⟩
    rw [Protocol.stepProtocol_start ProtocolEvent.noConfusion h_step, h_same]
    exact h_start
  cases h with
  | maintained _ _ h_p => exact h_maintain h_p
  | resumed _ _ h_p => exact h_maintain h_p
  | preludesSync h_p => exact h_book h_p
  | preludesFish => exact Relation.ReflTransGen.refl
  | pauses => exact quietly_rolled h_start
  | sends h_t _ _ _ _ _ h_step => exact h_dispatch h_t h_step
  | listens h_t _ _ _ _ h_step => exact h_dispatch h_t h_step
  | sent => exact Relation.ReflTransGen.refl
  | @listened p p₁ _ _ h_end h_p₁ h_next =>
      have h_step : stepProtocol c a.protocol e .endListen = .ok p := h_end
      obtain ⟨h_leads, h_start₁⟩ := h_fish (quietly_of_stepProtocol rfl h_start h_step)
        (Protocol.stepProtocol_start ProtocolEvent.noConfusion h_step) h_p₁
      exact h_leads.trans (h_next.quietly h_start₁)
  | @sentOver p _ _ h_p h_next =>
      obtain ⟨h_leads, h_start₁⟩ := h_fish Relation.ReflTransGen.refl rfl h_p
      exact h_leads.trans (h_next.quietly h_start₁)
  | fishes => exact Relation.ReflTransGen.refl
  | @fished p _ _ h_check h_next =>
      have h_step : stepProtocol c a.protocol e .checkFishingDone = .ok p := h_check
      rw [h_next.protocol]
      exact quietly_of_stepProtocol rfl h_start h_step
  | @merged msg p _ _ h_sent h_next =>
      have h_step : stepProtocol c a.protocol e .mergeSyncSent = .ok p := h_sent
      rw [h_next.protocol]
      exact quietly_of_stepProtocol rfl h_start h_step
  | provisions => exact Relation.ReflTransGen.refl
  | failsToProvision _ _ h_next =>
      rw [h_next.protocol]
      exact Relation.ReflTransGen.refl
  | provisioned h_next =>
      rw [h_next.protocol]
      exact Relation.ReflTransGen.refl

theorem TaskRan.leads (h : TaskRan c e a t a') (h_clock : a.clock = e.now)
    (h_waits : PeriodWaits c a t e.now) : (protocolSystem c).Leads a.protocol a'.protocol :=
  System.Leads.of_guarded (h.quietly h_clock h_waits)

/-- What an event of the unit is in the protocol: what tasks do, the handling of the
    message it brings, and what the provisioner calls back with. -/
inductive PartOf (ev : AgentEvent) : ProtocolEvent → Prop
  | task {event : ProtocolEvent} (h_task : event.isTask = true) : PartOf ev event
  | message {handler : MessageHandler} {msg : SyncMessage} (h_msg : ev.message = some msg) :
      PartOf ev (hears handler msg)
  | provision {provision : ProvisionedValue} (h_provisioned : ev.provisioned = some provision) :
      PartOf ev (.provisionSucceed provision)

theorem PartOf.heard {event : ProtocolEvent} (h : PartOf ev event) :
    ∀ msg ∈ event.heard, ev.message = some msg := by
  intro msg h_msg
  cases h with
  | task h_task =>
      rw [ProtocolEvent.heard_of_isTask h_task] at h_msg
      cases h_msg
  | @message handler m h_m =>
      obtain rfl : m = msg := by
        cases handler <;> exact Option.some.inj h_msg
      exact h_m
  | provision => cases h_msg

theorem PartOf.provisioned {provision : ProvisionedValue}
    (h : PartOf ev (.provisionSucceed provision)) : ev.provisioned = some provision := by
  generalize h_event : ProtocolEvent.provisionSucceed provision = event at h
  cases h with
  | task h_task =>
      subst h_event
      cases h_task
  | @message handler _ _ => cases handler <;> cases h_event
  | provision h_provisioned =>
      cases h_event
      exact h_provisioned

/-- The events of the protocol in one event of the unit, all at its time. -/
def eventSystem (c : Config) (e : Env) (ev : AgentEvent) :
    System Protocol (Env × ProtocolEvent) Fault :=
  (protocolSystem c).guarded fun _ l => l.1 = e ∧ PartOf ev l.2

theorem eventSystem_of_quiet {p p' : Protocol} (h : (quietSystem c e).Leads p p') :
    (eventSystem c e ev).Leads p p' := by
  refine System.Leads.guarded_mono h ?_
  rintro p ⟨e', event⟩ ⟨h_e, h_task⟩
  exact ⟨h_e, PartOf.task h_task⟩

theorem AgentStep.moves (h : AgentStep c e a ev a') (h_clock : a.clock ≤ e.now)
    (h_possible : ev.Possible a e) (h_a : a.PeriodKept c) :
    (eventSystem c e ev).Leads a.protocol a'.protocol := by
  cases h with
  | @ran t x _ h_pending h_expired _ _ h_ran =>
      have h_waits := h_a.waiting t x h_pending
      have h_leads := h_ran.quietly rfl ⟨h_waits.bounds, Nat.le_trans h_waits.start h_clock,
        h_waits.mode, notEarly_mono h_waits.notEarly h_expired, h_waits.provision⟩
      exact eventSystem_of_quiet h_leads
  | @heard packet handler x _ h_radio h_pending _ h_taken =>
      have h_heard : ∀ {msg : SyncMessage} {p : Protocol}, messageOf packet = some msg →
          stepProtocol c a.protocol e (hears handler msg) = .ok p →
            (eventSystem c e (.packet packet)).Leads a.protocol p := by
        intro msg p h_msg h_step
        obtain ⟨-, h_toa, h_now⟩ := h_possible
        refine Relation.ReflTransGen.single
          ⟨(e, hears handler msg), ⟨⟨?_, ?_⟩, rfl, PartOf.message h_msg⟩, h_step⟩
        · exact Nat.le_trans h_toa h_now
        · exact fun _ => ⟨h_toa, h_now⟩
      cases h_taken with
      | ignored => exact Relation.ReflTransGen.refl
      | goesOn h_msg h_step => exact h_heard h_msg h_step
      | ends h_msg h_step => exact h_heard h_msg h_step
  | @succeeded provision p h_pending _ h_step =>
      have h_start := (h_a.idle h_pending).period.start
      refine Relation.ReflTransGen.single ⟨(e, .provisionSucceed provision),
        ⟨⟨Nat.le_trans h_start h_clock, fun h_some => absurd rfl h_some⟩, rfl,
          PartOf.provision rfl⟩, h_step⟩
  | failed => exact Relation.ReflTransGen.refl

theorem AgentStep.leads (h : AgentStep c e a ev a') (h_clock : a.clock ≤ e.now)
    (h_possible : ev.Possible a e) (h_a : a.PeriodKept c) :
    (protocolSystem c).Leads a.protocol a'.protocol :=
  System.Leads.of_guarded (h.moves h_clock h_possible h_a)

/-- What every event of the protocol keeps that is part of the unit's. -/
theorem AgentStep.keeps {P : Protocol → Prop} (h : AgentStep c e a ev a')
    (h_clock : a.clock ≤ e.now) (h_possible : ev.Possible a e) (h_a : a.PeriodKept c)
    (h_event : ∀ p event p', P p → event.Timely p e → PartOf ev event →
      stepProtocol c p e event = .ok p' → P p') (h_P : P a.protocol) : P a'.protocol := by
  refine System.Preserves.leads ?_ (h.moves h_clock h_possible h_a) h_P
  rintro p ⟨e', event⟩ p' h_p ⟨h_timely, rfl, h_part⟩ h_step
  exact h_event p event p' h_p h_timely h_part h_step

/-- The unit is in a period, or the loader's first task is pending. -/
def IsProtocolRun (c : Config) (a : Agent) : Prop :=
  (protocolSystem c).Reachable a.protocol ∨
    ∃ initTime loopTime x, a.protocol = Protocol.boot c initTime loopTime ∧
      a.pending = [(.startSyncPeriodMaintain, x)]

/-- The first task of the loader: its bookkeeping, done before the first roll, is
    that of a unit in its first period. -/
theorem AgentStep.leaves_boot {initTime loopTime x : Nat} (h : AgentStep c e a ev a')
    (h_a : a.PeriodKept c) (h_boot : a.protocol = Protocol.boot c initTime loopTime)
    (h_first : a.pending = [(.startSyncPeriodMaintain, x)]) :
    (protocolSystem c).Reachable a'.protocol := by
  have h_booked : ∀ {p : Protocol}, x ≤ e.now →
      a.protocol.bookkeepingAtPreludeToSyncSlot c e = .ok p →
        (protocolSystem c).Reachable p.preludeToSyncPeriod := by
    intro p h_expired h_book
    have h_end : a.protocol.schedule.endTimeOfSyncPeriod ≤ x :=
      (h_a.waiting _ x h_first).notEarly
    have h_init : (protocolSystem c).Reachable a.protocol.preludeToSyncPeriod := by
      rw [h_boot]
      exact System.Reachable.start ⟨initTime, loopTime, rfl⟩
    have h_step : stepProtocol c a.protocol.preludeToSyncPeriod e
        .bookkeepingAtPreludeToSyncSlot = .ok p.preludeToSyncPeriod :=
      bookkeeping_preludeToSyncPeriod h_book
    refine h_init.leads (leads_of_stepProtocol rfl ?_ h_step)
    exact Nat.le_trans h_end h_expired
  cases h with
  | @ran t y _ h_pending h_expired _ _ h_ran =>
      rw [h_first] at h_pending
      cases h_pending
      cases h_ran with
      | maintained _ _ h_book => exact h_booked h_expired h_book
      | resumed _ _ h_book => exact h_booked h_expired h_book
      | pauses h_t => rcases h_t with h_t | h_t <;> cases h_t
      | sends h_t => rcases h_t with h_t | h_t <;> cases h_t
      | listens h_t => rcases h_t with h_t | h_t <;> cases h_t
  | @heard packet handler y _ _ h_pending =>
      rw [h_first] at h_pending
      cases handler <;> cases h_pending
  | succeeded h_pending =>
      rw [h_first] at h_pending
      cases h_pending
  | failed h_pending =>
      rw [h_first] at h_pending
      cases h_pending

end Agent

-- ============================================================================
-- Refinement
-- ============================================================================

/-- What the task machine reaches is reached by events of the protocol, once the
    loader's first task has run. -/
theorem agentSystem_refines {c : Config} {a : Agent} {ok : Agent → Env × AgentEvent → Prop}
    (h : ((agentSystem c).guarded ok).Reachable a) : a.IsProtocolRun c := by
  have h_both : a.PeriodKept c ∧ a.IsProtocolRun c := by
    refine Agent.invariant (fun a => a.PeriodKept c ∧ a.IsProtocolRun c) h ?_ ?_
    · intro i l _
      exact ⟨Agent.periodKept_boot i l, Or.inr ⟨i, l, _, rfl, rfl⟩⟩
    · rintro a e ev a' ⟨h_a, h_run⟩ h_clock h_possible - h_step
      refine ⟨h_step.periodKept h_clock h_a, Or.inl ?_⟩
      rcases h_run with h_reach | ⟨i, l, x, h_boot, h_first⟩
      · exact h_reach.leads (h_step.leads h_clock h_possible h_a)
      · exact h_step.leaves_boot h_a h_boot h_first
  exact h_both.2

section Protocols

variable {c : Config} {a : Agent}

/-- What holds in every run of the protocol, and where the loader boots it, holds in
    every run of the tasks. -/
theorem agentSystem_protocol {P : Protocol → Prop} (h : (agentSystem c).Reachable a)
    (h_boot : ∀ initTime loopTime, P (Protocol.boot c initTime loopTime))
    (h_run : ∀ p, (protocolSystem c).Reachable p → P p) : P a.protocol := by
  rcases agentSystem_refines h.guarded_true with h_reach | ⟨initTime, loopTime, x, h_same, -⟩
  · exact h_run _ h_reach
  · rw [h_same]
    exact h_boot initTime loopTime

/-- After the loader's first task the protocol of a unit is one of a run. -/
theorem agentSystem_reaches (h : (agentSystem c).Reachable a)
    (h_past : ∀ x, a.pending ≠ [(.startSyncPeriodMaintain, x)]) :
    (protocolSystem c).Reachable a.protocol := by
  rcases agentSystem_refines h.guarded_true with h_reach | ⟨_, _, x, -, h_first⟩
  · exact h_reach
  · exact absurd h_first (h_past x)

/-- It is while the unit listens. -/
theorem agentSystem_listening {handler : MessageHandler} (h : (agentSystem c).Reachable a)
    (h_radio : a.radio = some handler) : (protocolSystem c).Reachable a.protocol := by
  obtain ⟨y, h_pending⟩ := (agentSystem_oneTask h.guarded_true).radio _ h_radio
  refine agentSystem_reaches h fun x h_first => ?_
  rw [h_first] at h_pending
  cases handler <;> cases h_pending

end Protocols

end SleepSync
