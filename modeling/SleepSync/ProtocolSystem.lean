/-
  SleepSync.ProtocolSystem

  One unit as a system of events: everything that acts on its state, in any
  order and at any times.  The tasks of the program produce some of these
  orders; a result over all of them does not depend on the scheduling.

  What the events do to the clique (schedule, mastership, history) is said once
  by `CliqueChange`, over the part of the state that is about the clique.
  `stepProtocol_clique` is the refinement: every completed event is such a
  change, and an event that stops at an assertion of the schedule tried to
  adjust it by a time that the schedule rejects.
-/

import SleepSync.Slots
import SleepSync.Lib.Watch

namespace SleepSync

open Lib ScheduleParameters

inductive ProtocolEvent
  | rollPeriodForward
  | hearInSyncSlot (msg : SyncMessage)
  | hearInFishSlot (msg : SyncMessage)
  | dispatchSyncSlotKind
  | endListen
  | preFishing
  | setStartAndEndTimes
  | checkFishingDone
  | mergeSyncSent
  | bookkeepingAtPreludeToSyncSlot
  | provisionSucceed (provision : ProvisionedValue)
  deriving DecidableEq

/-- What an event does to the state of unit `c`. -/
def stepProtocol (c : Config) (p : Protocol) (e : Env) : ProtocolEvent → Except Fault Protocol
  | .rollPeriodForward => .ok p.preludeToSyncPeriod
  | .hearInSyncSlot msg => do
      let (_, p') ← Protocol.SyncSlot.handle c e p msg
      return p'
  | .hearInFishSlot msg => do
      let (_, p') ← Protocol.FishSlot.handle c e p msg
      return p'
  | .dispatchSyncSlotKind =>
      let (kind, p') := p.decideKind c e
      if kind = .sendControlSync then p'.checkDoneAndEnactControl c e else .ok p'
  | .endListen => p.endListen c e
  | .preFishing => p.preFishing
  | .setStartAndEndTimes => .ok p.setStartAndEndTimes
  | .checkFishingDone => p.checkFishingDone c
  | .mergeSyncSent => p.mergeSyncSent
  | .bookkeepingAtPreludeToSyncSlot => p.bookkeepingAtPreludeToSyncSlot c e
  | .provisionSucceed provision => p.provisionSucceed c provision

/-- A sync slot's control takes its action as it is sent; the other kinds wait for
    the task. -/
theorem stepProtocol_dispatchSyncSlotKind (c : Config) (p : Protocol) (e : Env) :
    stepProtocol c p e .dispatchSyncSlotKind =
      if (p.decideKind c e).1 = .sendControlSync then
        (p.decideKind c e).2.checkDoneAndEnactControl c e
      else .ok (p.decideKind c e).2 :=
  rfl

-- ============================================================================
-- What a completed event has done
-- ============================================================================

/-- The effect of each event, said once: what its handler does where it has one, and
    otherwise the parts of the state that it changes. -/
inductive EventDone (c : Config) (e : Env) (p : Protocol) : ProtocolEvent → Protocol → Prop
  | rolled : EventDone c e p .rollPeriodForward p.preludeToSyncPeriod
  | heard {msg : SyncMessage} {p' : Protocol} (h_heard : Protocol.SyncSlotHeard c e p msg p') :
      EventDone c e p (.hearInSyncSlot msg) p'
  | fished {msg : SyncMessage} {p' : Protocol} (h_fished : Protocol.FishSlotHeard c e p msg p') :
      EventDone c e p (.hearInFishSlot msg) p'
  | decided {i : IntraCliqueManager} {g : NetGranularity} {x : TransmitPowerdBm} :
      EventDone c e p .dispatchSyncSlotKind
        { p with intraClique := i, granularity := g, xmitPower := x }
  /-- a master has announced that the clique scatters -/
  | scattered {i : IntraCliqueManager} {f : Fishing} {s : Schedule}
      (h_master : p.isSelfMaster c = true) (h_fishing : p.fishing.restartTrollingMode = .ok f)
      (h_adjust : p.schedule.adjustWithRandomAddedTime e.randomOffset = .ok s) :
      EventDone c e p .dispatchSyncSlotKind
        { p with
          intraClique := i, masterID := c.id, isAdvancedStage := false
          fishing := f, schedule := s }
  | listened {p' : Protocol} (h_ended : Protocol.ListenEnded c e p p') :
      EventDone c e p .endListen p'
  | preFished {f : Fishing} (h_fishing : p.fishing.preFishing = .ok f) :
      EventDone c e p .preFishing { p with fishing := f }
  | startsFishing : EventDone c e p .setStartAndEndTimes p.setStartAndEndTimes
  | checked {p' : Protocol} (h_checked : Protocol.FishingChecked c p p') :
      EventDone c e p .checkFishingDone p'
  | sent (h_lt : p.countSentMergeSyncs < Policy.countSyncsPerMerger) :
      EventDone c e p .mergeSyncSent { p with countSentMergeSyncs := p.countSentMergeSyncs + 1 }
  /-- that was the last merge message -/
  | completed : EventDone c e p .mergeSyncSent p.stopMerger
  | booked {m : SyncMode} {r : Role} {k : CliqueMerger} {n : Nat} {f : Fishing} {a : List AppCall}
      (h_book : p.bookkeepingAtPreludeToSyncSlot c e = .ok { p with
        mode := m, role := r, cliqueMerger := k, provisionCounter := n
        fishing := f, appCalls := a }) :
      EventDone c e p .bookkeepingAtPreludeToSyncSlot
        { p with
          mode := m, role := r, cliqueMerger := k, provisionCounter := n
          fishing := f, appCalls := a }
  | provisioned {provision : ProvisionedValue} {i : IntraCliqueManager} {a : List AppCall} :
      EventDone c e p (.provisionSucceed provision) { p with intraClique := i, appCalls := a }

/-- The bookkeeping is about the mode with its role and merger, and about fishing. -/
theorem Protocol.bookkeeping_frame {c : Config} {e : Env} {p p' : Protocol}
    (h : p.bookkeepingAtPreludeToSyncSlot c e = .ok p') :
    ∃ m r k n f a, p' = { p with
      mode := m, role := r, cliqueMerger := k, provisionCounter := n
      fishing := f, appCalls := a } := by
  obtain ⟨f, -, rfl⟩ := bookkeepingAtPreludeToSyncSlot_eq_ok h
  obtain ⟨m, r, k, n, h_eq⟩ := checkPowerAndTryModeTransitions_eq c e (p.callApp .onSyncPoint)
  rw [h_eq]
  exact ⟨m, r, k, n, f, _, rfl⟩

open Protocol in
/-- Every completed event is one of these. -/
theorem stepProtocol_done {c : Config} {e : Env} {p p' : Protocol} {ev : ProtocolEvent}
    (h : stepProtocol c p e ev = .ok p') : EventDone c e p ev p' := by
  cases ev with
  | rollPeriodForward =>
      cases h
      exact EventDone.rolled
  | hearInSyncSlot msg =>
      obtain ⟨⟨r, p₁⟩, h_handle, rfl⟩ := bind_return_eq_ok.1 h
      exact EventDone.heard (SyncSlot.handle_heard h_handle)
  | hearInFishSlot msg =>
      obtain ⟨⟨r, p₁⟩, h_handle, rfl⟩ := bind_return_eq_ok.1 h
      exact EventDone.fished (FishSlot.handle_heard h_handle)
  | dispatchSyncSlotKind =>
      rw [stepProtocol_dispatchSyncSlotKind] at h
      split at h
      · rcases checkDoneAndEnactControl_eq_ok h with ⟨i, g, x, rfl⟩ | ⟨h_master, h_scatter⟩
        · exact EventDone.decided
        · obtain ⟨i, f, s, h_f, h_s, rfl⟩ := h_scatter
          exact EventDone.scattered h_master h_f h_s
      · cases h
        exact EventDone.decided (g := p.granularity) (x := p.xmitPower)
  | endListen => exact EventDone.listened (endListen_ended h)
  | preFishing =>
      obtain ⟨f, h_f, rfl⟩ := bind_return_eq_ok.1 h
      exact EventDone.preFished h_f
  | setStartAndEndTimes =>
      cases h
      exact EventDone.startsFishing
  | checkFishingDone => exact EventDone.checked (checkFishingDone_checked h)
  | mergeSyncSent =>
      rcases (mergeSyncSent_eq_ok h).2 with ⟨h_lt, rfl⟩ | ⟨-, rfl⟩
      · exact EventDone.sent h_lt
      · exact EventDone.completed
  | bookkeepingAtPreludeToSyncSlot =>
      obtain ⟨m, r, k, n, f, a, rfl⟩ := bookkeeping_frame h
      exact EventDone.booked h
  | provisionSucceed provision =>
      obtain ⟨i, a, rfl⟩ := provisionSucceed_eq_ok h
      exact EventDone.provisioned

-- ============================================================================
-- The clique, and how it can change
-- ============================================================================

/-- The part of the state that is about the clique. -/
structure CliqueState where
  schedule : Schedule
  masterID : Nat
  history : CliqueHistory

namespace CliqueState

variable (v : CliqueState)

/-- Another master, recorded in the history. -/
def withMaster (otherID : Nat) : CliqueState :=
  if v.masterID ≠ otherID then
    { v with masterID := otherID, history := v.history.add otherID }
  else
    v

end CliqueState

/-- How one event changes the clique of unit `c`: `heard` is the message it
    handles, if any. -/
inductive CliqueChange (c : Config) (e : Env) (heard : Option SyncMessage) (v : CliqueState) :
    CliqueState → Prop
  | kept : CliqueChange c e heard v v
  | rolled : CliqueChange c e heard v { v with schedule := v.schedule.rollPeriodForward }
  | joined {msg : SyncMessage} {s : Schedule} (h_heard : heard = some msg)
      (h_carries : msg.type.doesCarrySync = true) (h_le : msg.masterID ≤ v.masterID)
      (h_adjust : v.schedule.adjustBySyncMsg msg e.timeOfArrival = .ok s) :
      CliqueChange c e heard v { v.withMaster msg.masterID with schedule := s }
  | assumed : CliqueChange c e heard v { v with masterID := c.id }
  | scattered {s : Schedule}
      (h_adjust : v.schedule.adjustWithRandomAddedTime e.randomOffset = .ok s) :
      CliqueChange c e heard v { v with masterID := c.id, schedule := s }
  | grabbed {h : CliqueHistory}
      (h_pop : v.history.setCurrentCliqueRecordToFormerClique = .ok h) :
      CliqueChange c e heard v { v with masterID := c.id, history := h }
  | reverted {h : CliqueHistory} {s : Schedule}
      (h_pop : v.history.setCurrentCliqueRecordToFormerClique = .ok h)
      (h_adjust : v.schedule.adjustByCliqueHistoryOffset e.now
        CliqueHistory.offsetToCurrentClique = .ok s) :
      CliqueChange c e heard v
        { ({ v with history := h } : CliqueState).withMaster h.currentCliqueRecordMasterID with
          schedule := s }

namespace Protocol

variable (c : Config) (e : Env) (p : Protocol)

def clique : CliqueState where
  schedule := p.schedule
  masterID := p.masterID
  history := p.history

/-- The end of this sync slot declares a dropout that goes back to a clique that
    is not the unit's own. -/
def dropsOutToFormerMaster : Bool :=
  p.isSelfSlave c ∧ Policy.maxMissingSyncsPerDropout ≤ p.countSyncSlotsWithoutSyncMsg ∧
    p.history.recordMasterID (p.history.currentCliqueIndex - 1) ≠ c.id

end Protocol

-- ============================================================================
-- Refinement
-- ============================================================================

/-- The message an event handles. -/
def ProtocolEvent.heard : ProtocolEvent → Option SyncMessage
  | .hearInSyncSlot msg | .hearInFishSlot msg => some msg
  | _ => none

section Refinement

variable {c : Config} {e : Env} {p p' : Protocol} {ev : ProtocolEvent} {msg : SyncMessage}

namespace Protocol

theorem clique_withMaster (p : Protocol) (otherID : Nat) :
    p.clique.withMaster otherID =
      { schedule := p.schedule, masterID := otherID, history := p.historyWith otherID } := by
  unfold clique CliqueState.withMaster historyWith
  dsimp only
  by_cases h : p.masterID ≠ otherID
  · rw [if_pos h, if_pos h]
  · rw [if_neg h, if_neg h]
    have h_eq : p.masterID = otherID := not_not.1 h
    rw [← h_eq]

/-- The own clique or a better one has an ID that is not greater. -/
theorem masterID_le_of_keeps (h : p.isMsgFromMyClique msg.masterID = true ∨
    p.isOtherCliqueBetter msg.masterID = true) : msg.masterID ≤ p.masterID := by
  rcases h with h_mine | h_better
  · exact Nat.le_of_eq (of_decide_eq_true h_mine).symm
  · exact Nat.le_of_lt (of_decide_eq_true h_better)

end Protocol

open Protocol

theorem Protocol.SyncSlotHeard.clique (h : SyncSlotHeard c e p msg p') :
    CliqueChange c e (some msg) p.clique p'.clique := by
  cases h with
  | joined h_adopts h_adjust =>
      obtain ⟨h_type, h_keeps⟩ := adoptsInSyncSlot_iff.1 h_adopts
      have h_join : CliqueChange c e (some msg) p.clique _ :=
        CliqueChange.joined rfl (doesCarrySync_of_type h_type) (masterID_le_of_keeps h_keeps)
          h_adjust
      rwa [clique_withMaster] at h_join
  | scattered _ _ _ _ h_adjust => exact CliqueChange.scattered h_adjust
  | assumed => exact CliqueChange.assumed
  | enticed => exact CliqueChange.kept
  | other => exact CliqueChange.kept

theorem Protocol.FishSlotHeard.clique (h : FishSlotHeard c e p msg p') :
    CliqueChange c e (some msg) p.clique p'.clique := by
  have h_join : ∀ {s}, p.adoptsInFishSlot msg = true →
      p.schedule.adjustBySyncMsg msg e.timeOfArrival = .ok s →
      CliqueChange c e (some msg) p.clique (p.joining msg s).clique := by
    intro s h_adopts h_adjust
    obtain ⟨h_type, h_better⟩ := adoptsInFishSlot_iff.1 h_adopts
    have h_change : CliqueChange c e (some msg) p.clique _ :=
      CliqueChange.joined rfl (doesCarrySync_of_type h_type)
        (masterID_le_of_keeps (Or.inr h_better)) h_adjust
    rwa [clique_withMaster] at h_change
  cases h with
  | mergesMy _ _ h_adopts _ h_adjust => exact h_join h_adopts h_adjust
  | mergesOther => exact CliqueChange.kept
  | caughtDeep _ h_adopts h_adjust => exact h_join h_adopts h_adjust
  | kept => exact CliqueChange.kept

theorem Protocol.ListenEnded.clique (h : ListenEnded c e p p') :
    CliqueChange c e none p.clique p'.clique := by
  cases h with
  | asMaster => exact CliqueChange.kept
  | missed => exact CliqueChange.kept
  | grabbed _ _ h_pop => exact CliqueChange.grabbed h_pop
  | @reverted h _ _ _ _ h_pop _ h_adjust _ =>
      have h_revert : CliqueChange c e none p.clique _ := CliqueChange.reverted h_pop h_adjust
      have h_master := clique_withMaster { p with history := h } h.currentCliqueRecordMasterID
      unfold clique at h_revert h_master
      rwa [h_master] at h_revert

theorem Protocol.FishingChecked.clique (h : FishingChecked c p p') :
    CliqueChange c e none p.clique p'.clique := by
  cases h with
  | goesOn => exact CliqueChange.kept
  | @finished callback _ _ _ =>
      cases callback with
      | endWithNoAction => exact CliqueChange.kept
      | endWithRecoverMaster => exact CliqueChange.assumed

/-- Every completed event is a change of the clique. -/
theorem stepProtocol_clique (h : stepProtocol c p e ev = .ok p') :
    CliqueChange c e ev.heard p.clique p'.clique := by
  cases stepProtocol_done h with
  | rolled => exact CliqueChange.rolled
  | heard h_heard => exact h_heard.clique
  | fished h_fished => exact h_fished.clique
  | scattered _ _ h_adjust => exact CliqueChange.scattered h_adjust
  | listened h_ended => exact h_ended.clique
  | checked h_checked => exact h_checked.clique
  | _ => exact CliqueChange.kept

/-- The event adjusts the schedule only to times that the schedule accepts. -/
def ScheduleAccepts (c : Config) (p : Protocol) (e : Env) : ProtocolEvent → Prop
  | .hearInSyncSlot msg => p.adoptsInSyncSlot msg = true →
      p.schedule.AcceptsEventTime (Schedule.adjustedEventTimeFromMsg msg e.timeOfArrival)
  | .hearInFishSlot msg => p.adoptsInFishSlot msg = true →
      p.schedule.AcceptsEventTime (Schedule.adjustedEventTimeFromMsg msg e.timeOfArrival)
  | .endListen => p.dropsOutToFormerMaster c = true →
      p.schedule.unadjustedEndTimeOfSyncPeriod ≤ e.now + 1 ∧
        e.now + 1 ≤ p.schedule.startTimeOfSyncPeriod + 2 * normalSyncPeriodDuration
  | _ => True

/-- A message arrives between the start of the period and the moment it is
    handled, and time does not go back before the start of the period. -/
def ProtocolEvent.Timely (p : Protocol) (e : Env) (ev : ProtocolEvent) : Prop :=
  p.schedule.startTimeOfSyncPeriod ≤ e.now ∧
    (ev.heard ≠ none → p.schedule.startTimeOfSyncPeriod ≤ e.timeOfArrival ∧
      e.timeOfArrival ≤ e.now)

/-- An event stops at an assertion of the schedule only where it adjusts to a
    time that is not accepted. -/
theorem stepProtocol_eq_error {flt : Fault} (h_bounds : p.schedule.InBounds)
    (h_timely : ev.Timely p e) (h : stepProtocol c p e ev = .error flt)
    (h_adj : flt.isAdjust = true) : ¬ ScheduleAccepts c p e ev := by
  have h_random : ∀ {q : Prop},
      p.schedule.adjustWithRandomAddedTime e.randomOffset = .error flt → q := by
    intro q h_err
    obtain ⟨s, h_ok⟩ := Schedule.adjustWithRandomAddedTime_ok h_bounds e.randomOffset
    rw [h_ok] at h_err
    cases h_err
  have h_message : ∀ {msg : SyncMessage}, ev.heard = some msg →
      p.schedule.adjustBySyncMsg msg e.timeOfArrival = .error flt →
      ¬ p.schedule.AcceptsEventTime
        (Schedule.adjustedEventTimeFromMsg msg e.timeOfArrival) := by
    intro msg h_heard h_err h_acc
    have h_toa := (h_timely.2 (by rw [h_heard]; exact Option.some_ne_none msg)).1
    obtain ⟨s, h_ok⟩ := (Schedule.adjustBySyncMsg_ok_iff h_bounds h_toa).2 h_acc
    rw [h_ok] at h_err
    cases h_err
  cases ev with
  | rollPeriodForward => cases h
  | hearInSyncSlot msg =>
      rcases SyncSlot.handle_eq_error (bind_return_eq_error.1 h) with
        ⟨h_adopts, h_s⟩ | ⟨-, h_scatter⟩
      · exact fun h_acc => h_message rfl h_s (h_acc h_adopts)
      · exact h_random (handleScatterMessage_eq_error h_scatter h_adj)
  | hearInFishSlot msg =>
      obtain ⟨h_adopts, h_s⟩ := FishSlot.handle_eq_error (bind_return_eq_error.1 h) h_adj
      exact fun h_acc => h_message rfl h_s (h_acc h_adopts)
  | dispatchSyncSlotKind =>
      rw [stepProtocol_dispatchSyncSlotKind] at h
      split at h
      · have h_s := checkDoneAndEnactControl_eq_error h h_adj
        exact h_random h_s
      · cases h
  | endListen =>
      obtain ⟨h_slave, h_count, h_other, h_s⟩ := endListen_eq_error h h_adj
      intro h_acc
      have h_slave' : p.isSelfSlave c = true := by
        rw [isSelfSlave, h_slave]
        rfl
      obtain ⟨h_lo, h_hi⟩ := h_acc (decide_eq_true ⟨h_slave', h_count, h_other⟩)
      have h_start : p.schedule.startTimeOfSyncPeriod ≤ e.now + 1 :=
        Nat.le_trans h_timely.1 (Nat.le_succ _)
      rcases Schedule.adjust_eq_error h_s with ⟨-, h_lt⟩ | ⟨-, h_lt⟩
      · exact Nat.not_le_of_lt h_lt h_lo
      · rw [Schedule.adjustedEndTimeFromCliqueHistoryOffset,
          CliqueHistory.offsetToCurrentClique, LongTime.sub_of_le h_start] at h_lt
        omega
  | preFishing =>
      exact Fault.elim_isAdjust h_adj rfl (Fishing.preFishing_eq_error (bind_return_eq_error.1 h))
  | setStartAndEndTimes => cases h
  | checkFishingDone =>
      exact Fault.elim_isAdjust h_adj rfl (checkFishingDone_eq_error h)
  | mergeSyncSent =>
      exact Fault.elim_isAdjust h_adj rfl (mergeSyncSent_eq_error h)
  | bookkeepingAtPreludeToSyncSlot =>
      exact Fault.elim_isAdjust h_adj rfl (bookkeepingAtPreludeToSyncSlot_eq_error h)
  | provisionSucceed provision =>
      exact Fault.elim_isAdjust h_adj rfl (provisionSucceed_eq_error h)

/-- The event is a message that the unit adopts: in the sync slot, by merging its
    own clique, or by a catch in deep fishing. -/
def ProtocolEvent.Adopts (ev : ProtocolEvent) (p : Protocol) (msg : SyncMessage) : Prop :=
  (ev = .hearInSyncSlot msg ∧ p.adoptsInSyncSlot msg = true) ∨
    (ev = .hearInFishSlot msg ∧ p.adoptsInFishSlot msg = true)

/-- Whatever the way a message is adopted, the schedule is adjusted by it. -/
theorem ProtocolEvent.Adopts.adjusts (h : ev.Adopts p msg)
    (h_step : stepProtocol c p e ev = .ok p') :
    p.schedule.adjustBySyncMsg msg e.timeOfArrival = .ok p'.schedule := by
  rcases h with ⟨rfl, h_adopts⟩ | ⟨rfl, h_adopts⟩
  · obtain ⟨⟨r, p₁⟩, h_handle, rfl⟩ := bind_return_eq_ok.1 h_step
    obtain ⟨h_type, -⟩ := Protocol.adoptsInSyncSlot_iff.1 h_adopts
    cases Protocol.SyncSlot.handle_heard h_handle with
    | joined _ h_adjust => exact h_adjust
    | scattered h_t => simp only [h_t, reduceCtorEq, or_self] at h_type
    | assumed h_t => simp only [h_t, reduceCtorEq, or_self] at h_type
    | enticed h_t =>
        rcases h_type with h_m | h_m <;> simp only [h_m, reduceCtorEq, or_self] at h_t
    | other h_not => exact absurd h_adopts (ne_true_of_eq_false h_not)
  · obtain ⟨⟨r, p₁⟩, h_handle, rfl⟩ := bind_return_eq_ok.1 h_step
    obtain ⟨-, h_better⟩ := Protocol.adoptsInFishSlot_iff.1 h_adopts
    cases Protocol.FishSlot.handle_heard h_handle with
    | mergesMy _ _ _ _ h_adjust => exact h_adjust
    | mergesOther _ _ _ h_not => exact absurd h_better (ne_true_of_eq_false h_not)
    | caughtDeep _ _ h_adjust => exact h_adjust
    | kept h_not => exact absurd h_adopts (ne_true_of_eq_false h_not)

end Refinement

-- ============================================================================
-- One unit
-- ============================================================================

/-- One unit from the start of its first period, by any timely events. -/
def protocolSystem (c : Config) : System Protocol (Env × ProtocolEvent) Fault where
  init p := ∃ initTime loopTime, p = (Protocol.boot c initTime loopTime).preludeToSyncPeriod
  enabled p l := l.2.Timely p l.1
  step p l := stepProtocol c p l.1 l.2

/-- A completed event of a run. -/
abbrev ProtocolMove := Move Protocol (Env × ProtocolEvent)

instance (p : Protocol) (e : Env) (ev : ProtocolEvent) : Decidable (ev.Timely p e) :=
  inferInstanceAs (Decidable (_ ∧ _))

instance (c : Config) (p : Protocol) (l : Env × ProtocolEvent) :
    Decidable ((protocolSystem c).enabled p l) :=
  inferInstanceAs (Decidable (l.2.Timely p l.1))

theorem CliqueChange.inBounds {c : Config} {e : Env} {heard : Option SyncMessage}
    {v v' : CliqueState} (h : CliqueChange c e heard v v') (h_v : v.schedule.InBounds) :
    v'.schedule.InBounds := by
  cases h with
  | kept => exact h_v
  | rolled => exact Schedule.rollPeriodForward_inBounds _
  | joined _ _ _ h_adjust => exact h_v.adjustBySyncMsg h_adjust
  | assumed => exact h_v
  | scattered h_adjust => exact h_v.adjust h_adjust
  | grabbed => exact h_v
  | reverted _ h_adjust => exact h_v.adjust h_adjust

/-- In every reachable state the schedule is in bounds, since an adjustment that
    would leave them stops the unit. -/
theorem protocolSystem_inBounds {c : Config} {p : Protocol}
    (h : (protocolSystem c).Reachable p) : p.schedule.InBounds := by
  refine h.invariant (fun p => p.schedule.InBounds) ?_ ?_
  · rintro p ⟨initTime, loopTime, rfl⟩
    exact Schedule.rollPeriodForward_inBounds _
  · intro p l p' h_p _ h_step
    exact (stepProtocol_clique h_step).inBounds h_p

end SleepSync
