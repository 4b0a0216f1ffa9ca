/-
  SleepSync.TaskSteps

  What each task can do, said once: the state a completed task leaves
  (`TaskRan`), and, for the assertions of the hand-over from task to task, when
  a task stops at one (`TaskFails`).  What holds over all runs of the tasks is
  derived from these relations; no later proof unfolds a task.
-/

import SleepSync.Tasks

namespace SleepSync

open Lib ScheduleParameters

namespace Agent

variable (c : Config) (e : Env) (a : Agent)

-- ============================================================================
-- Parts of the states tasks leave
-- ============================================================================

/-- After the bookkeeping has left the protocol at `p`. -/
def bookkept (p : Protocol) : Agent :=
  { a with protocol := p }.record e .bookkeepingAtPreludeToSyncSlot

/-- After `task` has rolled the period forward. -/
def rolled (task : Task) : Agent :=
  { a.record e (.rollPeriodForward task) with protocol := a.protocol.preludeToSyncPeriod }

section Fields

variable (task : Task) (delay : Nat) (handler : MessageHandler)

@[simp] theorem schedule_pending :
    (a.schedule e task delay).pending = a.pending ++ [(task, e.now + delay)] := rfl
@[simp] theorem schedule_trace : (a.schedule e task delay).trace =
    ⟨.schedule task, e.now, a.prelude, a.protocol⟩ :: a.trace := rfl

@[simp] theorem startReceiving_trace : (a.startReceiving e handler).trace =
    ⟨.startReceiving handler, e.now, a.prelude, a.protocol⟩ :: a.trace := rfl

end Fields

/-- Where no task is pending, a new one is the only one. -/
theorem pending_append {a : Agent} (h : a.pending = []) (task : Task) (x : Nat) :
    a.pending ++ [(task, x)] = [(task, x)] := by
  rw [h, List.nil_append]

theorem schedule_pending_of_idle (task : Task) (delay : Nat) {a : Agent} (h : a.pending = []) :
    (a.schedule e task delay).pending = [(task, e.now + delay)] := by
  rw [schedule_pending, pending_append h]

-- ============================================================================
-- What tasks can do
-- ============================================================================

/-- After a slot of the non-sync period: either the prelude is undone and will
    be scheduled, or the sync slot starts without. -/
inductive SyncSlotNext (shouldUndo : Bool) : Agent → Prop
  | afterPrelude (h_undo : shouldUndo = true)
      (h_left : virtualSlotDuration ≤ a.nowTilSyncPoint c e) :
      SyncSlotNext shouldUndo (a.undo.schedule e .theRadioPreludeTaskWSync
        (a.nowTilSyncPoint c e - virtualSlotDuration))
  | abuts (h_undo : shouldUndo = false) :
      SyncSlotNext shouldUndo
        (a.schedule e .startSyncSlotWithoutScheduledPrelude (a.nowTilSyncPoint c e))

/-- After the sync slot, with the next fish slot decided. -/
inductive NonSyncScheduled : Agent → Prop
  | omits (h_mode : a.protocol.mode = .syncOnly ∨ a.protocol.mode = .syncAndFishMerge)
      (h_left : virtualSlotDuration ≤ a.nowTilSyncPoint c e) :
      NonSyncScheduled (a.undo.schedule e .theRadioPreludeTaskWSync
        (a.nowTilSyncPoint c e - virtualSlotDuration))
  | merges {delay : Nat} (h_mode : a.protocol.mode = .syncAndFishMerge)
      (h_role : a.protocol.role = .merger) (h_coin : e.mergeCoinToss = true)
      (h_delay : a.protocol.deltaToThisMergeStart c e = .ok delay) :
      NonSyncScheduled ((if a.protocol.isMergerStartSyncPeriod then a else a.undo).schedule e
        .mergerStartAndEnd delay)
  | fishesNear (h_mode : a.protocol.mode = .syncAndFishMerge) (h_role : a.protocol.role = .fisher)
      (h_near : a.protocol.fishing.isFishSlotStartSyncPeriod = true) :
      NonSyncScheduled (({ a with protocol := a.protocol.setStartAndEndTimes } : Agent).schedule e
        .fishSlotStart
        (a.protocol.setStartAndEndTimes.fishing.deltaToFishSessionStart c.tm e.now))
  | fishesFar (h_mode : a.protocol.mode = .syncAndFishMerge) (h_role : a.protocol.role = .fisher)
      (h_far : a.protocol.fishing.isFishSlotStartSyncPeriod = false)
      (h_left : virtualSlotDuration ≤
        a.protocol.setStartAndEndTimes.fishing.deltaToFishSessionStart c.tm e.now) :
      NonSyncScheduled (({ a.undo with
        protocol := a.protocol.setStartAndEndTimes } : Agent).schedule e .theRadioPreludeTaskWFish
        (a.protocol.setStartAndEndTimes.fishing.deltaToFishSessionStart c.tm e.now -
          virtualSlotDuration))
  | provisions (h_mode : a.protocol.mode = .syncAndProvision)
      (h_soft : c.softdevicePresent = true) :
      NonSyncScheduled (a.schedule e .provisionStart 0)
  | stalls (h_mode : a.protocol.mode = .syncAndProvision)
      (h_soft : c.softdevicePresent = false) : NonSyncScheduled a

/-- The tasks that start a sync slot. -/
def startsSyncSlot (task : Task) : Prop :=
  task = .startSyncSlotAfterPrelude ∨ task = .startSyncSlotWithoutScheduledPrelude

/-- What a completed task leaves. -/
inductive TaskRan : Task → Agent → Prop
  | maintained {p : Protocol} (h_prelude : a.prelude = none) (h_radio : a.radio = none)
      (h_book : a.protocol.bookkeepingAtPreludeToSyncSlot c e = .ok p)
      (h_mode : p.mode = .maintain) :
      TaskRan .startSyncPeriodMaintain
        (((a.bookkept e p).rolled e .startSyncPeriodMaintain).maintainSyncPeriod c e)
  | resumed {p : Protocol} (h_prelude : a.prelude = none) (h_radio : a.radio = none)
      (h_book : a.protocol.bookkeepingAtPreludeToSyncSlot c e = .ok p)
      (h_mode : p.mode ≠ .maintain)
      (h_left : virtualSlotDuration ≤
        ((a.bookkept e p).rolled e .startSyncPeriodMaintain).nowTilSyncPoint c e) :
      TaskRan .startSyncPeriodMaintain
        (((a.bookkept e p).rolled e .startSyncPeriodMaintain).schedule e
          .theRadioPreludeTaskWSync
          (((a.bookkept e p).rolled e .startSyncPeriodMaintain).nowTilSyncPoint c e -
            virtualSlotDuration))
  | preludesSync {p : Protocol} (h_book : a.protocol.bookkeepingAtPreludeToSyncSlot c e = .ok p) :
      TaskRan .theRadioPreludeTaskWSync
        (((a.schedule e .startSyncSlotAfterPrelude virtualSlotDuration).doIt e).bookkept e p)
  | preludesFish :
      TaskRan .theRadioPreludeTaskWFish ((a.schedule e .fishSlotStart virtualSlotDuration).doIt e)
  | pauses {t : Task} (h_t : startsSyncSlot t) (h_prelude : a.prelude ≠ none)
      (h_radio : a.radio = none) (h_mode : a.protocol.mode = .maintain) :
      TaskRan t ((a.rolled e t).maintainSyncPeriod c e).undo
  | sends {t : Task} {k : SyncSlotKind} {p p' : Protocol} {delay : Nat} (h_t : startsSyncSlot t)
      (h_prelude : a.prelude ≠ none) (h_radio : a.radio = none)
      (h_mode : a.protocol.mode ≠ .maintain) (h_kind : k ≠ .listen)
      (h_decide : (a.rolled e t).protocol.decideKind c e = (k, p))
      (h_step : stepProtocol c (a.rolled e t).protocol e .dispatchSyncSlotKind = .ok p')
      (h_delay : delay = c.tm.clampedTimeDifferenceFromNow e.now
        (p.schedule.timeOfThisSyncSlotMiddleSubslot c.platform)) :
      TaskRan t { ({ a.rolled e t with kind := k, protocol := p } : Agent).schedule e .sendSync
        delay with protocol := p' }
  | listens {t : Task} {p : Protocol} (h_t : startsSyncSlot t) (h_prelude : a.prelude ≠ none)
      (h_radio : a.radio = none) (h_mode : a.protocol.mode ≠ .maintain)
      (h_decide : (a.rolled e t).protocol.decideKind c e = (.listen, p))
      (h_step : stepProtocol c (a.rolled e t).protocol e .dispatchSyncSlotKind = .ok p) :
      TaskRan t ((({ a.rolled e t with kind := .listen, protocol := p } : Agent).startReceiving e
        .syncSlot).syncSlotEndFromListen c e)
  | sent {msg : SyncMessage} (h_msg : a.syncSlotMessage c e = .ok msg) :
      TaskRan .sendSync ((a.sendMessage e msg).syncSlotEndFromSend c e)
  | listened {p p₁ : Protocol} {a' : Agent} (h_prelude : a.prelude ≠ none)
      (h_end : a.protocol.endListen c e = .ok p) (h_fish : p.preFishing = .ok p₁)
      (h_next : NonSyncScheduled c e { a.stopReceive with protocol := p₁ } a') :
      TaskRan .endSyncSlotListen a'
  | sentOver {p : Protocol} {a' : Agent} (h_prelude : a.prelude ≠ none)
      (h_fish : a.protocol.preFishing = .ok p)
      (h_next : NonSyncScheduled c e { a with protocol := p } a') :
      TaskRan .endSyncSlotSend a'
  | fishes (h_prelude : a.prelude ≠ none) :
      TaskRan .fishSlotStart ((a.scheduleFishSlotEnd e).startReceiving e .fishSlot)
  | fished {p : Protocol} {a' : Agent} (h_prelude : a.prelude ≠ none)
      (h_check : a.protocol.checkFishingDone c = .ok p)
      (h_next : SyncSlotNext c e { a.stopReceive with protocol := p }
        (!p.fishing.isFishSlotEndSyncPeriod) a') :
      TaskRan .fishSlotEnd a'
  | merged {msg : SyncMessage} {p : Protocol} {a' : Agent}
      (h_msg : a.protocol.makeMergeMsg c e = .ok msg) (h_sent : a.protocol.mergeSyncSent = .ok p)
      (h_next : SyncSlotNext c e { a.sendMessage e msg with protocol := p }
        (!p.isMergerEndSyncPeriod c) a') :
      TaskRan .mergerStartAndEnd a'
  | provisions (h_prelude : a.prelude ≠ none) (h_start : e.isBLEStartedOK = true) :
      TaskRan .provisionStart { a with isProvisioning := true }
  | failsToProvision {a' : Agent} (h_prelude : a.prelude ≠ none)
      (h_start : e.isBLEStartedOK = false)
      (h_next : SyncSlotNext c e a (!a.protocol.isMergerEndSyncPeriod c) a') :
      TaskRan .provisionStart a'
  | provisioned {a' : Agent}
      (h_next : SyncSlotNext c e a (!a.protocol.isMergerEndSyncPeriod c) a') :
      TaskRan .provisionEnd a'

-- ============================================================================
-- When tasks stop at an assertion of the hand-over
-- ============================================================================

/-- The assertions that are about the prelude or about the time left for it. -/
def isHandOver : TaskFault → Bool
  | .preludeNotDone | .preludeDone | .deltaSubtraction => true
  | _ => false

/-- Too late to schedule what comes after the sync slot. -/
inductive NonSyncLate : Prop
  | sync (h_mode : a.protocol.mode = .syncOnly ∨ a.protocol.mode = .syncAndFishMerge)
      (h_late : a.nowTilSyncPoint c e < virtualSlotDuration)
  | fish (h_mode : a.protocol.mode = .syncAndFishMerge) (h_role : a.protocol.role = .fisher)
      (h_far : a.protocol.fishing.isFishSlotStartSyncPeriod = false)
      (h_late : a.protocol.setStartAndEndTimes.fishing.deltaToFishSessionStart c.tm e.now <
        virtualSlotDuration)

/-- The tasks that assert that the prelude is done. -/
def requiresPrelude : Task → Bool
  | .startSyncSlotAfterPrelude | .startSyncSlotWithoutScheduledPrelude | .endSyncSlotListen
  | .endSyncSlotSend | .fishSlotStart | .fishSlotEnd | .provisionStart => true
  | _ => false

/-- When a task stops at an assertion of the hand-over; nothing is said about the
    other assertions. -/
inductive TaskFails : Task → TaskFault → Prop
  | notDone {t : Task} (h_t : requiresPrelude t = true) (h_prelude : a.prelude = none) :
      TaskFails t .preludeNotDone
  | done (h_prelude : a.prelude ≠ none) : TaskFails .startSyncPeriodMaintain .preludeDone
  | lateAfterMaintain {p : Protocol} (h_mode : p.mode ≠ .maintain)
      (h_book : a.protocol.bookkeepingAtPreludeToSyncSlot c e = .ok p)
      (h_late : ((a.bookkept e p).rolled e .startSyncPeriodMaintain).nowTilSyncPoint c e <
        virtualSlotDuration) :
      TaskFails .startSyncPeriodMaintain .deltaSubtraction
  | lateAfterListening {p p₁ : Protocol} (h_end : a.protocol.endListen c e = .ok p)
      (h_fish : p.preFishing = .ok p₁)
      (h_late : NonSyncLate c e { a.stopReceive with protocol := p₁ }) :
      TaskFails .endSyncSlotListen .deltaSubtraction
  | lateAfterSending {p : Protocol} (h_fish : a.protocol.preFishing = .ok p)
      (h_late : NonSyncLate c e { a with protocol := p }) :
      TaskFails .endSyncSlotSend .deltaSubtraction
  | lateAfterFishing {p : Protocol} (h_check : a.protocol.checkFishingDone c = .ok p)
      (h_undo : p.fishing.isFishSlotEndSyncPeriod = false)
      (h_late : p.schedule.deltaNowToNextSyncPoint c.tm e.now < virtualSlotDuration) :
      TaskFails .fishSlotEnd .deltaSubtraction
  | lateAfterMerging {p : Protocol} (h_sent : a.protocol.mergeSyncSent = .ok p)
      (h_undo : p.isMergerEndSyncPeriod c = false)
      (h_late : p.schedule.deltaNowToNextSyncPoint c.tm e.now < virtualSlotDuration) :
      TaskFails .mergerStartAndEnd .deltaSubtraction
  | lateAfterProvisioning {t : Task}
      (h_t : t = .provisionEnd ∨ t = .provisionStart ∧ e.isBLEStartedOK = false)
      (h_undo : a.protocol.isMergerEndSyncPeriod c = false)
      (h_late : a.nowTilSyncPoint c e < virtualSlotDuration) :
      TaskFails t .deltaSubtraction
  | other {t : Task} {flt : TaskFault} (h : isHandOver flt = false) : TaskFails t flt

-- ============================================================================
-- One lemma for each task
-- ============================================================================

variable {c e a}

theorem ofProtocol_outcome {α : Type} {x : Except Fault α} {Q : α → Prop}
    {E : TaskFault → Prop} (h_ok : ∀ r, x = .ok r → Q r)
    (h_error : ∀ flt, E (.protocol flt)) : Outcome (ofProtocol x) Q E := by
  cases x with
  | ok r => exact h_ok r rfl
  | error flt => exact h_error flt

theorem isDone_iff : a.isDone = true ↔ a.prelude ≠ none :=
  Option.isSome_iff_ne_none

theorem not_isDone_iff : (!a.isDone) = true ↔ a.prelude = none := by
  rw [isDone, Bool.not_eq_true', Option.isSome_eq_false_iff, Option.isNone_iff_eq_none]

theorem lessPrelude_outcome (c : Config) (d : Nat) :
    Outcome (lessPrelude c d) (fun r => virtualSlotDuration ≤ d ∧ r = d - virtualSlotDuration)
      (fun flt => flt = .deltaSubtraction ∧ d < virtualSlotDuration) := by
  unfold lessPrelude preludeTilNextTask
  rcases h : c.tm.deltaSubtraction d virtualSlotDuration with _ | r
  · refine Outcome.error ⟨rfl, Nat.lt_of_not_le fun h_le => ?_⟩
    rw [c.tm.deltaSubtraction_of_le h_le] at h
    cases h
  · exact Outcome.ok (c.tm.deltaSubtraction_eq_some.1 h)

theorem radioPreludeTaskWSync_outcome (c : Config) (e : Env) (a : Agent) :
    Outcome (a.radioPreludeTaskWSync c e)
      (fun a' => virtualSlotDuration ≤ a.nowTilSyncPoint c e ∧
        a' = a.schedule e .theRadioPreludeTaskWSync
          (a.nowTilSyncPoint c e - virtualSlotDuration))
      (fun flt => flt = .deltaSubtraction ∧ a.nowTilSyncPoint c e < virtualSlotDuration) := by
  refine (lessPrelude_outcome c (a.nowTilSyncPoint c e)).bind ?_
  rintro delay - ⟨h_left, rfl⟩
  exact Outcome.pure ⟨h_left, rfl⟩

theorem radioPreludeTaskWFish_outcome (c : Config) (e : Env) (a : Agent) :
    Outcome (a.radioPreludeTaskWFish c e)
      (fun a' => virtualSlotDuration ≤ a.nowTilFishStart c e ∧
        a' = a.schedule e .theRadioPreludeTaskWFish
          (a.nowTilFishStart c e - virtualSlotDuration))
      (fun flt => flt = .deltaSubtraction ∧ a.nowTilFishStart c e < virtualSlotDuration) := by
  refine (lessPrelude_outcome c (a.nowTilFishStart c e)).bind ?_
  rintro delay - ⟨h_left, rfl⟩
  exact Outcome.pure ⟨h_left, rfl⟩

/-- With the prelude undone, the assertion before the scheduling holds. -/
theorem undo_syncSlotAfterSyncSlot_outcome (c : Config) (e : Env) (a : Agent)
    (h : a.prelude = none) :
    Outcome (a.syncSlotAfterSyncSlot c e)
      (fun a' => virtualSlotDuration ≤ a.nowTilSyncPoint c e ∧
        a' = a.schedule e .theRadioPreludeTaskWSync
          (a.nowTilSyncPoint c e - virtualSlotDuration))
      (fun flt => flt = .deltaSubtraction ∧ a.nowTilSyncPoint c e < virtualSlotDuration) := by
  refine Outcome.require_bind (fun h_not => ?_) (fun _ => ?_)
  · exact absurd (not_isDone_iff.2 h) h_not
  · exact radioPreludeTaskWSync_outcome c e a

theorem syncSlotAfterNonsyncSlot_outcome (c : Config) (e : Env) (a : Agent) (u : Bool) :
    Outcome (a.syncSlotAfterNonsyncSlot c e u) (SyncSlotNext c e a u)
      (fun flt => flt = .deltaSubtraction ∧ u = true ∧
        a.nowTilSyncPoint c e < virtualSlotDuration) := by
  unfold syncSlotAfterNonsyncSlot
  refine Outcome.ite (fun h_undo => ?_) (fun h_keep => ?_)
  · refine (undo_syncSlotAfterSyncSlot_outcome c e a.undo rfl).mono ?_ ?_
    · rintro a' ⟨h_left, rfl⟩
      exact SyncSlotNext.afterPrelude h_undo h_left
    · rintro flt ⟨h_flt, h_late⟩
      exact ⟨h_flt, h_undo, h_late⟩
  · exact Outcome.ok (SyncSlotNext.abuts (eq_false_of_ne_true h_keep))

theorem fishing_outcome (c : Config) (e : Env) (a : Agent) :
    Outcome (a.fishing c e)
      (fun a' =>
        (a.prelude ≠ none ∧ a' = a.schedule e .fishSlotStart (a.nowTilFishStart c e)) ∨
          (a.prelude = none ∧ virtualSlotDuration ≤ a.nowTilFishStart c e ∧
            a' = a.schedule e .theRadioPreludeTaskWFish
              (a.nowTilFishStart c e - virtualSlotDuration)))
      (fun flt => flt = .deltaSubtraction ∧ a.prelude = none ∧
        a.nowTilFishStart c e < virtualSlotDuration) := by
  unfold fishing
  refine Outcome.ite (fun h_done => ?_) (fun h_not => ?_)
  · refine Outcome.require_bind (fun h_absurd => absurd h_done h_absurd) (fun _ => ?_)
    exact Outcome.pure (Or.inl ⟨isDone_iff.1 h_done, rfl⟩)
  · have h_none : a.prelude = none := by
      by_contra h_some
      exact h_not (isDone_iff.2 h_some)
    refine (radioPreludeTaskWFish_outcome c e a).mono ?_ ?_
    · rintro a' ⟨h_left, h_eq⟩
      exact Or.inr ⟨h_none, h_left, h_eq⟩
    · rintro flt ⟨h_flt, h_late⟩
      exact ⟨h_flt, h_none, h_late⟩

/-- Whether the prelude is undone after the sync slot, in the modes in which that
    is asked. -/
def undoesAfterSyncing (p : Protocol) : Bool :=
  match p.mode with
  | .maintain | .syncOnly => true
  | .syncAndProvision => false
  | .syncAndFishMerge =>
      match p.role with
      | .fisher => !p.fishing.isFishSlotStartSyncPeriod
      | .merger => !p.isMergerStartSyncPeriod
      | .noFishing => true

theorem tryUndoAfterSyncing_outcome (a : Agent) :
    Outcome a.tryUndoAfterSyncing
      (fun a' => a.prelude ≠ none ∧
        a' = if undoesAfterSyncing a.protocol then a.undo else a)
      (fun flt => (flt = .preludeNotDone ∧ a.prelude = none) ∨ isHandOver flt = false) := by
  have h_should : Outcome a.shouldUndoAfterSyncing
      (fun b => a.prelude ≠ none ∧ b = undoesAfterSyncing a.protocol)
      (fun flt => (flt = .preludeNotDone ∧ a.prelude = none) ∨ isHandOver flt = false) := by
    refine Outcome.require_bind (fun h_not => Or.inl ⟨rfl, ?_⟩) (fun h_done => ?_)
    · by_contra h_some
      exact h_not (isDone_iff.2 h_some)
    · have h_some := isDone_iff.1 h_done
      unfold undoesAfterSyncing
      cases a.protocol.mode with
      | maintain => exact Outcome.error (Or.inr rfl)
      | syncOnly => exact Outcome.ok ⟨h_some, rfl⟩
      | syncAndProvision => exact Outcome.ok ⟨h_some, rfl⟩
      | syncAndFishMerge =>
          cases a.protocol.role <;> exact Outcome.ok ⟨h_some, rfl⟩
  refine h_should.bind ?_
  rintro b - ⟨h_some, rfl⟩
  exact Outcome.pure ⟨h_some, rfl⟩

theorem tryFishOrMerge_outcome (c : Config) (e : Env) (a : Agent)
    (h_mode : a.protocol.mode = .syncAndFishMerge) (h_prelude : a.prelude ≠ none) :
    Outcome ((if undoesAfterSyncing a.protocol then a.undo else a).tryFishOrMerge c e)
      (NonSyncScheduled c e a)
      (fun flt => (flt = .deltaSubtraction ∧ NonSyncLate c e a) ∨ isHandOver flt = false) := by
  have h_omit : ∀ b : Agent, b = a ∨ b = a.undo → Outcome (b.omitNonsyncSlot c e)
      (NonSyncScheduled c e a)
      (fun flt => (flt = .deltaSubtraction ∧ NonSyncLate c e a) ∨ isHandOver flt = false) := by
    intro b h_b
    have h_undo : b.undo = a.undo := by
      rcases h_b with rfl | rfl <;> rfl
    unfold omitNonsyncSlot
    rw [h_undo]
    refine (undo_syncSlotAfterSyncSlot_outcome c e a.undo rfl).mono ?_ ?_
    · rintro a' ⟨h_left, rfl⟩
      exact NonSyncScheduled.omits (Or.inr h_mode) h_left
    · rintro flt ⟨h_flt, h_late⟩
      exact Or.inl ⟨h_flt, NonSyncLate.sync (Or.inr h_mode) h_late⟩
  have h_either : ∀ b : Bool,
      (if b then a.undo else a) = a ∨ (if b then a.undo else a) = a.undo := by
    intro b
    cases b
    · exact Or.inl rfl
    · exact Or.inr rfl
  have h_protocol : (if undoesAfterSyncing a.protocol then a.undo else a).protocol =
      a.protocol := by
    split <;> rfl
  unfold tryFishOrMerge
  rw [h_protocol]
  cases h_role : a.protocol.role with
  | noFishing => exact h_omit _ (h_either _)
  | merger =>
      refine Outcome.ite (fun h_coin => ?_) (fun _ => h_omit _ (h_either _))
      unfold merger
      rw [h_protocol]
      refine (ofProtocol_outcome (Q := fun r => a.protocol.deltaToThisMergeStart c e = .ok r)
        (fun r h_r => h_r) (fun flt => Or.inr rfl)).bind ?_
      intro delay _ h_delay
      have h_undoes : (if undoesAfterSyncing a.protocol then a.undo else a) =
          if a.protocol.isMergerStartSyncPeriod then a else a.undo := by
        unfold undoesAfterSyncing
        rw [h_mode, h_role]
        cases a.protocol.isMergerStartSyncPeriod <;> rfl
      rw [h_undoes]
      exact Outcome.pure (NonSyncScheduled.merges h_mode h_role h_coin h_delay)
  | fisher =>
      refine Outcome.ite (fun h_power => ?_) (fun _ => h_omit _ (h_either _))
      cases h_near : a.protocol.fishing.isFishSlotStartSyncPeriod with
      | true =>
          have h_keeps : undoesAfterSyncing a.protocol = false := by
            unfold undoesAfterSyncing
            rw [h_mode, h_role, h_near]
            rfl
          rw [h_keeps]
          refine (fishing_outcome c e
            { a with protocol := a.protocol.setStartAndEndTimes }).mono ?_ ?_
          · rintro a' (⟨-, rfl⟩ | ⟨h_none, -⟩)
            · exact NonSyncScheduled.fishesNear h_mode h_role h_near
            · exact absurd h_none h_prelude
          · rintro flt ⟨-, h_none, -⟩
            exact absurd h_none h_prelude
      | false =>
          have h_undoes : undoesAfterSyncing a.protocol = true := by
            unfold undoesAfterSyncing
            rw [h_mode, h_role, h_near]
            rfl
          rw [h_undoes]
          refine (fishing_outcome c e
            { a.undo with protocol := a.protocol.setStartAndEndTimes }).mono ?_ ?_
          · rintro a' (⟨h_some, -⟩ | ⟨-, h_left, rfl⟩)
            · exact absurd rfl h_some
            · exact NonSyncScheduled.fishesFar h_mode h_role h_near h_left
          · rintro flt ⟨h_flt, -, h_late⟩
            exact Or.inl ⟨h_flt, NonSyncLate.fish h_mode h_role h_near h_late⟩

/-- The part of the hand-over that both ends of the sync slot share. -/
theorem scheduleNonSyncTask_outcome (c : Config) (e : Env) (a : Agent) :
    Outcome (a.scheduleNonSyncTask c e)
      (fun a' => a.prelude ≠ none ∧ ∃ p, a.protocol.preFishing = .ok p ∧
        NonSyncScheduled c e { a with protocol := p } a')
      (fun flt => (flt = .preludeNotDone ∧ a.prelude = none) ∨
        (flt = .deltaSubtraction ∧ ∃ p, a.protocol.preFishing = .ok p ∧
          NonSyncLate c e { a with protocol := p }) ∨ isHandOver flt = false) := by
  unfold scheduleNonSyncTask
  refine (ofProtocol_outcome (Q := fun r => a.protocol.preFishing = .ok r)
    (fun r h_r => h_r) (fun flt => Or.inr (Or.inr rfl))).bind ?_
  intro p _ h_p
  refine ((tryUndoAfterSyncing_outcome { a with protocol := p }).mono
    (fun _ h => h) ?_).bind ?_
  · rintro flt (h_not | h_other)
    · exact Or.inl h_not
    · exact Or.inr (Or.inr h_other)
  rintro a₁ - ⟨h_prelude, rfl⟩
  have h_fish : p.mode = .syncAndFishMerge → Outcome
      ((if undoesAfterSyncing p then ({ a with protocol := p } : Agent).undo
        else { a with protocol := p }).tryFishOrMerge c e)
      (fun a' => a.prelude ≠ none ∧ ∃ p, a.protocol.preFishing = .ok p ∧
        NonSyncScheduled c e { a with protocol := p } a')
      (fun flt => (flt = .preludeNotDone ∧ a.prelude = none) ∨
        (flt = .deltaSubtraction ∧ ∃ p, a.protocol.preFishing = .ok p ∧
          NonSyncLate c e { a with protocol := p }) ∨ isHandOver flt = false) := by
    intro h_mode
    refine (tryFishOrMerge_outcome c e { a with protocol := p } h_mode h_prelude).mono ?_ ?_
    · intro a' h_next
      exact ⟨h_prelude, p, h_p, h_next⟩
    · rintro flt (⟨h_flt, h_late⟩ | h_other)
      · exact Or.inr (Or.inl ⟨h_flt, p, h_p, h_late⟩)
      · exact Or.inr (Or.inr h_other)
  have h_protocol : (if undoesAfterSyncing p then ({ a with protocol := p } : Agent).undo
      else { a with protocol := p }).protocol = p := by
    split <;> rfl
  dsimp only
  rw [h_protocol]
  cases h_mode : p.mode with
  | maintain => exact Outcome.error (Or.inr (Or.inr rfl))
  | syncAndFishMerge => exact h_fish h_mode
  | syncOnly =>
      have h_undoes : undoesAfterSyncing p = true := by
        unfold undoesAfterSyncing
        rw [h_mode]
      rw [h_undoes]
      refine (undo_syncSlotAfterSyncSlot_outcome c e
        ({ a with protocol := p } : Agent).undo rfl).mono ?_ ?_
      · rintro a' ⟨h_left, rfl⟩
        exact ⟨h_prelude, p, h_p, NonSyncScheduled.omits (Or.inl h_mode) h_left⟩
      · rintro flt ⟨h_flt, h_late⟩
        exact Or.inr (Or.inl ⟨h_flt, p, h_p, NonSyncLate.sync (Or.inl h_mode) h_late⟩)
  | syncAndProvision =>
      have h_keeps : undoesAfterSyncing p = false := by
        unfold undoesAfterSyncing
        rw [h_mode]
      rw [h_keeps]
      refine Outcome.ite (fun h_soft => ?_) (fun h_soft => ?_)
      · exact Outcome.pure ⟨h_prelude, p, h_p, NonSyncScheduled.provisions h_mode h_soft⟩
      · exact Outcome.pure ⟨h_prelude, p, h_p,
          NonSyncScheduled.stalls h_mode (eq_false_of_ne_true h_soft)⟩

theorem bookkeepingAtPreludeToSyncSlot_outcome (c : Config) (e : Env) (a : Agent) :
    Outcome (a.bookkeepingAtPreludeToSyncSlot c e)
      (fun a' => ∃ p, a.protocol.bookkeepingAtPreludeToSyncSlot c e = .ok p ∧
        a' = a.bookkept e p)
      (fun flt => isHandOver flt = false) := by
  refine (ofProtocol_outcome
    (Q := fun r => a.protocol.bookkeepingAtPreludeToSyncSlot c e = .ok r)
    (fun r h_r => h_r) (fun flt => rfl)).bind ?_
  intro p _ h_p
  exact Outcome.pure ⟨p, h_p, rfl⟩

theorem bookkeepingAtStartSyncSlot_outcome (e : Env) (a : Agent) (t : Task) :
    Outcome (a.bookkeepingAtStartSyncSlot e t)
      (fun a' => a.radio = none ∧ a' = a.rolled e t)
      (fun flt => isHandOver flt = false) := by
  refine Outcome.require_bind (fun _ => rfl) (fun h_radio => ?_)
  exact Outcome.pure ⟨Option.isNone_iff_eq_none.1 h_radio, rfl⟩

theorem startSyncPeriodMaintain_outcome (c : Config) (e : Env) (a : Agent) :
    Outcome (a.startSyncPeriodMaintain c e) (TaskRan c e a .startSyncPeriodMaintain)
      (TaskFails c e a .startSyncPeriodMaintain) := by
  refine Outcome.require_bind (fun h_done => ?_) (fun h_not => ?_)
  · exact TaskFails.done fun h_none => h_done (not_isDone_iff.2 h_none)
  refine ((bookkeepingAtPreludeToSyncSlot_outcome c e a).mono (fun _ h => h)
    (fun _ h => TaskFails.other h)).bind ?_
  rintro a₁ - ⟨p, h_book, rfl⟩
  refine ((bookkeepingAtStartSyncSlot_outcome e (a.bookkept e p) _).mono (fun _ h => h)
    (fun _ h => TaskFails.other h)).bind ?_
  rintro a₂ - ⟨h_radio, rfl⟩
  have h_prelude := not_isDone_iff.1 h_not
  refine Outcome.ite (fun h_mode => ?_) (fun h_mode => ?_)
  · exact Outcome.pure (TaskRan.maintained h_prelude h_radio h_book h_mode)
  · refine (radioPreludeTaskWSync_outcome c e _).mono ?_ ?_
    · rintro a' ⟨h_left, rfl⟩
      exact TaskRan.resumed h_prelude h_radio h_book h_mode h_left
    · rintro flt ⟨rfl, h_late⟩
      exact TaskFails.lateAfterMaintain (p := p) h_mode h_book h_late

theorem theRadioPreludeTaskWSync_outcome (c : Config) (e : Env) (a : Agent) :
    Outcome (a.theRadioPreludeTaskWSync c e) (TaskRan c e a .theRadioPreludeTaskWSync)
      (TaskFails c e a .theRadioPreludeTaskWSync) := by
  refine (bookkeepingAtPreludeToSyncSlot_outcome c e
    ((a.startSyncSlotFromPreludeStart e).doIt e)).mono ?_ (fun _ h => TaskFails.other h)
  rintro a' ⟨p, h_book, rfl⟩
  exact TaskRan.preludesSync h_book

/-- The kind of the sync slot, with what the control of a sending one enacts, is
    one event of the protocol. -/
theorem dispatchSyncSlotKind_outcome (c : Config) (e : Env) (a : Agent) {t : Task}
    (h_t : startsSyncSlot t) (h_prelude : a.prelude ≠ none) (h_radio : a.radio = none)
    (h_mode : a.protocol.mode ≠ .maintain) :
    Outcome ((a.rolled e t).dispatchSyncSlotKind c e) (TaskRan c e a t)
      (fun flt => isHandOver flt = false) := by
  unfold dispatchSyncSlotKind
  rcases h_decide : (a.rolled e t).protocol.decideKind c e with ⟨k, p⟩
  have h_step : stepProtocol c (a.rolled e t).protocol e .dispatchSyncSlotKind =
      if k = SyncSlotKind.sendControlSync then p.checkDoneAndEnactControl c e else .ok p := by
    rw [stepProtocol_dispatchSyncSlotKind, h_decide]
  cases k with
  | sendControlSync =>
      refine (ofProtocol_outcome (Q := fun r => p.checkDoneAndEnactControl c e = .ok r)
        (fun r h_r => h_r) (fun flt => rfl)).bind ?_
      intro p' _ h_p'
      refine Outcome.pure (TaskRan.sends h_t h_prelude h_radio h_mode ?_ h_decide ?_ rfl)
      · exact SyncSlotKind.noConfusion
      · rw [h_step, if_pos rfl, h_p']
  | sendWorkSync =>
      refine Outcome.ok (TaskRan.sends h_t h_prelude h_radio h_mode ?_ h_decide h_step rfl)
      exact SyncSlotKind.noConfusion
  | sendSync =>
      refine Outcome.ok (TaskRan.sends h_t h_prelude h_radio h_mode ?_ h_decide h_step rfl)
      exact SyncSlotKind.noConfusion
  | listen => exact Outcome.ok (TaskRan.listens h_t h_prelude h_radio h_mode h_decide h_step)

theorem startSyncSlot_outcome (c : Config) (e : Env) (a : Agent) {t : Task}
    (h_t : startsSyncSlot t) :
    Outcome (a.startSyncSlot c e t) (TaskRan c e a t) (TaskFails c e a t) := by
  have h_requires : requiresPrelude t = true := by
    rcases h_t with rfl | rfl <;> rfl
  refine Outcome.require_bind (fun h_not => ?_) (fun h_done => ?_)
  · refine TaskFails.notDone h_requires ?_
    by_contra h_some
    exact h_not (isDone_iff.2 h_some)
  refine ((bookkeepingAtStartSyncSlot_outcome e a t).mono (fun _ h => h)
    (fun _ h => TaskFails.other h)).bind ?_
  rintro a₁ - ⟨h_radio, rfl⟩
  have h_prelude := isDone_iff.1 h_done
  refine Outcome.ite (fun h_mode => ?_) (fun h_mode => ?_)
  · exact Outcome.pure (TaskRan.pauses h_t h_prelude h_radio h_mode)
  · exact (dispatchSyncSlotKind_outcome c e a h_t h_prelude h_radio h_mode).mono
      (fun _ h => h) (fun _ h => TaskFails.other h)

theorem sendSync_outcome (c : Config) (e : Env) (a : Agent) :
    Outcome (a.sendSync c e) (TaskRan c e a .sendSync) (TaskFails c e a .sendSync) := by
  have h_message : Outcome (a.syncSlotMessage c e) (fun msg => a.syncSlotMessage c e = .ok msg)
      (TaskFails c e a .sendSync) := by
    refine Outcome.intro (fun _ h => h) (fun flt h => TaskFails.other ?_)
    unfold syncSlotMessage at h
    have h_of : ∀ {x : Except Fault SyncMessage}, ofProtocol x = .error flt →
        isHandOver flt = false := by
      intro x h_x
      exact (ofProtocol_outcome (Q := fun _ => True) (E := fun flt => isHandOver flt = false)
        (fun _ _ => trivial) (fun _ => rfl)).fault h_x
    cases h_kind : a.kind <;> rw [h_kind] at h
    · exact h_of h
    · exact h_of h
    · exact h_of h
    · cases h
      rfl
  refine h_message.bind ?_
  intro msg _ h_msg
  exact Outcome.pure (TaskRan.sent h_msg)

theorem endSyncSlotListen_outcome (c : Config) (e : Env) (a : Agent) :
    Outcome (a.endSyncSlotListen c e) (TaskRan c e a .endSyncSlotListen)
      (TaskFails c e a .endSyncSlotListen) := by
  have h_listen : Outcome (a.endListen c e)
      (fun a' => ∃ p, a.protocol.endListen c e = .ok p ∧
        a' = { a.stopReceive with protocol := p })
      (TaskFails c e a .endSyncSlotListen) := by
    refine (ofProtocol_outcome (Q := fun r => a.protocol.endListen c e = .ok r)
      (fun r h_r => h_r) (fun flt => TaskFails.other rfl)).bind ?_
    intro p _ h_p
    exact Outcome.pure ⟨p, h_p, rfl⟩
  refine h_listen.bind ?_
  rintro a₁ - ⟨p, h_end, rfl⟩
  refine (scheduleNonSyncTask_outcome c e { a.stopReceive with protocol := p }).mono ?_ ?_
  · rintro a' ⟨h_prelude, p₁, h_fish, h_next⟩
    exact TaskRan.listened h_prelude h_end h_fish h_next
  · rintro flt (⟨rfl, h_none⟩ | ⟨rfl, p₁, h_fish, h_late⟩ | h_other)
    · exact TaskFails.notDone rfl h_none
    · exact TaskFails.lateAfterListening h_end h_fish h_late
    · exact TaskFails.other h_other

theorem endSyncSlotSend_outcome (c : Config) (e : Env) (a : Agent) :
    Outcome (a.endSyncSlotSend c e) (TaskRan c e a .endSyncSlotSend)
      (TaskFails c e a .endSyncSlotSend) := by
  have h_none : ¬ a.isDone = true → a.prelude = none := by
    intro h_not
    by_contra h_some
    exact h_not (isDone_iff.2 h_some)
  refine Outcome.require_bind (fun h_not => TaskFails.notDone rfl (h_none h_not)) (fun _ => ?_)
  refine (scheduleNonSyncTask_outcome c e a).mono ?_ ?_
  · rintro a' ⟨h_prelude, p, h_fish, h_next⟩
    exact TaskRan.sentOver h_prelude h_fish h_next
  · rintro flt (⟨rfl, h_none⟩ | ⟨rfl, p, h_fish, h_late⟩ | h_other)
    · exact TaskFails.notDone rfl h_none
    · exact TaskFails.lateAfterSending h_fish h_late
    · exact TaskFails.other h_other

theorem fishSlotStart_outcome (c : Config) (e : Env) (a : Agent) :
    Outcome (a.fishSlotStart e) (TaskRan c e a .fishSlotStart)
      (TaskFails c e a .fishSlotStart) := by
  refine Outcome.require_bind (fun h_not => ?_) (fun h_done => ?_)
  · refine TaskFails.notDone rfl ?_
    by_contra h_some
    exact h_not (isDone_iff.2 h_some)
  · exact Outcome.pure (TaskRan.fishes (isDone_iff.1 h_done))

theorem fishSlotEnd_outcome (c : Config) (e : Env) (a : Agent) :
    Outcome (a.fishSlotEnd c e) (TaskRan c e a .fishSlotEnd)
      (TaskFails c e a .fishSlotEnd) := by
  refine Outcome.require_bind (fun h_not => ?_) (fun h_done => ?_)
  · refine TaskFails.notDone rfl ?_
    by_contra h_some
    exact h_not (isDone_iff.2 h_some)
  refine (ofProtocol_outcome (Q := fun r => a.protocol.checkFishingDone c = .ok r)
    (fun r h_r => h_r) (fun flt => TaskFails.other rfl)).bind ?_
  intro p _ h_check
  refine (syncSlotAfterNonsyncSlot_outcome c e { a.stopReceive with protocol := p } _).mono ?_ ?_
  · intro a' h_next
    exact TaskRan.fished (isDone_iff.1 h_done) h_check h_next
  · rintro flt ⟨rfl, h_undo, h_late⟩
    exact TaskFails.lateAfterFishing h_check (Bool.not_eq_true' _ ▸ h_undo) h_late

theorem mergerStartAndEnd_outcome (c : Config) (e : Env) (a : Agent) :
    Outcome (a.mergerStartAndEnd c e) (TaskRan c e a .mergerStartAndEnd)
      (TaskFails c e a .mergerStartAndEnd) := by
  refine (ofProtocol_outcome (Q := fun r => a.protocol.makeMergeMsg c e = .ok r)
    (fun r h_r => h_r) (fun flt => TaskFails.other rfl)).bind ?_
  intro msg _ h_msg
  refine (ofProtocol_outcome (Q := fun r => a.protocol.mergeSyncSent = .ok r)
    (fun r h_r => h_r) (fun flt => TaskFails.other rfl)).bind ?_
  intro p _ h_sent
  refine (syncSlotAfterNonsyncSlot_outcome c e
    { a.sendMessage e msg with protocol := p } _).mono ?_ ?_
  · intro a' h_next
    exact TaskRan.merged h_msg h_sent h_next
  · rintro flt ⟨rfl, h_undo, h_late⟩
    exact TaskFails.lateAfterMerging h_sent (Bool.not_eq_true' _ ▸ h_undo) h_late

theorem provisionStart_outcome (c : Config) (e : Env) (a : Agent) :
    Outcome (a.provisionStart c e) (TaskRan c e a .provisionStart)
      (TaskFails c e a .provisionStart) := by
  refine Outcome.require_bind (fun h_not => ?_) (fun h_done => ?_)
  · refine TaskFails.notDone rfl ?_
    by_contra h_some
    exact h_not (isDone_iff.2 h_some)
  have h_prelude := isDone_iff.1 h_done
  refine Outcome.ite (fun h_start => ?_) (fun h_not => ?_)
  · exact Outcome.pure (TaskRan.provisions h_prelude h_start)
  · have h_start := eq_false_of_ne_true h_not
    refine (syncSlotAfterNonsyncSlot_outcome c e a _).mono ?_ ?_
    · intro a' h_next
      exact TaskRan.failsToProvision h_prelude h_start h_next
    · rintro flt ⟨rfl, h_undo, h_late⟩
      exact TaskFails.lateAfterProvisioning (Or.inr ⟨rfl, h_start⟩)
        (Bool.not_eq_true' _ ▸ h_undo) h_late

theorem provisionEnd_outcome (c : Config) (e : Env) (a : Agent) :
    Outcome (a.provisionEnd c e) (TaskRan c e a .provisionEnd)
      (TaskFails c e a .provisionEnd) := by
  refine (syncSlotAfterNonsyncSlot_outcome c e a _).mono ?_ ?_
  · intro a' h_next
    exact TaskRan.provisioned h_next
  · rintro flt ⟨rfl, h_undo, h_late⟩
    exact TaskFails.lateAfterProvisioning (Or.inl rfl) (Bool.not_eq_true' _ ▸ h_undo) h_late

/-- Every task: what it leaves, and when it stops at an assertion of the
    hand-over. -/
theorem runTask_outcome (c : Config) (e : Env) (a : Agent) (t : Task) :
    Outcome (a.runTask c e t) (TaskRan c e a t) (TaskFails c e a t) := by
  cases t with
  | startSyncPeriodMaintain => exact startSyncPeriodMaintain_outcome c e a
  | theRadioPreludeTaskWSync => exact theRadioPreludeTaskWSync_outcome c e a
  | theRadioPreludeTaskWFish => exact Outcome.ok TaskRan.preludesFish
  | startSyncSlotAfterPrelude => exact startSyncSlot_outcome c e a (Or.inl rfl)
  | startSyncSlotWithoutScheduledPrelude => exact startSyncSlot_outcome c e a (Or.inr rfl)
  | sendSync => exact sendSync_outcome c e a
  | endSyncSlotListen => exact endSyncSlotListen_outcome c e a
  | endSyncSlotSend => exact endSyncSlotSend_outcome c e a
  | fishSlotStart => exact fishSlotStart_outcome c e a
  | fishSlotEnd => exact fishSlotEnd_outcome c e a
  | mergerStartAndEnd => exact mergerStartAndEnd_outcome c e a
  | provisionStart => exact provisionStart_outcome c e a
  | provisionEnd => exact provisionEnd_outcome c e a

end Agent

end SleepSync
