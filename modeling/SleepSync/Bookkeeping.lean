/-
  SleepSync.Bookkeeping

  How often the bookkeeping at the prelude to the sync slot runs: the app's
  callback, the power check with its mode transition, and the management of
  fishing by power.

  It is attached to the tasks that start a prelude for the sync slot and to the
  maintenance of a sleeping unit.  A period that ends with the prelude of its
  fish or merge slot still done goes on into the next sync slot without it.  So
  between two rolls of the period it runs once, except where the later roll is
  that of a sync slot without a scheduled prelude, and then not at all.
-/

import SleepSync.TaskRuns
import SleepSync.Lib.Trace

namespace SleepSync

open Lib

namespace Occurrence

/-- A call of `Schedule::rollPeriodForward` by a task. -/
def isRoll (o : Occurrence) : Bool :=
  match o.what with
  | .rollPeriodForward _ => true
  | _ => false

def isBookkeeping (o : Occurrence) : Bool :=
  match o.what with
  | .bookkeepingAtPreludeToSyncSlot => true
  | _ => false

/-- How often the bookkeeping is done up to the roll `o`, since the one before. -/
def bookkeepings (o : Occurrence) : Nat :=
  if o.what = .rollPeriodForward .startSyncSlotWithoutScheduledPrelude then 0 else 1

end Occurrence

open Occurrence

-- ============================================================================
-- Modes
-- ============================================================================

section Modes

variable {c : Config} {e : Env} {p p' : Protocol}

/-- The mode is changed by the bookkeeping only. -/
theorem stepProtocol_mode {ev : ProtocolEvent} (h_ev : ev ≠ .bookkeepingAtPreludeToSyncSlot)
    (h : stepProtocol c p e ev = .ok p') : p'.mode = p.mode := by
  cases stepProtocol_done h with
  | heard h_heard => cases h_heard <;> rfl
  | fished h_fished => cases h_fished <;> rfl
  | listened h_ended => cases h_ended <;> rfl
  | checked h_checked => cases h_checked <;> rfl
  | booked => exact absurd rfl h_ev
  | _ => rfl

/-- The bookkeeping leaves mode `SyncAndProvision`. -/
theorem bookkeepingAtPreludeToSyncSlot_leaves_provision
    (h : p.bookkeepingAtPreludeToSyncSlot c e = .ok p') (h_mode : p.mode = .syncAndProvision) :
    p'.mode ≠ .syncAndProvision := by
  obtain ⟨f, -, rfl⟩ := Protocol.bookkeepingAtPreludeToSyncSlot_eq_ok h
  show ((p.callApp .onSyncPoint).checkPowerAndTryModeTransitions c e).mode ≠ _
  have h_called : (p.callApp .onSyncPoint).mode = .syncAndProvision := h_mode
  unfold Protocol.checkPowerAndTryModeTransitions
  rw [h_called]
  dsimp only
  split
  · unfold Protocol.toSyncOnly Protocol.toNoFishingFromOther
    split <;> exact SyncMode.noConfusion
  · exact SyncMode.noConfusion

end Modes

-- ============================================================================
-- Traces
-- ============================================================================

/-- A trace in which the bookkeeping is as often as it should be up to the last
    roll, and `n` times since, the last one having left mode `m`. -/
structure Booked (n : Nat) (m : SyncMode) (l : List Occurrence) : Prop where
  gaps : EveryGap isRoll (fun _ o seg => seg.countP isBookkeeping = o.bookkeepings) l
  count : (since isRoll l).countP isBookkeeping = n
  modes : EveryGap isBookkeeping
    (fun o₁ o₂ _ => o₁.protocol.mode = .syncAndProvision →
      o₂.protocol.mode ≠ .syncAndProvision) l
  last : ∀ o, l.find? isBookkeeping = some o → o.protocol.mode = m

namespace Booked

variable {n : Nat} {m : SyncMode} {l : List Occurrence} {o : Occurrence}

theorem nil (m : SyncMode) : Booked 0 m [] where
  gaps := EveryGap.nil
  count := by rw [since_nil, List.countP_nil]
  modes := EveryGap.nil
  last o h := by cases h

/-- Something else happens. -/
theorem other (h : Booked n m l) (h_roll : o.isRoll = false) (h_book : o.isBookkeeping = false) :
    Booked n m (o :: l) where
  gaps := h.gaps.cons_of_not h_roll
  count := by
    rw [since_cons_of_not h_roll, List.countP_cons_of_neg (ne_true_of_eq_false h_book)]
    exact h.count
  modes := h.modes.cons_of_not h_book
  last o' h_find := by
    rw [List.find?_cons_of_neg (ne_true_of_eq_false h_book)] at h_find
    exact h.last o' h_find

/-- A roll where the bookkeeping is as often as it should be. -/
theorem roll (h : Booked n m l) (h_roll : o.isRoll = true) (h_n : o.bookkeepings = n) :
    Booked 0 m (o :: l) := by
  have h_book : o.isBookkeeping = false := by
    unfold isRoll at h_roll
    unfold isBookkeeping
    split at h_roll
    · rename_i t h_what
      rw [h_what]
    · cases h_roll
  refine ⟨h.gaps.cons ?_, ?_, h.modes.cons_of_not h_book, ?_⟩
  · intro earlier _
    rw [h_n]
    exact h.count
  · rw [since_cons_of_mark h_roll, List.countP_nil]
  · intro o' h_find
    rw [List.find?_cons_of_neg (ne_true_of_eq_false h_book)] at h_find
    exact h.last o' h_find

/-- One more bookkeeping, which leaves the unit in mode `m'`. -/
theorem bookkeeping {m' : SyncMode} (h : Booked n m l) (h_book : o.isBookkeeping = true)
    (h_mode : o.protocol.mode = m')
    (h_leaves : m = .syncAndProvision → m' ≠ .syncAndProvision) :
    Booked (n + 1) m' (o :: l) := by
  have h_roll : o.isRoll = false := by
    unfold isBookkeeping at h_book
    unfold isRoll
    split at h_book
    · rename_i h_what
      rw [h_what]
    · cases h_book
  refine ⟨h.gaps.cons_of_not h_roll, ?_, h.modes.cons ?_, ?_⟩
  · rw [since_cons_of_not h_roll, List.countP_cons_of_pos h_book, h.count]
  · intro earlier h_find h_earlier
    rw [h_mode]
    exact h_leaves ((h.last earlier h_find).symm.trans h_earlier)
  · intro o' h_find
    rw [List.find?_cons_of_pos h_book] at h_find
    cases h_find
    exact h_mode

end Booked

-- ============================================================================
-- The invariant
-- ============================================================================

/-- How often the bookkeeping has been done when a task runs, since the last
    roll. -/
def Task.bookkeepings : Task → Nat
  | .startSyncSlotAfterPrelude => 1
  | _ => 0

/-- The trace is as the pending task expects it; without one the provisioner
    works, after a sync slot. -/
structure Agent.BookkeepingKept (a : Agent) : Prop where
  waiting : ∀ t x, a.pending = [(t, x)] → Booked t.bookkeepings a.protocol.mode a.trace
  idle : a.pending = [] → Booked 0 a.protocol.mode a.trace

namespace Agent

variable {c : Config} {e : Env} {a a' : Agent} {ev : AgentEvent}

theorem BookkeepingKept.of_waiting {t : Task} {x : Nat} (h_pending : a.pending = [(t, x)])
    (h : Booked t.bookkeepings a.protocol.mode a.trace) : a.BookkeepingKept where
  waiting t' x' h_eq := by
    rw [h_pending] at h_eq
    cases h_eq
    exact h
  idle h_eq := by
    rw [h_pending] at h_eq
    cases h_eq

/-- Scheduling a task that expects the trace as it is. -/
theorem BookkeepingKept.schedule {b : Agent} {t : Task} (h_pending : b.pending = [])
    (h : Booked t.bookkeepings b.protocol.mode b.trace) (e : Env) (d : Nat) :
    (b.schedule e t d).BookkeepingKept :=
  BookkeepingKept.of_waiting (schedule_pending_of_idle e t d h_pending) (h.other rfl rfl)

theorem SyncSlotNext.bookkeepingKept {u : Bool} (h : SyncSlotNext c e a u a')
    (h_pending : a.pending = []) (h_trace : Booked 0 a.protocol.mode a.trace) :
    a'.BookkeepingKept := by
  cases h with
  | afterPrelude =>
      apply BookkeepingKept.schedule
      · exact h_pending
      · exact h_trace
  | abuts =>
      apply BookkeepingKept.schedule
      · exact h_pending
      · exact h_trace

theorem NonSyncScheduled.bookkeepingKept (h : NonSyncScheduled c e a a')
    (h_pending : a.pending = []) (h_trace : Booked 0 a.protocol.mode a.trace) :
    a'.BookkeepingKept := by
  cases h with
  | omits =>
      apply BookkeepingKept.schedule
      · exact h_pending
      · exact h_trace
  | merges =>
      apply BookkeepingKept.schedule
      · split <;> exact h_pending
      · split <;> exact h_trace
  | fishesNear =>
      apply BookkeepingKept.schedule
      · exact h_pending
      · exact h_trace
  | fishesFar =>
      apply BookkeepingKept.schedule
      · exact h_pending
      · exact h_trace
  | provisions =>
      apply BookkeepingKept.schedule
      · exact h_pending
      · exact h_trace
  | stalls =>
      refine ⟨fun t x h_one => ?_, fun _ => h_trace⟩
      rw [h_pending] at h_one
      cases h_one

theorem startsSyncSlot_bookkeepings {t : Task} (h_t : startsSyncSlot t) {now : Nat}
    {prelude : Option Nat} {p : Protocol} :
    Occurrence.bookkeepings ⟨.rollPeriodForward t, now, prelude, p⟩ = t.bookkeepings := by
  rcases h_t with rfl | rfl <;> rfl

theorem TaskRan.bookkeepingKept {t : Task} (h : TaskRan c e a t a') (h_pending : a.pending = [])
    (h_trace : Booked t.bookkeepings a.protocol.mode a.trace) : a'.BookkeepingKept := by
  have h_next := pending_append h_pending
  have h_mode : ∀ {q q' : Protocol} (ev : ProtocolEvent),
      ev ≠ .bookkeepingAtPreludeToSyncSlot → stepProtocol c q e ev = .ok q' →
        q'.mode = q.mode := fun ev h_ev h_step => stepProtocol_mode h_ev h_step
  cases h with
  | @maintained p _ _ h_book =>
      have h_booked : Booked 1 p.mode _ := h_trace.bookkeeping
        (o := ⟨.bookkeepingAtPreludeToSyncSlot, e.now, a.prelude, p⟩) rfl rfl
        (bookkeepingAtPreludeToSyncSlot_leaves_provision h_book)
      apply BookkeepingKept.schedule
      · exact h_pending
      · exact h_booked.roll rfl rfl
  | @resumed p _ _ h_book =>
      have h_booked : Booked 1 p.mode _ := h_trace.bookkeeping
        (o := ⟨.bookkeepingAtPreludeToSyncSlot, e.now, a.prelude, p⟩) rfl rfl
        (bookkeepingAtPreludeToSyncSlot_leaves_provision h_book)
      apply BookkeepingKept.schedule
      · exact h_pending
      · exact h_booked.roll rfl rfl
  | preludesSync h_book =>
      refine BookkeepingKept.of_waiting (h_next _ _) ?_
      have h_scheduled := h_trace.other (o := ⟨.schedule .startSyncSlotAfterPrelude, e.now,
        a.prelude, a.protocol⟩) rfl rfl
      exact h_scheduled.bookkeeping rfl rfl
        (bookkeepingAtPreludeToSyncSlot_leaves_provision h_book)
  | preludesFish =>
      refine BookkeepingKept.of_waiting (h_next _ _) ?_
      exact h_trace.other rfl rfl
  | pauses h_t =>
      refine BookkeepingKept.of_waiting (h_next _ _) ?_
      exact (h_trace.roll rfl (startsSyncSlot_bookkeepings h_t)).other rfl rfl
  | @sends _ k p p' delay h_t _ _ _ _ _ h_step =>
      refine BookkeepingKept.of_waiting (h_next _ _) ?_
      have h_same := h_mode .dispatchSyncSlotKind ProtocolEvent.noConfusion h_step
      show Booked 0 p'.mode _
      rw [h_same]
      exact (h_trace.roll rfl (startsSyncSlot_bookkeepings h_t)).other rfl rfl
  | @listens _ p h_t _ _ _ _ h_step =>
      refine BookkeepingKept.of_waiting (h_next _ _) ?_
      have h_same := h_mode .dispatchSyncSlotKind ProtocolEvent.noConfusion h_step
      show Booked 0 p.mode _
      rw [h_same]
      exact ((h_trace.roll rfl (startsSyncSlot_bookkeepings h_t)).other rfl rfl).other rfl rfl
  | sent =>
      refine BookkeepingKept.of_waiting (h_next _ _) ?_
      exact (h_trace.other rfl rfl).other rfl rfl
  | @listened p p₁ _ _ h_end h_fish h_sched =>
      have h_p : p.mode = a.protocol.mode := h_mode .endListen ProtocolEvent.noConfusion h_end
      have h_p₁ : p₁.mode = p.mode := h_mode .preFishing ProtocolEvent.noConfusion h_fish
      refine h_sched.bookkeepingKept h_pending ?_
      show Booked 0 p₁.mode _
      rw [h_p₁, h_p]
      exact h_trace
  | @sentOver p _ _ h_fish h_sched =>
      have h_p : p.mode = a.protocol.mode := h_mode .preFishing ProtocolEvent.noConfusion h_fish
      refine h_sched.bookkeepingKept h_pending ?_
      show Booked 0 p.mode _
      rw [h_p]
      exact h_trace
  | fishes =>
      refine BookkeepingKept.of_waiting (h_next _ _) ?_
      exact (h_trace.other rfl rfl).other rfl rfl
  | @fished p _ _ h_check h_sync =>
      have h_p : p.mode = a.protocol.mode :=
        h_mode .checkFishingDone ProtocolEvent.noConfusion h_check
      refine h_sync.bookkeepingKept h_pending ?_
      show Booked 0 p.mode _
      rw [h_p]
      exact h_trace
  | @merged _ p _ _ h_sent h_sync =>
      have h_p : p.mode = a.protocol.mode :=
        h_mode .mergeSyncSent ProtocolEvent.noConfusion h_sent
      refine h_sync.bookkeepingKept h_pending ?_
      show Booked 0 p.mode _
      rw [h_p]
      exact h_trace.other rfl rfl
  | provisions =>
      refine ⟨fun t x h_one => ?_, fun _ => h_trace⟩
      have h_none : ([] : List (Task × Nat)) = [(t, x)] := h_pending ▸ h_one
      cases h_none
  | failsToProvision _ _ h_sync => exact h_sync.bookkeepingKept h_pending h_trace
  | provisioned h_sync => exact h_sync.bookkeepingKept h_pending h_trace

theorem AgentStep.bookkeepingKept (h : AgentStep c e a ev a') (h_a : a.BookkeepingKept) :
    a'.BookkeepingKept := by
  cases h with
  | @ran t x _ h_pending _ _ _ h_ran =>
      refine h_ran.bookkeepingKept (dequeued_pending e t x h_pending) ?_
      exact (h_a.waiting t x h_pending).other rfl rfl
  | @heard _ handler x _ h_radio h_pending _ h_taken =>
      have h_trace := h_a.waiting _ _ h_pending
      have h_ev : ∀ msg, hears handler msg ≠ .bookkeepingAtPreludeToSyncSlot := by
        intro msg
        cases handler <;> exact ProtocolEvent.noConfusion
      cases h_taken with
      | ignored => exact BookkeepingKept.of_waiting h_pending (h_trace.other rfl rfl)
      | @goesOn msg p _ h_step =>
          refine BookkeepingKept.of_waiting h_pending ?_
          show Booked _ p.mode _
          rw [stepProtocol_mode (h_ev msg) h_step]
          exact (h_trace.other rfl rfl).other rfl rfl
      | @ends msg p _ h_step =>
          refine BookkeepingKept.of_waiting h_pending ?_
          show Booked _ p.mode _
          rw [stepProtocol_mode (h_ev msg) h_step]
          exact h_trace.other rfl rfl
  | @succeeded _ p h_pending _ h_step =>
      apply BookkeepingKept.schedule
      · exact h_pending
      · show Booked 0 p.mode a.trace
        rw [stepProtocol_mode ProtocolEvent.noConfusion h_step]
        exact h_a.idle h_pending
  | failed h_pending =>
      apply BookkeepingKept.schedule
      · exact h_pending
      · exact h_a.idle h_pending

theorem bookkeepingKept_boot (initTime loopTime : Nat) :
    (Agent.boot c initTime loopTime).BookkeepingKept := by
  apply BookkeepingKept.schedule
  · rfl
  · exact Booked.nil _

end Agent

-- ============================================================================
-- Runs
-- ============================================================================

/-- In every run: between two consecutive rolls the bookkeeping is done once,
    except that it is not done where the later roll is that of a sync slot without
    a scheduled prelude; and mode `SyncAndProvision`, entered at one bookkeeping,
    is left at the next. -/
theorem bookkeeping_between_rolls {c : Config} {a : Agent} (h : (agentSystem c).Reachable a) :
    (∀ o₁ o₂ seg, Between isRoll a.trace o₁ o₂ seg →
        seg.countP isBookkeeping =
          if o₂.what = .rollPeriodForward .startSyncSlotWithoutScheduledPrelude then 0 else 1) ∧
      ∀ o₁ o₂ seg, Between isBookkeeping a.trace o₁ o₂ seg →
        o₁.protocol.mode = .syncAndProvision → o₂.protocol.mode ≠ .syncAndProvision := by
  have h_one := agentSystem_oneTask h.guarded_true
  have h_kept : a.BookkeepingKept := by
    refine Agent.invariant Agent.BookkeepingKept h.guarded_true
      (fun i l _ => Agent.bookkeepingKept_boot i l) ?_
    intro a e ev a' h_a _ _ _ h_step
    exact h_step.bookkeepingKept h_a
  have h_trace : ∃ n, Booked n a.protocol.mode a.trace := by
    cases h_pending : a.pending with
    | nil => exact ⟨0, h_kept.idle h_pending⟩
    | cons y rest =>
        have h_length := h_one.pending
        rw [h_pending, List.length_cons] at h_length
        have h_rest : rest = [] := List.length_eq_zero_iff.1 (by omega)
        rw [h_rest] at h_pending
        exact ⟨_, h_kept.waiting y.1 y.2 h_pending⟩
  obtain ⟨n, h_booked⟩ := h_trace
  exact ⟨h_booked.gaps, h_booked.modes⟩

/-- Two periods of fishing, the second session of which abuts the sync slot at
    240000. -/
def fishesNearEnd : List (Env × AgentEvent) :=
  untilFishing ++
    [onTime .fishSlotEnd 80150,
      onTime .theRadioPreludeTaskWSync 159950,
      onTime .startSyncSlotAfterPrelude 160000,
      onTime .endSyncSlotListen 160050,
      onTime .theRadioPreludeTaskWFish 239850,
      onTime .fishSlotStart 239900,
      onTime .fishSlotEnd 239950,
      onTime .startSyncSlotWithoutScheduledPrelude 240000]

/-- Between the rolls at 160000 and at 240000 there is no bookkeeping. -/
theorem no_bookkeeping_between_rolls :
    ∃ a, (agentSystem unitFive).Reachable a ∧
      ∃ o₁ o₂ seg, Between isRoll a.trace o₁ o₂ seg ∧ o₁.now = 160000 ∧ o₂.now = 240000 ∧
        seg.countP isBookkeeping = 0 := by
  obtain ⟨a, h, ⟨o₁, o₂, seg⟩, h_gap, h_first, h_second, h_count⟩ :=
    System.Reachable.exists_of_play (M := agentSystem unitFive)
      (P := fun a => ∃ g ∈ lastGap isRoll a.trace,
        g.1.now = 160000 ∧ g.2.1.now = 240000 ∧ g.2.2.countP isBookkeeping = 0)
      fishesNearEnd ⟨0, 0, Nat.le_refl 0, rfl⟩ (by decide +kernel)
  exact ⟨a, h, o₁, o₂, seg, between_of_lastGap h_gap, h_first, h_second, h_count⟩

/-- Between the rolls at 80000 and 160000 there is one. -/
theorem bookkeeping_between_rolls_fishes :
    ∃ a, (agentSystem unitFive).Reachable a ∧
      ∃ o₁ o₂ seg, Between isRoll a.trace o₁ o₂ seg ∧ o₁.now = 80000 ∧ o₂.now = 160000 ∧
        seg.countP isBookkeeping = 1 := by
  obtain ⟨a, h, ⟨o₁, o₂, seg⟩, h_gap, h_first, h_second, h_what⟩ :=
    System.Reachable.exists_of_play (M := agentSystem unitFive)
      (P := fun a => ∃ g ∈ lastGap isRoll a.trace,
        g.1.now = 80000 ∧ g.2.1.now = 160000 ∧
          g.2.1.what = .rollPeriodForward .startSyncSlotAfterPrelude)
      (fishesNearEnd.take 8) ⟨0, 0, Nat.le_refl 0, rfl⟩ (by decide +kernel)
  have h_between := between_of_lastGap h_gap
  have h_count := (bookkeeping_between_rolls h).1 o₁ o₂ seg h_between
  rw [h_what, if_neg (by decide)] at h_count
  exact ⟨a, h, o₁, o₂, seg, h_between, h_first, h_second, h_count⟩

end SleepSync
