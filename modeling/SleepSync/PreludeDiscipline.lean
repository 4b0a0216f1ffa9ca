/-
  SleepSync.PreludeDiscipline

  The radio prelude in the hand-over from task to task: each task asserts what
  the one before it did about the prelude, and the radio is used only after the
  prelude.

  What carries the discipline from task to task is one table: a task that waits
  for a prelude, or sleeps through a period, finds it undone, and every other
  task finds it done (`Task.findsPrelude`).  A merge slot breaks the table.  It
  is scheduled without a prelude of its own, whether or not the prelude of the
  sync slot was undone, so that the table holds as long as merge slots are near
  the sync slot.
-/

import SleepSync.TaskRuns

namespace SleepSync

open Lib ScheduleParameters

/-- What a task finds of the prelude when it runs. -/
def Task.findsPrelude : Task → Bool
  | .startSyncPeriodMaintain | .theRadioPreludeTaskWSync | .theRadioPreludeTaskWFish => false
  | _ => true

/-- The radio is started after a prelude, and a prelude is scheduled where there
    is none. -/
def Occurrence.KeepsPrelude (o : Occurrence) : Prop :=
  match o.what with
  | .startReceiving _ | .transmit _ => o.prelude ≠ none
  | .schedule .theRadioPreludeTaskWSync | .schedule .theRadioPreludeTaskWFish =>
      o.prelude = none
  | _ => True

/-- A unit that merges after this sync slot has its merge slot near it: what the
    unit asks before it keeps the prelude. -/
def Agent.MergesNear (a : Agent) (l : Env × AgentEvent) : Prop :=
  match l.2 with
  | .timer .endSyncSlotListen _ | .timer .endSyncSlotSend _ =>
      a.protocol.mode = .syncAndFishMerge → a.protocol.role = .merger →
        l.1.mergeCoinToss = true → a.protocol.isMergerStartSyncPeriod = true
  | _ => True

instance : (o : Occurrence) → Decidable o.KeepsPrelude
  | ⟨.startReceiving _, _, prelude, _⟩ | ⟨.transmit _, _, prelude, _⟩ =>
      inferInstanceAs (Decidable (prelude ≠ none))
  | ⟨.schedule t, _, prelude, _⟩ =>
      match t with
      | .theRadioPreludeTaskWSync | .theRadioPreludeTaskWFish =>
          inferInstanceAs (Decidable (prelude = none))
      | .startSyncPeriodMaintain | .startSyncSlotAfterPrelude
      | .startSyncSlotWithoutScheduledPrelude | .sendSync | .endSyncSlotListen
      | .endSyncSlotSend | .fishSlotStart | .fishSlotEnd | .mergerStartAndEnd
      | .provisionStart | .provisionEnd => isTrue trivial
  | ⟨.run _, _, _, _⟩ | ⟨.rollPeriodForward _, _, _, _⟩
  | ⟨.bookkeepingAtPreludeToSyncSlot, _, _, _⟩ | ⟨.handle _ _, _, _, _⟩ => isTrue trivial

instance (a : Agent) : (l : Env × AgentEvent) → Decidable (a.MergesNear l)
  | (e, .timer t _) =>
      match t with
      | .endSyncSlotListen | .endSyncSlotSend =>
          inferInstanceAs (Decidable (a.protocol.mode = .syncAndFishMerge →
            a.protocol.role = .merger → e.mergeCoinToss = true →
              a.protocol.isMergerStartSyncPeriod = true))
      | .startSyncPeriodMaintain | .theRadioPreludeTaskWSync | .theRadioPreludeTaskWFish
      | .startSyncSlotAfterPrelude | .startSyncSlotWithoutScheduledPrelude | .sendSync
      | .fishSlotStart | .fishSlotEnd | .mergerStartAndEnd | .provisionStart
      | .provisionEnd => isTrue trivial
  | (_, .packet _) | (_, .provisionerSucceed _) | (_, .provisionerFail) => isTrue trivial

instance (c : Config) (a : Agent) (l : Env × AgentEvent) :
    Decidable (((agentSystem c).guarded Agent.MergesNear).enabled a l) :=
  inferInstanceAs (Decidable (_ ∧ _))

-- ============================================================================
-- The invariant
-- ============================================================================

/-- The pending task will find the prelude as it expects it, the provisioner
    works with the prelude done, and nothing has broken the discipline. -/
structure Agent.PreludeKept (a : Agent) : Prop where
  waiting : ∀ t x, a.pending = [(t, x)] → (t.findsPrelude = true ↔ a.prelude ≠ none)
  idle : a.pending = [] → a.prelude ≠ none
  trace : ∀ o ∈ a.trace, o.KeepsPrelude

namespace Agent

variable {c : Config} {e : Env} {a a' : Agent} {ev : AgentEvent}

/-- A task is pending that expects the prelude as it is. -/
theorem PreludeKept.of_waiting {t : Task} {x : Nat} (h_pending : a.pending = [(t, x)])
    (h_prelude : t.findsPrelude = true ↔ a.prelude ≠ none)
    (h_trace : ∀ o ∈ a.trace, o.KeepsPrelude) : a.PreludeKept where
  waiting t' x' h_eq := by
    rw [h_pending] at h_eq
    cases h_eq
    exact h_prelude
  idle h_eq := by
    rw [h_pending] at h_eq
    cases h_eq
  trace := h_trace

/-- The occurrence of a task being scheduled that expects the prelude as it is. -/
theorem keepsPrelude_schedule {t : Task} {now : Nat} {prelude : Option Nat} {p : Protocol}
    (h : t.findsPrelude = true ↔ prelude ≠ none) :
    Occurrence.KeepsPrelude ⟨.schedule t, now, prelude, p⟩ := by
  have h_undone : t.findsPrelude = false → prelude = none := by
    intro h_not
    by_contra h_some
    have h_finds := h.2 h_some
    rw [h_not] at h_finds
    cases h_finds
  cases t with
  | theRadioPreludeTaskWSync => exact h_undone rfl
  | theRadioPreludeTaskWFish => exact h_undone rfl
  | _ => trivial

/-- Scheduling a task that expects the prelude as it is. -/
theorem PreludeKept.schedule {b : Agent} {t : Task} (h_pending : b.pending = [])
    (h_prelude : t.findsPrelude = true ↔ b.prelude ≠ none)
    (h_trace : ∀ o ∈ b.trace, o.KeepsPrelude) (e : Env) (d : Nat) :
    (b.schedule e t d).PreludeKept := by
  refine PreludeKept.of_waiting (schedule_pending_of_idle e t d h_pending) h_prelude ?_
  rw [schedule_trace]
  exact List.forall_mem_cons.2 ⟨keepsPrelude_schedule h_prelude, h_trace⟩

theorem finds_iff_of_some {t : Task} {prelude : Option Nat} (h_t : t.findsPrelude = true)
    (h : prelude ≠ none) : t.findsPrelude = true ↔ prelude ≠ none :=
  iff_of_true h_t h

theorem finds_iff_of_none {t : Task} (h_t : t.findsPrelude = false) :
    t.findsPrelude = true ↔ (none : Option Nat) ≠ none := by
  rw [h_t]
  exact iff_of_false Bool.noConfusion (fun h => h rfl)

theorem SyncSlotNext.preludeKept {u : Bool} (h : SyncSlotNext c e a u a')
    (h_pending : a.pending = []) (h_prelude : a.prelude ≠ none)
    (h_trace : ∀ o ∈ a.trace, o.KeepsPrelude) : a'.PreludeKept := by
  cases h with
  | afterPrelude =>
      apply PreludeKept.schedule
      · exact h_pending
      · exact finds_iff_of_none rfl
      · exact h_trace
  | abuts =>
      apply PreludeKept.schedule
      · exact h_pending
      · exact finds_iff_of_some rfl h_prelude
      · exact h_trace

theorem NonSyncScheduled.preludeKept (h : NonSyncScheduled c e a a')
    (h_near : a.protocol.mode = .syncAndFishMerge → a.protocol.role = .merger →
      e.mergeCoinToss = true → a.protocol.isMergerStartSyncPeriod = true)
    (h_pending : a.pending = []) (h_prelude : a.prelude ≠ none)
    (h_trace : ∀ o ∈ a.trace, o.KeepsPrelude) : a'.PreludeKept := by
  cases h with
  | omits =>
      apply PreludeKept.schedule
      · exact h_pending
      · exact finds_iff_of_none rfl
      · exact h_trace
  | merges h_mode h_role h_coin =>
      rw [if_pos (h_near h_mode h_role h_coin)]
      apply PreludeKept.schedule
      · exact h_pending
      · exact finds_iff_of_some rfl h_prelude
      · exact h_trace
  | fishesNear =>
      apply PreludeKept.schedule
      · exact h_pending
      · exact finds_iff_of_some rfl h_prelude
      · exact h_trace
  | fishesFar =>
      apply PreludeKept.schedule
      · exact h_pending
      · exact finds_iff_of_none rfl
      · exact h_trace
  | provisions =>
      apply PreludeKept.schedule
      · exact h_pending
      · exact finds_iff_of_some rfl h_prelude
      · exact h_trace
  | stalls =>
      refine ⟨fun t x h_one => ?_, fun _ => h_prelude, h_trace⟩
      rw [h_pending] at h_one
      cases h_one

/-- The end of listening and the choice of the fish slot leave alone what the
    merge slot is decided by. -/
theorem endListen_merges {p p' : Protocol} (h : p.endListen c e = .ok p') :
    p'.mode = p.mode ∧ p'.role = p.role ∧ p'.cliqueMerger = p.cliqueMerger := by
  cases Protocol.endListen_ended h <;> exact ⟨rfl, rfl, rfl⟩

theorem preFishing_merges {p p' : Protocol} (h : p.preFishing = .ok p') :
    p'.mode = p.mode ∧ p'.role = p.role ∧ p'.cliqueMerger = p.cliqueMerger := by
  obtain ⟨f, -, rfl⟩ := bind_return_eq_ok.1 h
  exact ⟨rfl, rfl, rfl⟩

theorem TaskRan.preludeKept {t : Task} (h : TaskRan c e a t a')
    (h_near : t = .endSyncSlotListen ∨ t = .endSyncSlotSend →
      a.protocol.mode = .syncAndFishMerge → a.protocol.role = .merger →
        e.mergeCoinToss = true → a.protocol.isMergerStartSyncPeriod = true)
    (h_pending : a.pending = []) (h_finds : t.findsPrelude = true ↔ a.prelude ≠ none)
    (h_trace : ∀ o ∈ a.trace, o.KeepsPrelude) : a'.PreludeKept := by
  have h_next := pending_append h_pending
  -- occurrences that say nothing about the prelude
  have h_two : ∀ o₁ o₂ : Occurrence, o₁.KeepsPrelude → o₂.KeepsPrelude →
      ∀ o ∈ o₁ :: o₂ :: a.trace, o.KeepsPrelude := by
    intro o₁ o₂ h₁ h₂
    exact List.forall_mem_cons.2 ⟨h₁, List.forall_mem_cons.2 ⟨h₂, h_trace⟩⟩
  cases h with
  | maintained h_prelude =>
      apply PreludeKept.schedule
      · exact h_pending
      · show _ ↔ a.prelude ≠ none
        rw [h_prelude]
        exact finds_iff_of_none rfl
      · exact h_two _ _ trivial trivial
  | resumed h_prelude =>
      apply PreludeKept.schedule
      · exact h_pending
      · show _ ↔ a.prelude ≠ none
        rw [h_prelude]
        exact finds_iff_of_none rfl
      · exact h_two _ _ trivial trivial
  | preludesSync =>
      refine PreludeKept.of_waiting (h_next _ _) ?_ (h_two _ _ trivial trivial)
      exact finds_iff_of_some rfl (Option.some_ne_none _)
  | preludesFish =>
      refine PreludeKept.of_waiting (h_next _ _) ?_ ?_
      · exact finds_iff_of_some rfl (Option.some_ne_none _)
      · exact List.forall_mem_cons.2 ⟨trivial, h_trace⟩
  | pauses =>
      refine PreludeKept.of_waiting (h_next _ _) ?_ (h_two _ _ trivial trivial)
      exact finds_iff_of_none rfl
  | sends _ h_prelude =>
      refine PreludeKept.of_waiting (h_next _ _) ?_ (h_two _ _ trivial trivial)
      exact finds_iff_of_some rfl h_prelude
  | listens _ h_prelude =>
      refine PreludeKept.of_waiting (h_next _ _) ?_ ?_
      · exact finds_iff_of_some rfl h_prelude
      · exact List.forall_mem_cons.2 ⟨trivial, h_two _ _ h_prelude trivial⟩
  | sent =>
      have h_prelude := h_finds.1 rfl
      refine PreludeKept.of_waiting (h_next _ _) ?_ (h_two _ _ trivial h_prelude)
      exact finds_iff_of_some rfl h_prelude
  | listened h_prelude h_end h_fish h_sched =>
      obtain ⟨h_mode, h_role, h_merger⟩ := endListen_merges h_end
      obtain ⟨h_mode', h_role', h_merger'⟩ := preFishing_merges h_fish
      refine h_sched.preludeKept ?_ h_pending h_prelude h_trace
      intro h_m h_r h_coin
      have h_start := h_near (Or.inl rfl) (h_mode ▸ h_mode' ▸ h_m) (h_role ▸ h_role' ▸ h_r) h_coin
      rw [Protocol.isMergerStartSyncPeriod] at h_start ⊢
      rw [h_merger', h_merger]
      exact h_start
  | sentOver h_prelude h_fish h_sched =>
      obtain ⟨h_mode, h_role, h_merger⟩ := preFishing_merges h_fish
      refine h_sched.preludeKept ?_ h_pending h_prelude h_trace
      intro h_m h_r h_coin
      have h_start := h_near (Or.inr rfl) (h_mode ▸ h_m) (h_role ▸ h_r) h_coin
      rw [Protocol.isMergerStartSyncPeriod] at h_start ⊢
      rw [h_merger]
      exact h_start
  | fishes h_prelude =>
      refine PreludeKept.of_waiting (h_next _ _) ?_ (h_two _ _ h_prelude trivial)
      exact finds_iff_of_some rfl h_prelude
  | fished h_prelude _ h_sync => exact h_sync.preludeKept h_pending h_prelude h_trace
  | merged _ _ h_sync =>
      have h_prelude := h_finds.1 rfl
      refine h_sync.preludeKept h_pending h_prelude ?_
      exact List.forall_mem_cons.2 ⟨h_prelude, h_trace⟩
  | provisions h_prelude =>
      refine ⟨fun t x h_one => ?_, fun _ => h_prelude, h_trace⟩
      have h_none : ([] : List (Task × Nat)) = [(t, x)] := h_pending ▸ h_one
      cases h_none
  | failsToProvision h_prelude _ h_sync => exact h_sync.preludeKept h_pending h_prelude h_trace
  | provisioned h_sync => exact h_sync.preludeKept h_pending (h_finds.1 rfl) h_trace

theorem AgentStep.preludeKept (h : AgentStep c e a ev a') (h_near : a.MergesNear (e, ev))
    (h_a : a.PreludeKept) : a'.PreludeKept := by
  cases h with
  | @ran t x _ h_pending _ _ _ h_ran =>
      refine h_ran.preludeKept ?_ (dequeued_pending e t x h_pending)
        (h_a.waiting t x h_pending) ?_
      · rintro (rfl | rfl) <;> exact h_near
      · rw [dequeued_trace]
        exact List.forall_mem_cons.2 ⟨trivial, h_a.trace⟩
  | @heard _ handler x _ h_radio h_pending _ h_taken =>
      have h_finds : (endOf handler).findsPrelude = true := by
        cases handler <;> rfl
      have h_prelude := (h_a.waiting _ _ h_pending).1 h_finds
      have h_iff := finds_iff_of_some h_finds h_prelude
      cases h_taken with
      | ignored =>
          refine PreludeKept.of_waiting h_pending h_iff ?_
          exact List.forall_mem_cons.2 ⟨h_prelude, h_a.trace⟩
      | goesOn =>
          refine PreludeKept.of_waiting h_pending h_iff ?_
          refine List.forall_mem_cons.2 ⟨h_prelude, ?_⟩
          exact List.forall_mem_cons.2 ⟨trivial, h_a.trace⟩
      | ends =>
          refine PreludeKept.of_waiting h_pending h_iff ?_
          exact List.forall_mem_cons.2 ⟨trivial, h_a.trace⟩
  | succeeded h_pending =>
      apply PreludeKept.schedule
      · exact h_pending
      · exact finds_iff_of_some rfl (h_a.idle h_pending)
      · exact h_a.trace
  | failed h_pending =>
      apply PreludeKept.schedule
      · exact h_pending
      · exact finds_iff_of_some rfl (h_a.idle h_pending)
      · exact h_a.trace

theorem preludeKept_boot (initTime loopTime : Nat) :
    (Agent.boot c initTime loopTime).PreludeKept := by
  apply PreludeKept.schedule
  · rfl
  · exact finds_iff_of_none rfl
  · intro o h_mem
    cases h_mem

/-- With the table kept, no task stops at an assertion about the prelude. -/
theorem TaskFails.prelude {t : Task} {flt : TaskFault} (h : TaskFails c e a t flt)
    (h_finds : t.findsPrelude = true ↔ a.prelude ≠ none) :
    flt ≠ .preludeNotDone ∧ flt ≠ .preludeDone := by
  cases h with
  | notDone h_t h_prelude =>
      refine absurd h_prelude (h_finds.1 ?_)
      cases t <;> first | rfl | cases h_t
  | done h_prelude => exact absurd (h_finds.2 h_prelude) Bool.noConfusion
  | other h_not =>
      refine ⟨?_, ?_⟩
      · rintro rfl
        cases h_not
      · rintro rfl
        cases h_not
  | _ => exact ⟨TaskFault.noConfusion, TaskFault.noConfusion⟩

end Agent

-- ============================================================================
-- Runs
-- ============================================================================

/-- In a run whose merge slots are near the sync slots before them, the radio is
    started only after the prelude, by every task and every packet, and no
    assertion about the prelude fails. -/
theorem prelude_discipline {c : Config} {a : Agent}
    (h : ((agentSystem c).guarded Agent.MergesNear).Reachable a) :
    (∀ o ∈ a.trace, o.KeepsPrelude) ∧
      (∀ t x, (t, x) ∈ a.pending → (t.findsPrelude = true ↔ a.prelude ≠ none)) ∧
      (a.radio ≠ none → a.prelude ≠ none) ∧
      ∀ e ev flt, (agentSystem c).enabled a (e, ev) →
        (agentSystem c).step a (e, ev) = .error flt →
          flt ≠ .preludeNotDone ∧ flt ≠ .preludeDone := by
  have h_one := agentSystem_oneTask h
  have h_kept : a.PreludeKept := by
    refine Agent.invariant Agent.PreludeKept h (fun i l _ => Agent.preludeKept_boot i l) ?_
    intro a e ev a' h_a _ _ h_near h_step
    exact h_step.preludeKept h_near h_a
  have h_waiting : ∀ t x, (t, x) ∈ a.pending →
      (t.findsPrelude = true ↔ a.prelude ≠ none) := by
    intro t x h_mem
    exact h_kept.waiting t x (h_one.pending_eq h_mem)
  refine ⟨h_kept.trace, h_waiting, fun h_on => ?_, ?_⟩
  · obtain ⟨handler, h_radio⟩ := Option.ne_none_iff_exists'.1 h_on
    obtain ⟨x, h_pending⟩ := h_one.radio handler h_radio
    refine (h_kept.waiting _ x h_pending).1 ?_
    cases handler <;> rfl
  · rintro e ev flt ⟨-, h_possible⟩ h_step
    by_cases h_flt : Agent.isHandOver flt = true
    · obtain ⟨t, x, rfl, h_fails⟩ := Agent.stepAgent_fails h_step h_flt
      exact h_fails.prelude (h_waiting t x h_possible.1)
    · refine ⟨?_, ?_⟩
      · rintro rfl
        exact h_flt rfl
      · rintro rfl
        exact h_flt rfl

/-- A merger whose coin is against merging omits the merge slot. -/
theorem prelude_discipline_catchesNine :
    ∃ a, ((agentSystem unitFive).guarded Agent.MergesNear).Reachable a ∧
      a.protocol.role = .merger ∧ a.pending = [(.theRadioPreludeTaskWSync, 239950)] ∧
      a.prelude = none ∧ ∀ o ∈ a.trace, o.KeepsPrelude := by
  obtain ⟨a, h, h_role, h_pending, h_prelude⟩ :=
    System.Reachable.exists_of_play (M := (agentSystem unitFive).guarded Agent.MergesNear)
      (P := fun a => a.protocol.role = .merger ∧
        a.pending = [(.theRadioPreludeTaskWSync, 239950)] ∧ a.prelude = none)
      (catchesNine ++ [onTime .endSyncSlotListen 160050]) ⟨0, 0, Nat.le_refl 0, rfl⟩
      (by decide +kernel)
  exact ⟨a, h, h_role, h_pending, h_prelude, (prelude_discipline h).1⟩

/-- A merger that merges transmits without a prelude: its merge slot starts 160
    ticks after the sync point, and nothing starts the oscillator for it. -/
theorem merges_without_prelude :
    ∃ a, (agentSystem unitFive).Reachable a ∧
      ∃ o ∈ a.trace, o.now = 160160 ∧ o.prelude = none ∧ ¬ o.KeepsPrelude :=
  System.Reachable.exists_of_play
    (catchesNine ++ mergesNine) ⟨0, 0, Nat.le_refl 0, rfl⟩ (by decide +kernel)

end SleepSync
