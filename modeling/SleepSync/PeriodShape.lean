/-
  SleepSync.PeriodShape

  What a unit does in one period, from a roll to the next.

  The tasks hand over to each other along a graph (`Task.next`), in which only the
  tasks that roll the period lead back.  So the tasks of a period are a path from
  one roll to the next, of strictly ascending rank: none runs twice, there is one
  sync slot, and after it at most one of fishing, merging and provisioning.  With
  the tasks the transmissions are bounded: one sync message, then one merge
  message.
-/

import Mathlib.Data.List.Chain
import SleepSync.Bookkeeping
import SleepSync.AirFrames

namespace SleepSync

open Lib

namespace Task

/-- The tasks that roll the period. -/
def rolls : Task → Bool
  | .startSyncPeriodMaintain | .startSyncSlotAfterPrelude
  | .startSyncSlotWithoutScheduledPrelude => true
  | _ => false

/-- The tasks that can run next, also after the provisioner has worked. -/
def follows : Task → List Task
  | .provisionStart => .provisionEnd :: next .provisionStart
  | t => t.next

/-- The place of a task in its period: the sync slot, the slot of the nonsync part,
    and the way to the next sync slot. -/
def rank : Task → Nat
  | .sendSync => 1
  | .endSyncSlotListen | .endSyncSlotSend => 2
  | .theRadioPreludeTaskWFish => 3
  | .fishSlotStart | .mergerStartAndEnd | .provisionStart => 4
  | .fishSlotEnd | .provisionEnd => 5
  | .theRadioPreludeTaskWSync => 6
  | .startSyncPeriodMaintain | .startSyncSlotAfterPrelude
  | .startSyncSlotWithoutScheduledPrelude => 7

/-- `earlier` hands over to `later` in the same period. -/
def HandsOver (later earlier : Task) : Prop := earlier.rolls = false ∧ later ∈ earlier.follows

theorem rank_lt {later earlier : Task} (h : HandsOver later earlier) :
    earlier.rank < later.rank := by
  obtain ⟨h_rolls, h_follows⟩ := h
  have h_all : ∀ t ∈ earlier.follows, earlier.rank < t.rank := by
    cases earlier <;> first | decide | cases h_rolls
  exact h_all later h_follows

theorem ascending {ts : List Task} (h : ts.IsChain HandsOver) :
    ts.Pairwise fun later earlier => earlier.rank < later.rank := by
  have h_ranks : (ts.map rank).IsChain (· > ·) :=
    (List.isChain_map rank).2 (h.imp fun _ _ h_over => rank_lt h_over)
  exact List.pairwise_map.1 h_ranks.pairwise

theorem exists_follows (t : Task) : ∃ t', t' ∈ t.follows := by
  cases t <;> exact ⟨_, List.mem_cons_self⟩

theorem follows_of_next {t t' : Task} (h : t' ∈ t.next) : t' ∈ t.follows := by
  cases t with
  | provisionStart => exact List.mem_cons_of_mem _ h
  | _ => exact h

end Task

namespace Occurrence

def ran (o : Occurrence) : Option Task :=
  match o.what with
  | .run t => some t
  | _ => none

def transmitted (o : Occurrence) : Option SyncMessage :=
  match o.what with
  | .transmit msg => some msg
  | _ => none

/-- It is no task, no roll and no transmission. -/
def isQuiet (o : Occurrence) : Bool :=
  match o.what with
  | .run _ | .rollPeriodForward _ | .transmit _ => false
  | _ => true

end Occurrence

open Occurrence

/-- The tasks that have run, latest first. -/
def tasksOf (l : List Occurrence) : List Task := l.filterMap ran

/-- The messages that were transmitted, latest first. -/
def messagesOf (l : List Occurrence) : List SyncMessage := l.filterMap transmitted

-- ============================================================================
-- What a task adds to the trace
-- ============================================================================

section Quiet

variable {o : Occurrence} {new l : List Occurrence}

theorem ran_of_isQuiet (h : o.isQuiet = true) : o.ran = none := by
  unfold isQuiet at h
  unfold ran
  cases h_what : o.what <;> simp [h_what] at h ⊢

theorem transmitted_of_isQuiet (h : o.isQuiet = true) : o.transmitted = none := by
  unfold isQuiet at h
  unfold transmitted
  cases h_what : o.what <;> simp [h_what] at h ⊢

theorem isRoll_of_isQuiet (h : o.isQuiet = true) : o.isRoll = false := by
  unfold isQuiet at h
  unfold isRoll
  cases h_what : o.what <;> simp [h_what] at h ⊢

theorem tasksOf_append_quiet (h : ∀ o ∈ new, o.isQuiet = true) (l : List Occurrence) :
    tasksOf (new ++ l) = tasksOf l := by
  unfold tasksOf
  rw [List.filterMap_append, List.filterMap_eq_nil_iff.2 fun o h_o => ran_of_isQuiet (h o h_o),
    List.nil_append]

theorem messagesOf_append_quiet (h : ∀ o ∈ new, o.isQuiet = true) (l : List Occurrence) :
    messagesOf (new ++ l) = messagesOf l := by
  unfold messagesOf
  rw [List.filterMap_append,
    List.filterMap_eq_nil_iff.2 fun o h_o => transmitted_of_isQuiet (h o h_o), List.nil_append]

end Quiet

/-- What a task adds to the trace, latest first: a roll if it rolls, a message in its
    slot, and otherwise nothing that is counted. -/
inductive TaskAdds (t : Task) (new : List Occurrence) : Prop
  | quiet (h_t : t.rolls = false) (h_new : ∀ o ∈ new, o.isQuiet = true)
  | sends {o : Occurrence} {msg : SyncMessage} (after : List Occurrence) (h_t : t = .sendSync)
      (h_msg : o.what = .transmit msg) (h_carries : msg.type.doesCarrySync = true)
      (h_after : ∀ o ∈ after, o.isQuiet = true) (h_new : new = after ++ [o])
  | merges {o : Occurrence} {msg : SyncMessage} (after : List Occurrence)
      (h_t : t = .mergerStartAndEnd) (h_msg : o.what = .transmit msg)
      (h_merge : msg.type.isMerge = true) (h_after : ∀ o ∈ after, o.isQuiet = true)
      (h_new : new = after ++ [o])
  | rolls {o : Occurrence} (after before : List Occurrence) (h_t : t.rolls = true)
      (h_roll : o.what = .rollPeriodForward t) (h_after : ∀ o ∈ after, o.isQuiet = true)
      (h_before : ∀ o ∈ before, o.isQuiet = true) (h_new : new = after ++ o :: before)

namespace Agent

variable {c : Config} {e : Env} {a a' : Agent} {t : Task}

theorem SyncSlotNext.adds {u : Bool} (h : SyncSlotNext c e a u a') :
    ∃ new, a'.trace = new ++ a.trace ∧ ∀ o ∈ new, o.isQuiet = true := by
  cases h with
  | afterPrelude => exact ⟨[_], rfl, List.forall_mem_singleton.2 rfl⟩
  | abuts => exact ⟨[_], rfl, List.forall_mem_singleton.2 rfl⟩

theorem NonSyncScheduled.adds (h : NonSyncScheduled c e a a') :
    ∃ new, a'.trace = new ++ a.trace ∧ ∀ o ∈ new, o.isQuiet = true := by
  cases h with
  | merges => split <;> exact ⟨[_], rfl, List.forall_mem_singleton.2 rfl⟩
  | stalls => exact ⟨[], rfl, List.forall_mem_nil _⟩
  | _ => exact ⟨[_], rfl, List.forall_mem_singleton.2 rfl⟩

theorem TaskRan.adds (h : TaskRan c e a t a') (h_saysMerge : a.protocol.SaysMerge) :
    ∃ new, a'.trace = new ++ a.trace ∧ TaskAdds t new := by
  have h_quietly : ∀ {t : Task} {b b' : Agent}, t.rolls = false → b.trace = a.trace →
      (∃ new, b'.trace = new ++ b.trace ∧ ∀ o ∈ new, o.isQuiet = true) →
        ∃ new, b'.trace = new ++ a.trace ∧ TaskAdds t new := by
    rintro t b b' h_t h_b ⟨new, h_trace, h_new⟩
    rw [h_b] at h_trace
    exact ⟨new, h_trace, TaskAdds.quiet h_t h_new⟩
  have h_slot : ∀ {t : Task}, startsSyncSlot t → t.rolls = true := by
    rintro t (rfl | rfl) <;> rfl
  have h_nil : ∀ o ∈ ([] : List Occurrence), o.isQuiet = true := List.forall_mem_nil _
  cases h with
  | maintained =>
      refine ⟨[_, _, _], rfl, TaskAdds.rolls [_] [_] rfl rfl ?_ ?_ rfl⟩
      · exact List.forall_mem_singleton.2 rfl
      · exact List.forall_mem_singleton.2 rfl
  | resumed =>
      refine ⟨[_, _, _], rfl, TaskAdds.rolls [_] [_] rfl rfl ?_ ?_ rfl⟩
      · exact List.forall_mem_singleton.2 rfl
      · exact List.forall_mem_singleton.2 rfl
  | preludesSync =>
      refine ⟨[_, _], rfl, TaskAdds.quiet rfl ?_⟩
      exact List.forall_mem_cons.2 ⟨rfl, List.forall_mem_singleton.2 rfl⟩
  | preludesFish => exact ⟨[_], rfl, TaskAdds.quiet rfl (List.forall_mem_singleton.2 rfl)⟩
  | pauses h_t =>
      refine ⟨[_, _], rfl, TaskAdds.rolls [_] [] (h_slot h_t) rfl ?_ h_nil rfl⟩
      exact List.forall_mem_singleton.2 rfl
  | sends h_t =>
      refine ⟨[_, _], rfl, TaskAdds.rolls [_] [] (h_slot h_t) rfl ?_ h_nil rfl⟩
      exact List.forall_mem_singleton.2 rfl
  | listens h_t =>
      refine ⟨[_, _, _], rfl, TaskAdds.rolls [_, _] [] (h_slot h_t) rfl ?_ h_nil rfl⟩
      exact List.forall_mem_cons.2 ⟨rfl, List.forall_mem_singleton.2 rfl⟩
  | @sent msg h_msg =>
      obtain ⟨k, work, h_carries, h_init⟩ := syncSlotMessage_eq_ok h_msg
      have h_type := (Protocol.initSyncMessage_eq_ok h_init).2.1
      refine ⟨[_, _], rfl, TaskAdds.sends [_] rfl rfl ?_ ?_ rfl⟩
      · rw [h_type]
        exact h_carries
      · exact List.forall_mem_singleton.2 rfl
  | listened _ _ _ h_next => exact h_quietly rfl rfl h_next.adds
  | sentOver _ _ h_next => exact h_quietly rfl rfl h_next.adds
  | fishes =>
      refine ⟨[_, _], rfl, TaskAdds.quiet rfl ?_⟩
      exact List.forall_mem_cons.2 ⟨rfl, List.forall_mem_singleton.2 rfl⟩
  | fished _ _ h_next => exact h_quietly rfl rfl h_next.adds
  | @merged msg p _ h_msg _ h_next =>
      obtain ⟨after, h_trace, h_after⟩ := h_next.adds
      refine ⟨after ++ [⟨.transmit msg, e.now, a.prelude, a.protocol⟩], ?_,
        TaskAdds.merges _ rfl rfl (h_saysMerge.isMerge h_msg) h_after rfl⟩
      rw [h_trace, List.append_assoc]
      rfl
  | provisions => exact ⟨[], rfl, TaskAdds.quiet rfl h_nil⟩
  | failsToProvision _ _ h_next => exact h_quietly rfl rfl h_next.adds
  | provisioned h_next => exact h_quietly rfl rfl h_next.adds

/-- The provisioner is started by its task. -/
theorem TaskRan.isProvisioning (h : TaskRan c e a t a') (h_idle : a.isProvisioning = false)
    (h_starts : a'.isProvisioning = true) : t = .provisionStart := by
  have h_same : ∀ {b : Agent}, b.isProvisioning = a.isProvisioning → b.isProvisioning ≠ true := by
    intro b h_b
    rw [h_b, h_idle]
    exact Bool.false_ne_true
  have h_next : ∀ {u : Bool} {b b' : Agent}, b.isProvisioning = a.isProvisioning →
      SyncSlotNext c e b u b' → b'.isProvisioning ≠ true := by
    intro u b b' h_b h_next
    cases h_next <;> exact h_same (by exact h_b)
  have h_nonSync : ∀ {b b' : Agent}, b.isProvisioning = a.isProvisioning →
      NonSyncScheduled c e b b' → b'.isProvisioning ≠ true := by
    intro b b' h_b h_next
    cases h_next with
    | merges => split <;> exact h_same (by exact h_b)
    | _ => exact h_same (by exact h_b)
  cases h with
  | provisions => rfl
  | listened _ _ _ h_then => exact absurd h_starts (h_nonSync (by rfl) h_then)
  | sentOver _ _ h_then => exact absurd h_starts (h_nonSync (by rfl) h_then)
  | fished _ _ h_then => exact absurd h_starts (h_next (by rfl) h_then)
  | merged _ _ h_then => exact absurd h_starts (h_next (by rfl) h_then)
  | failsToProvision => rfl
  | provisioned h_then => exact absurd h_starts (h_next (by rfl) h_then)
  | _ => exact absurd h_starts (h_same (by rfl))

end Agent

-- ============================================================================
-- A period
-- ============================================================================

/-- What may have been transmitted in a period before a task of rank `r`: the message
    of the sync slot, and after it one of a merge slot. -/
def SentBefore (r : Nat) (ms : List SyncMessage) : Prop :=
  ∃ merge sync : Option SyncMessage, ms = merge.toList ++ sync.toList ∧
    (∀ msg ∈ merge, msg.type.isMerge = true ∧ 4 < r) ∧
    (∀ msg ∈ sync, msg.type.doesCarrySync = true ∧ 1 < r)

/-- The period so far, where `t` is to run next. -/
structure PeriodSoFar (t : Task) (seg : List Occurrence) : Prop where
  path : (t :: tasksOf seg).IsChain Task.HandsOver
  sent : SentBefore t.rank (messagesOf seg)

/-- A period from a roll to the next. -/
structure IsPeriod (seg : List Occurrence) : Prop where
  path : (tasksOf seg).IsChain Task.HandsOver
  ends : ∃ t ∈ (tasksOf seg).head?, t.rolls = true
  sent : SentBefore 7 (messagesOf seg)

/-- A trace of periods, with `t` to run next. -/
structure PeriodsKept (t : Task) (l : List Occurrence) : Prop where
  gaps : EveryGap isRoll (fun _ _ seg => IsPeriod seg) l
  now : PeriodSoFar t (since isRoll l)

section Periods

variable {t t' : Task} {ms : List SyncMessage} {msg : SyncMessage} {l new seg : List Occurrence}
  {o : Occurrence} {r r' : Nat}

theorem SentBefore.nil (r : Nat) : SentBefore r [] := by
  refine ⟨none, none, rfl, ?_, ?_⟩ <;> rintro m ⟨⟩

theorem SentBefore.mono (h : SentBefore r ms) (h_le : r ≤ r') : SentBefore r' ms := by
  obtain ⟨merge, sync, h_ms, h_merge, h_sync⟩ := h
  refine ⟨merge, sync, h_ms, fun m h_m => ?_, fun m h_m => ?_⟩
  · obtain ⟨h_type, h_r⟩ := h_merge m h_m
    exact ⟨h_type, by omega⟩
  · obtain ⟨h_type, h_r⟩ := h_sync m h_m
    exact ⟨h_type, by omega⟩

/-- Nothing was sent before the sync message. -/
theorem SentBefore.sync (h : SentBefore 1 ms) (h_carries : msg.type.doesCarrySync = true) :
    SentBefore 2 (msg :: ms) := by
  obtain ⟨merge, sync, rfl, h_merge, h_sync⟩ := h
  cases merge with
  | some m => exact absurd (h_merge m rfl).2 (by decide)
  | none =>
      cases sync with
      | some m => exact absurd (h_sync m rfl).2 (by decide)
      | none =>
          refine ⟨none, some msg, rfl, ?_, ?_⟩
          · rintro m ⟨⟩
          · rintro m ⟨⟩
            exact ⟨h_carries, by decide⟩

/-- The merge message comes after the sync message, if any. -/
theorem SentBefore.merge (h : SentBefore 4 ms) (h_type : msg.type.isMerge = true) :
    SentBefore 5 (msg :: ms) := by
  obtain ⟨merge, sync, rfl, h_merge, h_sync⟩ := h
  cases merge with
  | some m => exact absurd (h_merge m rfl).2 (by decide)
  | none =>
      refine ⟨some msg, sync, rfl, ?_, fun m h_m => ?_⟩
      · rintro m ⟨⟩
        exact ⟨h_type, by decide⟩
      · obtain ⟨h_carries, h_r⟩ := h_sync m h_m
        exact ⟨h_carries, by omega⟩

/-- After a roll anything may run next. -/
theorem PeriodSoFar.start (t : Task) (h_new : ∀ o ∈ new, o.isQuiet = true) :
    PeriodSoFar t new where
  path := by
    have h_none := tasksOf_append_quiet h_new []
    rw [List.append_nil] at h_none
    rw [h_none]
    exact List.IsChain.singleton t
  sent := by
    have h_none := messagesOf_append_quiet h_new []
    rw [List.append_nil] at h_none
    rw [h_none]
    exact SentBefore.nil _

/-- A task that does not roll, with what it adds. -/
theorem PeriodSoFar.next (h : PeriodSoFar t seg) (h_run : o.what = .run t)
    (h_adds : TaskAdds t new) (h_t : t.rolls = false) (h_follows : t' ∈ t.follows) :
    PeriodSoFar t' (new ++ o :: seg) := by
  have h_ran : tasksOf (o :: seg) = t :: tasksOf seg :=
    List.filterMap_cons_some (by rw [ran, h_run])
  have h_msgs : messagesOf (o :: seg) = messagesOf seg :=
    List.filterMap_cons_none (by rw [transmitted, h_run])
  have h_lt := Task.rank_lt ⟨h_t, h_follows⟩
  have h_path : (t' :: t :: tasksOf seg).IsChain Task.HandsOver :=
    List.isChain_cons_cons.2 ⟨⟨h_t, h_follows⟩, h.path⟩
  have h_sends : ∀ {o' : Occurrence} {m : SyncMessage} {after : List Occurrence},
      o'.what = .transmit m → (∀ o ∈ after, o.isQuiet = true) →
        tasksOf ((after ++ [o']) ++ o :: seg) = t :: tasksOf seg ∧
          messagesOf ((after ++ [o']) ++ o :: seg) = m :: messagesOf seg := by
    intro o' m after h_what h_after
    rw [List.append_assoc, tasksOf_append_quiet h_after, messagesOf_append_quiet h_after]
    refine ⟨?_, ?_⟩
    · rw [← h_ran]
      exact List.filterMap_cons_none (by rw [ran, h_what])
    · rw [← h_msgs]
      exact List.filterMap_cons_some (by rw [transmitted, h_what])
  cases h_adds with
  | quiet _ h_new =>
      refine ⟨?_, ?_⟩
      · rw [tasksOf_append_quiet h_new, h_ran]
        exact h_path
      · rw [messagesOf_append_quiet h_new, h_msgs]
        exact h.sent.mono (Nat.le_of_lt h_lt)
  | sends after h_send h_what h_carries h_after h_new =>
      subst h_send h_new
      obtain ⟨h_tasks, h_sent⟩ := h_sends h_what h_after
      refine ⟨?_, ?_⟩
      · rw [h_tasks]
        exact h_path
      · rw [h_sent]
        exact (h.sent.sync h_carries).mono h_lt
  | merges after h_slot h_what h_merge h_after h_new =>
      subst h_slot h_new
      obtain ⟨h_tasks, h_sent⟩ := h_sends h_what h_after
      refine ⟨?_, ?_⟩
      · rw [h_tasks]
        exact h_path
      · rw [h_sent]
        exact (h.sent.merge h_merge).mono h_lt
  | rolls _ _ h_roll =>
      rw [h_t] at h_roll
      cases h_roll

/-- A task that rolls ends the period. -/
theorem PeriodSoFar.ends (h : PeriodSoFar t seg) (h_run : o.what = .run t)
    (h_t : t.rolls = true) (h_new : ∀ o ∈ new, o.isQuiet = true) : IsPeriod (new ++ o :: seg) := by
  have h_ran : tasksOf (new ++ o :: seg) = t :: tasksOf seg := by
    rw [tasksOf_append_quiet h_new]
    exact List.filterMap_cons_some (by rw [ran, h_run])
  have h_msgs : messagesOf (new ++ o :: seg) = messagesOf seg := by
    rw [messagesOf_append_quiet h_new]
    exact List.filterMap_cons_none (by rw [transmitted, h_run])
  have h_rank : t.rank = 7 := by
    cases t <;> first | rfl | cases h_t
  refine ⟨?_, ⟨t, ?_, h_t⟩, ?_⟩
  · rw [h_ran]
    exact h.path
  · rw [h_ran]
    rfl
  · rw [h_msgs, ← h_rank]
    exact h.sent

theorem PeriodsKept.nil (t : Task) : PeriodsKept t [] where
  gaps := EveryGap.nil
  now := PeriodSoFar.start t (List.forall_mem_nil _)

theorem PeriodsKept.quiet (h : PeriodsKept t l) (h_new : ∀ o ∈ new, o.isQuiet = true) :
    PeriodsKept t (new ++ l) := by
  have h_marks : ∀ o ∈ new, o.isRoll = false := fun o h_o => isRoll_of_isQuiet (h_new o h_o)
  refine ⟨h.gaps.append_of_not h_marks, ?_⟩
  rw [since_append_of_not h_marks]
  refine ⟨?_, ?_⟩
  · rw [tasksOf_append_quiet h_new]
    exact h.now.path
  · rw [messagesOf_append_quiet h_new]
    exact h.now.sent

/-- A task runs. -/
theorem PeriodsKept.next (h : PeriodsKept t l) (h_run : o.what = .run t)
    (h_adds : TaskAdds t new) (h_follows : t' ∈ t.follows) : PeriodsKept t' (new ++ o :: l) := by
  have h_mark : o.isRoll = false := by
    rw [isRoll, h_run]
  have h_quiet : ∀ {new : List Occurrence}, (∀ o ∈ new, o.isQuiet = true) →
      ∀ o ∈ new, o.isRoll = false := fun h_new o h_o => isRoll_of_isQuiet (h_new o h_o)
  have h_next : (∀ o ∈ new, o.isRoll = false) → t.rolls = false →
      PeriodsKept t' (new ++ o :: l) := by
    intro h_marks h_t
    refine ⟨(h.gaps.cons_of_not h_mark).append_of_not h_marks, ?_⟩
    rw [since_append_of_not h_marks, since_cons_of_not h_mark]
    exact h.now.next h_run h_adds h_t h_follows
  have h_sent : ∀ {o' : Occurrence} {m : SyncMessage} {after : List Occurrence},
      o'.what = .transmit m → (∀ o ∈ after, o.isQuiet = true) →
        ∀ o ∈ after ++ [o'], o.isRoll = false := by
    intro o' m after h_what h_after
    refine List.forall_mem_append.2 ⟨h_quiet h_after, List.forall_mem_singleton.2 ?_⟩
    rw [isRoll, h_what]
  cases h_adds with
  | quiet h_t h_new => exact h_next (h_quiet h_new) h_t
  | sends after h_t h_what _ h_after h_new =>
      subst h_t
      exact h_next (h_new ▸ h_sent h_what h_after) rfl
  | merges after h_t h_what _ h_after h_new =>
      subst h_t
      exact h_next (h_new ▸ h_sent h_what h_after) rfl
  | @rolls o' after before h_t h_roll h_after h_before h_new =>
      subst h_new
      have h_o' : o'.isRoll = true := by
        rw [isRoll, h_roll]
      have h_period := h.now.ends h_run h_t h_before
      have h_gaps : EveryGap isRoll (fun _ _ seg => IsPeriod seg) (o' :: (before ++ o :: l)) := by
        refine ((h.gaps.cons_of_not h_mark).append_of_not (h_quiet h_before)).cons ?_
        intro earlier _
        rw [since_append_of_not (h_quiet h_before), since_cons_of_not h_mark]
        exact h_period
      rw [List.append_assoc, List.cons_append]
      refine ⟨h_gaps.append_of_not (h_quiet h_after), ?_⟩
      rw [since_append_of_not (h_quiet h_after), since_cons_of_mark h_o', List.append_nil]
      exact PeriodSoFar.start t' h_after

end Periods

-- ============================================================================
-- Runs
-- ============================================================================

namespace Agent

variable {c : Config} {e : Env} {a a' : Agent} {ev : AgentEvent}

/-- The trace is one of periods; while the provisioner works, its end runs next. -/
abbrev ShapeKept (a : Agent) : Prop :=
  Keeps (fun a t _ => PeriodsKept t a.trace)
    (fun a => ∃ t, PeriodsKept t a.trace ∧ (a.isProvisioning = true → t = .provisionEnd))
    (fun _ => True) a

theorem TaskRan.shapeKept {t : Task} {o : Occurrence} {l : List Occurrence}
    (h : TaskRan c e a t a') (h_pending : a.pending = []) (h_idle : a.isProvisioning = false)
    (h_saysMerge : a.protocol.SaysMerge) (h_trace : a.trace = o :: l) (h_run : o.what = .run t)
    (h_l : PeriodsKept t l) : a'.ShapeKept := by
  obtain ⟨new, h_new, h_adds⟩ := h.adds h_saysMerge
  rw [h_trace] at h_new
  have h_kept : ∀ t' ∈ t.follows, PeriodsKept t' a'.trace := by
    intro t' h_t'
    rw [h_new]
    exact h_l.next h_run h_adds h_t'
  have h_trivial : ∀ o ∈ a'.trace, True := fun _ _ => trivial
  rcases h.awaits h_pending with h_none | ⟨t', h_t', x, h_one⟩
  · refine Keeps.of_idle h_none ?_ h_trivial
    cases h_starts : a'.isProvisioning with
    | true =>
        obtain rfl := h.isProvisioning h_idle h_starts
        exact ⟨.provisionEnd, h_kept _ List.mem_cons_self, fun _ => rfl⟩
    | false =>
        obtain ⟨t', h_t'⟩ := Task.exists_follows t
        exact ⟨t', h_kept t' h_t', fun h_true => by cases h_true⟩
  · exact Keeps.of_waiting h_one (h_kept t' (Task.follows_of_next h_t')) h_trivial

theorem PacketTaken.adds {handler : MessageHandler} {packet : Option RadioBuffer}
    (h : PacketTaken c e a handler packet a') :
    ∃ new, a'.trace = new ++ a.trace ∧ ∀ o ∈ new, o.isQuiet = true := by
  cases h with
  | ignored => exact ⟨[_], rfl, List.forall_mem_singleton.2 rfl⟩
  | goesOn =>
      exact ⟨[_, _], rfl, List.forall_mem_cons.2 ⟨rfl, List.forall_mem_singleton.2 rfl⟩⟩
  | ends => exact ⟨[_], rfl, List.forall_mem_singleton.2 rfl⟩

/-- The provisioner called back. -/
theorem ShapeKept.endProvisioning {b : Agent} (h : a.ShapeKept) (h_pending : a.pending = [])
    (h_works : a.isProvisioning = true) (h_same : b.pending = []) (h_trace : b.trace = a.trace) :
    (b.endProvisioning e).ShapeKept := by
  obtain ⟨t, h_t, h_end⟩ := h.idle h_pending
  obtain rfl := h_end h_works
  apply Keeps.schedule
  · exact h_same
  · have h_one : ∀ o ∈ [Occurrence.mk (.schedule .provisionEnd) e.now b.prelude b.protocol],
        o.isQuiet = true := List.forall_mem_singleton.2 rfl
    have h_more := h_t.quiet h_one
    rw [← h_trace] at h_more
    exact h_more
  · trivial
  · exact fun _ _ => trivial

theorem AgentStep.shapeKept (h : AgentStep c e a ev a') (h_possible : ev.Possible a e)
    (h_saysMerge : a.protocol.SaysMerge) (h_a : a.ShapeKept) : a'.ShapeKept := by
  cases h with
  | @ran t x _ h_pending _ h_idle _ h_ran =>
      have h_none := dequeued_pending e t x h_pending
      exact h_ran.shapeKept h_none h_idle h_saysMerge rfl rfl (h_a.waiting t x h_pending)
  | @heard _ handler x _ _ h_pending _ h_taken =>
      obtain ⟨new, h_trace, h_new⟩ := h_taken.adds
      have h_same : a'.pending = a.pending := by
        cases h_taken <;> rfl
      refine Keeps.of_waiting (h_same.trans h_pending) ?_ fun _ _ => trivial
      rw [h_trace]
      exact (h_a.waiting _ _ h_pending).quiet h_new
  | succeeded h_pending => exact h_a.endProvisioning h_pending h_possible h_pending rfl
  | failed h_pending => exact h_a.endProvisioning h_pending h_possible h_pending rfl

theorem shapeKept_boot (initTime loopTime : Nat) :
    (Agent.boot c initTime loopTime).ShapeKept := by
  apply Keeps.schedule
  · rfl
  · show PeriodsKept _ ([_] ++ [])
    exact (PeriodsKept.nil _).quiet (List.forall_mem_singleton.2 rfl)
  · trivial
  · exact fun _ _ => trivial

end Agent

theorem agentSystem_saysMerge {c : Config} {a : Agent} (h : (agentSystem c).Reachable a) :
    a.protocol.SaysMerge := by
  refine agentSystem_protocol (P := Protocol.SaysMerge) h (fun _ _ h_active => by cases h_active) ?_
  intro p h_p
  refine h_p.invariant Protocol.SaysMerge ?_ ?_
  · rintro p ⟨initTime, loopTime, rfl⟩ h_active
    cases h_active
  · rintro p ⟨e, ev⟩ p' h_saysMerge - h_step
    exact (stepProtocol_merger h_step).saysMerge h_saysMerge

theorem agentSystem_shapeKept {c : Config} {a : Agent} (h : (agentSystem c).Reachable a) :
    a.ShapeKept := by
  refine h.invariant_of_reachable Agent.ShapeKept ?_ ?_
  · rintro a ⟨initTime, loopTime, -, rfl⟩
    exact Agent.shapeKept_boot initTime loopTime
  · rintro a ⟨e, ev⟩ a' h_reach h_a ⟨-, h_possible⟩ h_next
    have h_one := agentSystem_oneTask h_reach.guarded_true
    have h_step := Agent.stepAgent_step h_one h_possible h_next
    exact h_step.shapeKept h_possible (agentSystem_saysMerge h_reach) h_a

/-- In every run the tasks between two consecutive rolls are a path of the task graph
    that ends with the task of the later roll; their rank strictly ascends, so none
    runs twice and the nonsync part has one slot at most; and what is transmitted is
    at most one sync message, and after it at most one merge message. -/
theorem period_is_one_path {c : Config} {a : Agent} (h : (agentSystem c).Reachable a) :
    ∀ o₁ o₂ seg, Between isRoll a.trace o₁ o₂ seg →
      (tasksOf seg).IsChain Task.HandsOver ∧
        (∃ t ∈ (tasksOf seg).head?, t.rolls = true) ∧
        (tasksOf seg).Pairwise (fun later earlier => earlier.rank < later.rank) ∧
        ∃ merge sync : Option SyncMessage, messagesOf seg = merge.toList ++ sync.toList ∧
          (∀ msg ∈ merge, msg.type.isMerge = true ∧ msg.type.doesCarrySync = false) ∧
          (∀ msg ∈ sync, msg.type.doesCarrySync = true) := by
  have h_kept := agentSystem_shapeKept h
  have h_one := agentSystem_oneTask h.guarded_true
  have h_trace : ∃ t, PeriodsKept t a.trace := by
    cases h_pending : a.pending with
    | nil =>
        obtain ⟨t, h_t, -⟩ := h_kept.idle h_pending
        exact ⟨t, h_t⟩
    | cons y rest =>
        have h_y : (y.1, y.2) ∈ a.pending := by
          rw [h_pending]
          exact List.mem_cons_self
        exact ⟨y.1, h_kept.waiting y.1 y.2 (h_one.pending_eq h_y)⟩
  obtain ⟨t, h_t⟩ := h_trace
  intro o₁ o₂ seg h_between
  have h_period := h_t.gaps o₁ o₂ seg h_between
  obtain ⟨merge, sync, h_msgs, h_merge, h_sync⟩ := h_period.sent
  refine ⟨h_period.path, h_period.ends, Task.ascending h_period.path, merge, sync, h_msgs, ?_, ?_⟩
  · intro msg h_msg
    have h_type := (h_merge msg h_msg).1
    exact ⟨h_type, MessageType.doesCarrySync_of_isMerge h_type⟩
  · exact fun msg h_msg => (h_sync msg h_msg).1

/-- The first period of unit five: it listens, fishes, and starts its next slot. -/
theorem period_is_one_path_catchesNine :
    ∃ a, (agentSystem unitFive).Reachable a ∧
      ∃ o₁ o₂ seg, Between isRoll a.trace o₁ o₂ seg ∧
        tasksOf seg = [.startSyncSlotAfterPrelude, .theRadioPreludeTaskWSync, .fishSlotEnd,
          .fishSlotStart, .endSyncSlotListen] ∧
        (tasksOf seg).Pairwise (fun later earlier => earlier.rank < later.rank) := by
  obtain ⟨a, h, ⟨o₁, o₂, seg⟩, h_gap, h_tasks⟩ :=
    System.Reachable.exists_of_play (M := agentSystem unitFive)
      (P := fun a => ∃ g ∈ lastGap isRoll a.trace,
        tasksOf g.2.2 = [.startSyncSlotAfterPrelude, .theRadioPreludeTaskWSync, .fishSlotEnd,
          .fishSlotStart, .endSyncSlotListen])
      catchesNine ⟨0, 0, Nat.le_refl 0, rfl⟩ (by decide +kernel)
  have h_between := between_of_lastGap h_gap
  exact ⟨a, h, o₁, o₂, seg, h_between, h_tasks,
    (period_is_one_path h o₁ o₂ seg h_between).2.2.1⟩

end SleepSync
