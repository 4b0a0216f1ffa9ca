/-
  SleepSync.TaskRuns

  The task machine in runs.  In every reachable state at most one task is
  pending, none while the provisioner works, and the radio receives only while
  the task that ends the listening is pending (`OneTask`).

  With that known, `AgentStep` says all that one step can do, and
  `Agent.invariant` is the rule by which the invariants of the task machine are
  proved: one case for each way a step can go, none of them with more than one
  task pending.  `Task.next` is the order of the tasks.
-/

import SleepSync.TaskSteps
import SleepSync.ScheduleBounds

namespace SleepSync

open Lib ScheduleParameters

/-- The tasks that a task can hand over to. -/
def Task.next : Task → List Task
  | .startSyncPeriodMaintain => [.startSyncPeriodMaintain, .theRadioPreludeTaskWSync]
  | .theRadioPreludeTaskWSync => [.startSyncSlotAfterPrelude]
  | .theRadioPreludeTaskWFish => [.fishSlotStart]
  | .startSyncSlotAfterPrelude | .startSyncSlotWithoutScheduledPrelude =>
      [.startSyncPeriodMaintain, .sendSync, .endSyncSlotListen]
  | .sendSync => [.endSyncSlotSend]
  | .endSyncSlotListen | .endSyncSlotSend =>
      [.theRadioPreludeTaskWSync, .mergerStartAndEnd, .fishSlotStart,
        .theRadioPreludeTaskWFish, .provisionStart]
  | .fishSlotStart => [.fishSlotEnd]
  | .fishSlotEnd | .mergerStartAndEnd | .provisionStart | .provisionEnd =>
      [.theRadioPreludeTaskWSync, .startSyncSlotWithoutScheduledPrelude]

namespace Agent

variable (c : Config) (e : Env) (a : Agent)

-- ============================================================================
-- What events can do
-- ============================================================================

/-- The unit when the timer runs `task`. -/
def dequeued (task : Task) (expiry : Nat) : Agent :=
  { a with clock := e.now, pending := a.pending.erase (task, expiry) }.record e (.run task)

/-- The receiver is off after a packet. -/
def received : Agent := { a with clock := e.now, radio := none }

/-- The protocol's event of a message. -/
def hears : MessageHandler → SyncMessage → ProtocolEvent
  | .syncSlot => .hearInSyncSlot
  | .fishSlot => .hearInFishSlot

/-- A message does not roll the schedule. -/
theorem hears_ne_rollPeriodForward {handler : MessageHandler} {msg : SyncMessage} :
    hears handler msg ≠ .rollPeriodForward := by
  cases handler <;> exact ProtocolEvent.noConfusion

/-- The valid message in a packet, if there is one. -/
def messageOf (packet : Option RadioBuffer) : Option SyncMessage :=
  match packet with
  | none => none
  | some buffer =>
      match Serializer.unserialize buffer with
      | .ok msg => msg
      | .error _ => none

/-- What a packet leaves. -/
inductive PacketTaken (handler : MessageHandler) (packet : Option RadioBuffer) : Agent → Prop
  | ignored : PacketTaken handler packet ((a.received e).startReceiving e handler)
  | goesOn {msg : SyncMessage} {p : Protocol} (h_msg : messageOf packet = some msg)
      (h_step : stepProtocol c a.protocol e (hears handler msg) = .ok p) :
      PacketTaken handler packet (({ (a.received e).record e (.handle handler msg) with
        protocol := p } : Agent).startReceiving e handler)
  | ends {msg : SyncMessage} {p : Protocol} (h_msg : messageOf packet = some msg)
      (h_step : stepProtocol c a.protocol e (hears handler msg) = .ok p) :
      PacketTaken handler packet
        { (a.received e).record e (.handle handler msg) with protocol := p }

/-- The task that ends what a handler listens to. -/
def endOf : MessageHandler → Task
  | .syncSlot => .endSyncSlotListen
  | .fishSlot => .fishSlotEnd

structure OneTask : Prop where
  pending : a.pending.length ≤ 1
  isProvisioning : a.isProvisioning = true → a.pending = []
  radio : ∀ handler, a.radio = some handler → ∃ expiry, a.pending = [(endOf handler, expiry)]

/-- A task that waits is the only one. -/
theorem OneTask.pending_eq {a : Agent} {t : Task} {expiry : Nat} (h : a.OneTask)
    (h_mem : (t, expiry) ∈ a.pending) : a.pending = [(t, expiry)] := by
  have h_length : a.pending.length = 1 := Nat.le_antisymm h.pending (List.length_pos_of_mem h_mem)
  obtain ⟨y, h_pending⟩ := List.length_eq_one_iff.1 h_length
  rw [h_pending, List.mem_singleton] at h_mem
  rw [h_pending, h_mem]

/-- What an event leaves, one task being pending at most. -/
inductive AgentStep : AgentEvent → Agent → Prop
  | ran {t : Task} {expiry : Nat} {a' : Agent} (h_pending : a.pending = [(t, expiry)])
      (h_expired : expiry ≤ e.now) (h_idle : a.isProvisioning = false)
      (h_radio : ∀ handler, a.radio = some handler → t = endOf handler)
      (h_ran : TaskRan c e (a.dequeued e t expiry) t a') :
      AgentStep (.timer t expiry) a'
  | heard {packet : Option RadioBuffer} {handler : MessageHandler} {expiry : Nat} {a' : Agent}
      (h_radio : a.radio = some handler) (h_pending : a.pending = [(endOf handler, expiry)])
      (h_idle : a.isProvisioning = false)
      (h_taken : PacketTaken c e a handler packet a') :
      AgentStep (.packet packet) a'
  | succeeded {provision : ProvisionedValue} {p : Protocol} (h_pending : a.pending = [])
      (h_radio : a.radio = none)
      (h_step : stepProtocol c a.protocol e (.provisionSucceed provision) = .ok p) :
      AgentStep (.provisionerSucceed provision)
        (({ a with clock := e.now, protocol := p } : Agent).endProvisioning e)
  | failed (h_pending : a.pending = []) (h_radio : a.radio = none) :
      AgentStep .provisionerFail (({ a with clock := e.now } : Agent).endProvisioning e)

section Fields

variable (task : Task) (expiry : Nat)

@[simp] theorem dequeued_trace : (a.dequeued e task expiry).trace =
    ⟨.run task, e.now, a.prelude, a.protocol⟩ :: a.trace := rfl

theorem dequeued_pending {a : Agent} (h : a.pending = [(task, expiry)]) :
    (a.dequeued e task expiry).pending = [] := by
  show a.pending.erase (task, expiry) = []
  rw [h, List.erase_cons_head]

end Fields

-- ============================================================================
-- Steps
-- ============================================================================

section Steps

variable {c : Config} {e : Env} {a a' : Agent} {ev : AgentEvent} {flt : TaskFault}

theorem ofProtocol_eq_ok {α : Type} {x : Except Fault α} {r : α} :
    ofProtocol x = .ok r ↔ x = .ok r := by
  cases x with
  | ok r₁ =>
      show (Except.ok r₁ : Except TaskFault α) = .ok r ↔ _
      rw [Except.ok.injEq, Except.ok.injEq]
  | error flt =>
      refine ⟨fun h => ?_, fun h => ?_⟩
      · cases h
      · cases h

theorem ofProtocol_eq_error {α : Type} {x : Except Fault α} :
    ofProtocol x = .error flt ↔ ∃ f, flt = .protocol f ∧ x = .error f := by
  cases x with
  | ok r =>
      refine ⟨fun h => ?_, ?_⟩
      · cases h
      · rintro ⟨f, -, h⟩
        cases h
  | error f =>
      show (Except.error (.protocol f) : Except TaskFault α) = .error flt ↔ _
      rw [Except.error.injEq]
      refine ⟨?_, ?_⟩
      · rintro rfl
        exact ⟨f, rfl, rfl⟩
      · rintro ⟨f, rfl, h⟩
        cases h
        rfl

theorem handle_step {handler : MessageHandler} {msg : SyncMessage} {r : HandlingResult}
    {p : Protocol} (h : a.handle c e handler msg = .ok (r, p)) :
    stepProtocol c a.protocol e (hears handler msg) = .ok p := by
  cases handler with
  | syncSlot => exact bind_return_eq_ok.2 ⟨(r, p), h, rfl⟩
  | fishSlot => exact bind_return_eq_ok.2 ⟨(r, p), h, rfl⟩

/-- A packet, of whatever content, never stops at an assertion of the hand-over. -/
theorem dispatch_outcome (c : Config) (e : Env) (a : Agent) (handler : MessageHandler)
    (packet : Option RadioBuffer) :
    Outcome ((a.received e).dispatch c e handler packet) (PacketTaken c e a handler packet)
      (fun flt => isHandOver flt = false) := by
  cases packet with
  | none => exact Outcome.ok PacketTaken.ignored
  | some buffer =>
      refine (ofProtocol_outcome (Q := fun r => Serializer.unserialize buffer = .ok r)
        (fun _ h => h) (fun _ => rfl)).bind ?_
      intro m _ h_m
      cases m with
      | none => exact Outcome.ok PacketTaken.ignored
      | some msg =>
          have h_msg : messageOf (some buffer) = some msg := by
            unfold messageOf
            dsimp only
            rw [h_m]
          refine (ofProtocol_outcome
            (Q := fun r => (a.received e).handle c e handler msg = .ok r)
            (fun _ h => h) (fun _ => rfl)).bind ?_
          rintro ⟨r, p⟩ - h_handle
          have h_step : stepProtocol c a.protocol e (hears handler msg) = .ok p :=
            handle_step h_handle
          refine Outcome.ite (fun _ => Outcome.pure (PacketTaken.goesOn h_msg h_step)) (fun _ => ?_)
          refine Outcome.require_bind (fun _ => rfl) (fun _ => ?_)
          exact Outcome.pure (PacketTaken.ends h_msg h_step)

/-- What a completed event leaves, when one task at most is pending. -/
theorem stepAgent_step (h_one : a.OneTask) (h_possible : ev.Possible a e)
    (h : stepAgent c a e ev = .ok a') : AgentStep c e a ev a' := by
  cases ev with
  | timer t expiry =>
      obtain ⟨h_mem, h_expired⟩ := h_possible
      have h_pending := h_one.pending_eq h_mem
      refine AgentStep.ran h_pending h_expired ?_ ?_ ?_
      · by_contra h_prov
        have h_nil := h_one.isProvisioning (eq_true_of_ne_false h_prov)
        rw [h_pending] at h_nil
        cases h_nil
      · intro handler h_radio
        obtain ⟨x', h_end⟩ := h_one.radio handler h_radio
        rw [h_pending] at h_end
        cases h_end
        rfl
      · exact (runTask_outcome c e (a.dequeued e t expiry) t).result h
  | packet received =>
      cases h_radio : a.radio with
      | none => exact absurd h_radio h_possible.1
      | some handler =>
          obtain ⟨x, h_pending⟩ := h_one.radio handler h_radio
          have h_idle : a.isProvisioning = false := by
            by_contra h_prov
            have h_nil := h_one.isProvisioning (eq_true_of_ne_false h_prov)
            rw [h_pending] at h_nil
            cases h_nil
          refine AgentStep.heard h_radio h_pending h_idle ?_
          unfold stepAgent at h
          dsimp only at h
          rw [h_radio] at h
          exact (dispatch_outcome c e a handler received).result h
  | provisionerSucceed provision =>
      have h_pending := h_one.isProvisioning h_possible
      have h_radio : a.radio = none := by
        rw [Option.eq_none_iff_forall_ne_some]
        intro handler h_on
        obtain ⟨x, h_end⟩ := h_one.radio handler h_on
        rw [h_pending] at h_end
        cases h_end
      obtain ⟨p, h_p, rfl⟩ := bind_return_eq_ok.1 h
      exact AgentStep.succeeded h_pending h_radio (ofProtocol_eq_ok.1 h_p)
  | provisionerFail =>
      have h_pending := h_one.isProvisioning h_possible
      have h_radio : a.radio = none := by
        rw [Option.eq_none_iff_forall_ne_some]
        intro handler h_on
        obtain ⟨x, h_end⟩ := h_one.radio handler h_on
        rw [h_pending] at h_end
        cases h_end
      cases h
      exact AgentStep.failed h_pending h_radio

/-- Only the timer's tasks stop at an assertion of the hand-over. -/
theorem stepAgent_fails (h : stepAgent c a e ev = .error flt) (h_flt : isHandOver flt = true) :
    ∃ t expiry, ev = .timer t expiry ∧ TaskFails c e (a.dequeued e t expiry) t flt := by
  cases ev with
  | timer t expiry =>
      exact ⟨t, expiry, rfl, (runTask_outcome c e (a.dequeued e t expiry) t).fault h⟩
  | packet received =>
      unfold stepAgent at h
      dsimp only at h
      split at h
      · cases h
      · have h_not := (dispatch_outcome c e a _ received).fault h
        rw [h_not] at h_flt
        cases h_flt
  | provisionerSucceed provision =>
      have h_not : isHandOver flt = false :=
        (ofProtocol_outcome (Q := fun _ => True) (E := fun flt => isHandOver flt = false)
          (fun _ _ => trivial) (fun _ => rfl)).fault (bind_return_eq_error.1 h)
      rw [h_not] at h_flt
      cases h_flt
  | provisionerFail => cases h

end Steps

-- ============================================================================
-- Which task follows which
-- ============================================================================

/-- One of `ts` is pending, or no task is. -/
def Awaits (ts : List Task) (a : Agent) : Prop :=
  a.pending = [] ∨ ∃ t ∈ ts, ∃ x, a.pending = [(t, x)]

section Awaits

variable {c : Config} {e : Env} {a a' : Agent} {t k : Task} {ts : List Task} {x d : Nat}

theorem Awaits.mem (h : a.Awaits ts) (h_pending : a.pending = [(t, x)]) : t ∈ ts := by
  rcases h with h_idle | ⟨k, h_k, y, h_one⟩
  · rw [h_idle] at h_pending
    cases h_pending
  · rw [h_one] at h_pending
    cases h_pending
    exact h_k

theorem awaits_schedule (h_idle : a.pending = []) (h_t : t ∈ ts) : (a.schedule e t d).Awaits ts :=
  Or.inr ⟨t, h_t, _, schedule_pending_of_idle e t d h_idle⟩

theorem SyncSlotNext.awaits {u : Bool} (h : SyncSlotNext c e a u a') (h_idle : a.pending = []) :
    a'.Awaits [.theRadioPreludeTaskWSync, .startSyncSlotWithoutScheduledPrelude] := by
  cases h with
  | afterPrelude => exact awaits_schedule (a := a.undo) h_idle (by simp)
  | abuts => exact awaits_schedule h_idle (by simp)

theorem NonSyncScheduled.awaits (h : NonSyncScheduled c e a a') (h_idle : a.pending = []) :
    a'.Awaits Task.endSyncSlotListen.next := by
  cases h with
  | omits => exact awaits_schedule (a := a.undo) h_idle (by simp [Task.next])
  | merges =>
      refine awaits_schedule ?_ (by simp [Task.next])
      split <;> exact h_idle
  | fishesNear => exact awaits_schedule (by exact h_idle) (by simp [Task.next])
  | fishesFar => exact awaits_schedule (by exact h_idle) (by simp [Task.next])
  | provisions => exact awaits_schedule h_idle (by simp [Task.next])
  | stalls => exact Or.inl h_idle

/-- What a task hands over to. -/
theorem TaskRan.awaits (h : TaskRan c e a t a') (h_idle : a.pending = []) :
    a'.Awaits t.next := by
  cases h with
  | maintained => exact awaits_schedule (by exact h_idle) (by simp [Task.next])
  | resumed => exact awaits_schedule (by exact h_idle) (by simp [Task.next])
  | preludesSync =>
      exact awaits_schedule (t := .startSyncSlotAfterPrelude) h_idle (by simp [Task.next])
  | preludesFish => exact awaits_schedule (t := .fishSlotStart) h_idle (by simp [Task.next])
  | pauses h_t =>
      refine awaits_schedule (t := .startSyncPeriodMaintain) (by exact h_idle) ?_
      rcases h_t with rfl | rfl <;> simp [Task.next]
  | sends h_t =>
      refine awaits_schedule (t := .sendSync) (by exact h_idle) ?_
      rcases h_t with rfl | rfl <;> simp [Task.next]
  | listens h_t =>
      refine awaits_schedule (by exact h_idle) ?_
      rcases h_t with rfl | rfl <;> simp [Task.next]
  | sent => exact awaits_schedule h_idle (by simp [Task.next])
  | listened _ _ _ h_next => exact h_next.awaits h_idle
  | sentOver _ _ h_next => exact h_next.awaits h_idle
  | fishes => exact awaits_schedule (t := .fishSlotEnd) h_idle (by simp [Task.next])
  | fished _ _ h_next => exact h_next.awaits h_idle
  | merged _ _ h_next => exact h_next.awaits h_idle
  | provisions => exact Or.inl h_idle
  | failsToProvision _ _ h_next => exact h_next.awaits h_idle
  | provisioned h_next => exact h_next.awaits h_idle

end Awaits

-- ============================================================================
-- One task is pending
-- ============================================================================

section OneTask

variable {c : Config} {e : Env} {a a' : Agent} {ev : AgentEvent}

/-- No task is pending, the radio is off, and so is the provisioner. -/
structure Idle (a : Agent) : Prop where
  pending : a.pending = []
  radio : a.radio = none
  isProvisioning : a.isProvisioning = false

/-- No task is pending, whatever the provisioner does. -/
theorem OneTask.of_none (h_pending : a.pending = []) (h_radio : a.radio = none) :
    a.OneTask where
  pending := by
    rw [h_pending]
    exact Nat.zero_le 1
  isProvisioning _ := h_pending
  radio handler h_on := by
    rw [h_radio] at h_on
    cases h_on

/-- One task on the timer, the provisioner off and the radio off. -/
theorem OneTask.of_waiting {t : Task} {expiry : Nat} (h_pending : a.pending = [(t, expiry)])
    (h_idle : a.isProvisioning = false) (h_radio : a.radio = none) : a.OneTask where
  pending := by rw [h_pending, List.length_singleton]
  isProvisioning h_on := by
    rw [h_idle] at h_on
    cases h_on
  radio handler h_on := by
    rw [h_radio] at h_on
    cases h_on

theorem OneTask.of_listening (handler : MessageHandler) {expiry : Nat}
    (h_pending : a.pending = [(endOf handler, expiry)]) (h_idle : a.isProvisioning = false)
    (h_radio : a.radio = some handler ∨ a.radio = none) : a.OneTask where
  pending := by rw [h_pending, List.length_singleton]
  isProvisioning h_on := by
    rw [h_idle] at h_on
    cases h_on
  radio handler' h_on := by
    rcases h_radio with h_eq | h_eq
    · rw [h_eq] at h_on
      cases h_on
      exact ⟨expiry, h_pending⟩
    · rw [h_eq] at h_on
      cases h_on

/-- Scheduling a task where there is none. -/
theorem Idle.schedule {b : Agent} (h : b.Idle) (e : Env) (t : Task) (d : Nat) :
    (b.schedule e t d).OneTask :=
  OneTask.of_waiting (schedule_pending_of_idle e t d h.pending) h.isProvisioning h.radio

theorem Idle.undo (h : a.Idle) : a.undo.Idle :=
  ⟨h.pending, h.radio, h.isProvisioning⟩

theorem SyncSlotNext.oneTask {u : Bool} (h : SyncSlotNext c e a u a') (h_a : a.Idle) :
    a'.OneTask := by
  cases h with
  | afterPrelude => exact h_a.undo.schedule e _ _
  | abuts => exact h_a.schedule e _ _

theorem NonSyncScheduled.oneTask (h : NonSyncScheduled c e a a') (h_a : a.Idle) :
    a'.OneTask := by
  have h_undo := h_a.undo
  cases h with
  | omits => exact h_undo.schedule e _ _
  | merges =>
      split
      · exact h_a.schedule e _ _
      · exact h_undo.schedule e _ _
  | fishesNear =>
      apply Idle.schedule
      exact ⟨h_a.pending, h_a.radio, h_a.isProvisioning⟩
  | fishesFar =>
      apply Idle.schedule
      exact ⟨h_a.pending, h_a.radio, h_a.isProvisioning⟩
  | provisions => exact h_a.schedule e _ _
  | stalls => exact OneTask.of_none h_a.pending h_a.radio

/-- Only the tasks that end a listening run with the radio on. -/
theorem radio_off {t : Task} (h_radio : ∀ handler, a.radio = some handler → t = endOf handler)
    (h_sync : t ≠ .endSyncSlotListen) (h_fish : t ≠ .fishSlotEnd) : a.radio = none := by
  rw [Option.eq_none_iff_forall_ne_some]
  intro handler h_on
  have h_t := h_radio handler h_on
  cases handler with
  | syncSlot => exact h_sync h_t
  | fishSlot => exact h_fish h_t

theorem TaskRan.oneTask {t : Task} (h : TaskRan c e a t a') (h_pending : a.pending = [])
    (h_idle : a.isProvisioning = false)
    (h_radio : ∀ handler, a.radio = some handler → t = endOf handler) : a'.OneTask := by
  cases h with
  | maintained _ h_off =>
      apply Idle.schedule
      exact ⟨h_pending, h_off, h_idle⟩
  | resumed _ h_off =>
      apply Idle.schedule
      exact ⟨h_pending, h_off, h_idle⟩
  | preludesSync =>
      have h_off := radio_off h_radio Task.noConfusion Task.noConfusion
      have h_next := Idle.schedule ⟨h_pending, h_off, h_idle⟩ e .startSyncSlotAfterPrelude
        virtualSlotDuration
      exact ⟨h_next.pending, h_next.isProvisioning, h_next.radio⟩
  | preludesFish =>
      have h_off := radio_off h_radio Task.noConfusion Task.noConfusion
      have h_next := Idle.schedule ⟨h_pending, h_off, h_idle⟩ e .fishSlotStart
        virtualSlotDuration
      exact ⟨h_next.pending, h_next.isProvisioning, h_next.radio⟩
  | pauses _ _ h_off =>
      have h_next : ((a.rolled e t).maintainSyncPeriod c e).OneTask := by
        apply Idle.schedule
        exact ⟨h_pending, h_off, h_idle⟩
      exact ⟨h_next.pending, h_next.isProvisioning, h_next.radio⟩
  | @sends _ k p p' delay _ _ h_off =>
      have h_next : (({ a.rolled e t with kind := k, protocol := p } : Agent).schedule e
          .sendSync delay).OneTask := by
        apply Idle.schedule
        exact ⟨h_pending, h_off, h_idle⟩
      exact ⟨h_next.pending, h_next.isProvisioning, h_next.radio⟩
  | listens =>
      have h_end := pending_append h_pending .endSyncSlotListen
      exact OneTask.of_listening .syncSlot (h_end _) h_idle (Or.inl rfl)
  | sent =>
      have h_off := radio_off h_radio Task.noConfusion Task.noConfusion
      apply Idle.schedule
      exact ⟨h_pending, h_off, h_idle⟩
  | listened _ _ _ h_next => exact h_next.oneTask ⟨h_pending, rfl, h_idle⟩
  | sentOver _ _ h_next =>
      have h_off := radio_off h_radio Task.noConfusion Task.noConfusion
      exact h_next.oneTask ⟨h_pending, h_off, h_idle⟩
  | fishes =>
      have h_end := pending_append h_pending .fishSlotEnd
      exact OneTask.of_listening .fishSlot (h_end _) h_idle (Or.inl rfl)
  | fished _ _ h_next => exact h_next.oneTask ⟨h_pending, rfl, h_idle⟩
  | merged _ _ h_next =>
      have h_off := radio_off h_radio Task.noConfusion Task.noConfusion
      exact h_next.oneTask ⟨h_pending, h_off, h_idle⟩
  | provisions =>
      have h_off := radio_off h_radio Task.noConfusion Task.noConfusion
      exact OneTask.of_none h_pending h_off
  | failsToProvision _ _ h_next =>
      have h_off := radio_off h_radio Task.noConfusion Task.noConfusion
      exact h_next.oneTask ⟨h_pending, h_off, h_idle⟩
  | provisioned h_next =>
      have h_off := radio_off h_radio Task.noConfusion Task.noConfusion
      exact h_next.oneTask ⟨h_pending, h_off, h_idle⟩

theorem AgentStep.oneTask (h : AgentStep c e a ev a') : a'.OneTask := by
  cases h with
  | ran h_pending _ h_idle h_radio h_ran =>
      exact h_ran.oneTask (dequeued_pending e _ _ h_pending) h_idle h_radio
  | heard _ h_pending h_idle h_taken =>
      cases h_taken with
      | ignored => exact OneTask.of_listening _ h_pending h_idle (Or.inl rfl)
      | goesOn => exact OneTask.of_listening _ h_pending h_idle (Or.inl rfl)
      | ends => exact OneTask.of_listening _ h_pending h_idle (Or.inr rfl)
  | succeeded h_pending h_radio =>
      apply Idle.schedule
      exact ⟨h_pending, h_radio, rfl⟩
  | failed h_pending h_radio =>
      apply Idle.schedule
      exact ⟨h_pending, h_radio, rfl⟩

end OneTask

-- ============================================================================
-- Invariants of the task machine
-- ============================================================================

/-- The shape of an invariant of the task machine: something of the pending task
    and its expiry, something where no task is pending, and something of all that
    has happened. -/
structure Keeps (W : Agent → Task → Nat → Prop) (N : Agent → Prop) (T : Occurrence → Prop)
    (a : Agent) : Prop where
  waiting : ∀ t x, a.pending = [(t, x)] → W a t x
  idle : a.pending = [] → N a
  trace : ∀ o ∈ a.trace, T o

section Keeps

variable {W : Agent → Task → Nat → Prop} {N : Agent → Prop} {T : Occurrence → Prop} {a : Agent}
  {e : Env} {t : Task} {x d : Nat}

theorem Keeps.of_waiting (h_pending : a.pending = [(t, x)]) (h_W : W a t x)
    (h_trace : ∀ o ∈ a.trace, T o) : Keeps W N T a where
  waiting t' x' h_eq := by
    rw [h_pending] at h_eq
    cases h_eq
    exact h_W
  idle h_eq := by
    rw [h_pending] at h_eq
    cases h_eq
  trace := h_trace

theorem Keeps.of_idle (h_pending : a.pending = []) (h_N : N a) (h_trace : ∀ o ∈ a.trace, T o) :
    Keeps W N T a where
  waiting t x h_eq := by
    rw [h_pending] at h_eq
    cases h_eq
  idle _ := h_N
  trace := h_trace

/-- Scheduling a task where there is none. -/
theorem Keeps.schedule (h_pending : a.pending = []) (h_W : W (a.schedule e t d) t (e.now + d))
    (h_T : T ⟨.schedule t, e.now, a.prelude, a.protocol⟩) (h_trace : ∀ o ∈ a.trace, T o) :
    Keeps W N T (a.schedule e t d) := by
  refine Keeps.of_waiting (schedule_pending_of_idle e t d h_pending) h_W ?_
  rw [schedule_trace]
  exact List.forall_mem_cons.2 ⟨h_T, h_trace⟩

end Keeps

end Agent


section Runs

variable {c : Config} {a : Agent} {ok : Agent → Env × AgentEvent → Prop}

theorem agentSystem_oneTask (h : ((agentSystem c).guarded ok).Reachable a) : a.OneTask := by
  refine h.invariant Agent.OneTask ?_ ?_
  · rintro a ⟨initTime, loopTime, -, rfl⟩
    apply Agent.Idle.schedule
    exact ⟨rfl, rfl, rfl⟩
  · rintro a ⟨e, ev⟩ a' h_one ⟨⟨-, h_possible⟩, -⟩ h_step
    exact (Agent.stepAgent_step h_one h_possible h_step).oneTask

/-- The rule for invariants of the task machine. -/
theorem Agent.invariant (I : Agent → Prop) (h : ((agentSystem c).guarded ok).Reachable a)
    (h_boot : ∀ initTime loopTime, initTime ≤ loopTime → I (Agent.boot c initTime loopTime))
    (h_step : ∀ a e ev a', I a → a.clock ≤ e.now → ev.Possible a e → ok a (e, ev) →
      Agent.AgentStep c e a ev a' → I a') : I a := by
  refine h.invariant_of_reachable I ?_ ?_
  · rintro a ⟨initTime, loopTime, h_le, rfl⟩
    exact h_boot initTime loopTime h_le
  · rintro a ⟨e, ev⟩ a' h_reach h_I ⟨⟨h_clock, h_possible⟩, h_ok⟩ h_next
    have h_one := agentSystem_oneTask h_reach
    exact h_step a e ev a' h_I h_clock h_possible h_ok
      (Agent.stepAgent_step h_one h_possible h_next)

end Runs

-- ============================================================================
-- A first period of fishing
-- ============================================================================

/-- The timer runs a task when it expires. -/
def onTime (task : Task) (expiry : Nat) : Env × AgentEvent :=
  (Env.quiet expiry, .timer task expiry)

/-- Unit five, with power to fish, up to its first fish slot: from 80100 to 80150
    in the period from 80000. -/
def untilFishing : List (Env × AgentEvent) :=
  [onTime .startSyncPeriodMaintain 0,
    onTime .theRadioPreludeTaskWSync 79950,
    onTime .startSyncSlotAfterPrelude 80000,
    onTime .endSyncSlotListen 80050,
    onTime .fishSlotStart 80100]

/-- `msg` on the air. -/
def bufferOf (msg : SyncMessage) : RadioBuffer :=
  Serializer.serializeSyncMessageIntoRadioBuffer msg Serializer.emptyBuffer

/-- `msg` arrives at `toa` and is handled at once. -/
def arrives (toa : Nat) (msg : SyncMessage) : Env × AgentEvent :=
  (arriving toa, .packet (some (bufferOf msg)))

/-- A catch of the worse clique nine in the first fish slot, and the next sync
    slot up to its end. -/
def catchesNine : List (Env × AgentEvent) :=
  untilFishing ++
    [arrives 80120 (masterSyncFrom 9 (.ofTicks 79975)),
      onTime .fishSlotEnd 80150,
      onTime .theRadioPreludeTaskWSync 159950,
      onTime .startSyncSlotAfterPrelude 160000]

/-- The end of the sync slot at 160050 in favour of merging, and the merge slot. -/
def mergesNine : List (Env × AgentEvent) :=
  [({ Env.quiet 160050 with mergeCoinToss := true }, .timer .endSyncSlotListen 160050),
    onTime .mergerStartAndEnd 160160]

end SleepSync
