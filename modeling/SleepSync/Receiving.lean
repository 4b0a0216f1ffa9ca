/-
  SleepSync.Receiving

  When the receiver is on.

  The radio turns the receiver off with every packet.  The dispatcher turns it
  on again in three places: after a packet with a wrong check sum, after one
  that is no message, and after a message whose handler wants to keep listening.
  A handler that does not ends the listening of its slot for good, though the
  slot goes on until its end task.

  Whether that has happened is not in the state of the unit, so it is noted
  beside it.
-/

import SleepSync.TaskAssertions
import SleepSync.Lib.Watch

namespace SleepSync

open Lib

namespace Agent

/-- The handler that receives the packet returns something else than to keep
    listening. -/
def endsListening (c : Config) (a : Agent) (l : Env × AgentEvent) : Bool :=
  match l.2, a.radio with
  | .packet received, some handler =>
      match messageOf received with
      | some msg =>
          match a.handle c l.1 handler msg with
          | .ok (r, _) => r ≠ .keepListening
          | .error _ => false
      | none => false
  | _, _ => false

/-- Whether a handler has ended the listening of the slot. -/
def noteListening (c : Config) (a : Agent) (l : Env × AgentEvent) (_ : Agent) (ended : Bool) :
    Bool :=
  match l.2 with
  | .packet _ => ended || a.endsListening c l
  | .timer .endSyncSlotListen _ | .timer .fishSlotEnd _ => false
  | _ => ended

end Agent

/-- The task machine, with whether a handler has ended the listening. -/
def listeningSystem (c : Config) : System (Agent × Bool) (Env × AgentEvent) TaskFault :=
  (agentSystem c).watched false (Agent.noteListening c)

instance (c : Config) (w : Agent × Bool) (l : Env × AgentEvent) :
    Decidable ((listeningSystem c).enabled w l) :=
  inferInstanceAs (Decidable ((agentSystem c).enabled w.1 l))

namespace Agent

variable {c : Config} {e : Env} {a a' : Agent}

theorem endsListening_of_none {handler : MessageHandler} {packet : Option RadioBuffer}
    (h_radio : a.radio = some handler) (h_msg : messageOf packet = none) :
    a.endsListening c (e, .packet packet) = false := by
  unfold endsListening
  dsimp only
  rw [h_radio]
  dsimp only
  rw [h_msg]

theorem endsListening_of_message {handler : MessageHandler} {packet : Option RadioBuffer}
    {msg : SyncMessage} {r : HandlingResult} {p : Protocol} (h_radio : a.radio = some handler)
    (h_msg : messageOf packet = some msg) (h_handle : a.handle c e handler msg = .ok (r, p)) :
    a.endsListening c (e, .packet packet) = decide (r ≠ .keepListening) := by
  unfold endsListening
  dsimp only
  rw [h_radio]
  dsimp only
  rw [h_msg]
  dsimp only
  rw [h_handle]

theorem messageOf_some {buffer : RadioBuffer} {m : Option SyncMessage}
    (h : Serializer.unserialize buffer = .ok m) : messageOf (some buffer) = m := by
  unfold messageOf
  dsimp only
  rw [h]

/-- After a packet the receiver is on, or off where its handler ended the
    listening. -/
theorem dispatch_radio {handler : MessageHandler} {packet : Option RadioBuffer}
    (h_radio : a.radio = some handler)
    (h : stepAgent c a e (.packet packet) = .ok a') :
    a'.radio = if a.endsListening c (e, .packet packet) then none else some handler := by
  unfold stepAgent at h
  dsimp only at h
  rw [h_radio] at h
  dsimp only at h
  cases packet with
  | none =>
      cases h
      rw [endsListening_of_none h_radio rfl]
      rfl
  | some buffer =>
      unfold dispatch at h
      obtain ⟨m, h_read, h⟩ := bind_eq_ok.1 h
      have h_m := messageOf_some (ofProtocol_eq_ok.1 h_read)
      cases m with
      | none =>
          cases h
          rw [endsListening_of_none h_radio h_m]
          rfl
      | some msg =>
          unfold handleValidMessageAndSetContinuation at h
          obtain ⟨⟨r, p⟩, h_handle, h⟩ := bind_eq_ok.1 h
          rw [endsListening_of_message h_radio h_m (ofProtocol_eq_ok.1 h_handle)]
          dsimp only at h
          by_cases h_keep : r = .keepListening
          · rw [if_pos h_keep] at h
            cases h
            rw [h_keep]
            rfl
          · rw [if_neg h_keep] at h
            obtain ⟨-, h⟩ := require_bind_eq_ok.1 h
            cases h
            rw [if_pos (decide_eq_true h_keep)]
            rfl

/-- What is known of the rest of a slot whose listening has been ended: only its
    end task is left. -/
def ListeningEnded (a : Agent) (ended : Bool) : Prop :=
  ended = true → a.radio = none ∧ ∃ handler expiry, a.pending = [(endOf handler, expiry)]

theorem noteListening_timer {t : Task} {x : Nat} {ended : Bool}
    (h : a.noteListening c (e, .timer t x) a' ended = true) :
    ended = true ∧ ∀ handler, t ≠ endOf handler := by
  cases t with
  | endSyncSlotListen => cases h
  | fishSlotEnd => cases h
  | _ =>
      refine ⟨h, fun handler => ?_⟩
      cases handler <;> exact Task.noConfusion

theorem PacketTaken.pending {handler : MessageHandler} {packet : Option RadioBuffer}
    (h : PacketTaken c e a handler packet a') : a'.pending = a.pending := by
  cases h <;> rfl

theorem AgentStep.listeningEnded {ev : AgentEvent} {ended : Bool} (h : AgentStep c e a ev a')
    (h_a : a.ListeningEnded ended) (h_next : stepAgent c a e ev = .ok a') :
    a'.ListeningEnded (a.noteListening c (e, ev) a' ended) := by
  intro h_ended
  cases h with
  | @ran t x _ h_pending =>
      -- only the end task of the slot is left, after which nothing is noted
      obtain ⟨h_was, h_other⟩ := noteListening_timer h_ended
      obtain ⟨-, handler, y, h_end⟩ := h_a h_was
      rw [h_pending] at h_end
      cases h_end
      exact absurd rfl (h_other handler)
  | @heard packet handler x _ h_radio h_pending _ h_taken =>
      have h_not : ended ≠ true := by
        intro h_was
        rw [(h_a h_was).1] at h_radio
        cases h_radio
      have h_ends : (ended || a.endsListening c (e, .packet packet)) = true := h_ended
      rw [eq_false_of_ne_true h_not, Bool.false_or] at h_ends
      have h_off := dispatch_radio h_radio h_next
      rw [if_pos h_ends] at h_off
      exact ⟨h_off, handler, x, h_taken.pending.trans h_pending⟩
  | succeeded h_pending =>
      obtain ⟨-, handler, y, h_end⟩ := h_a h_ended
      rw [h_pending] at h_end
      cases h_end
  | failed h_pending =>
      obtain ⟨-, handler, y, h_end⟩ := h_a h_ended
      rw [h_pending] at h_end
      cases h_end

/-- The radio is off in the tasks that assert it. -/
theorem stepAgent_ne_radioInUse {ev : AgentEvent} (h_one : a.OneTask)
    (h_possible : ev.Possible a e) : stepAgent c a e ev ≠ .error .radioInUse := by
  intro h
  cases stepAgent_stops h with
  | @ran t x _ h_stops =>
      have h_t : (t = .startSyncPeriodMaintain ∨ startsSyncSlot t) ∧ a.radio ≠ none := by
        cases h_stops with
        | handOver h_flt => cases h_flt
        | radioInUse h_t h_radio => exact ⟨h_t, h_radio⟩
        | send h_msg =>
            exfalso
            unfold syncSlotMessage at h_msg
            split at h_msg
            · obtain ⟨f, h_f, -⟩ := ofProtocol_eq_error.1 h_msg
              cases h_f
            · obtain ⟨f, h_f, -⟩ := ofProtocol_eq_error.1 h_msg
              cases h_f
            · obtain ⟨f, h_f, -⟩ := ofProtocol_eq_error.1 h_msg
              cases h_f
            · cases h_msg
      obtain ⟨h_t, h_on⟩ := h_t
      obtain ⟨handler, h_radio⟩ := Option.ne_none_iff_exists'.1 h_on
      obtain ⟨y, h_pending⟩ := h_one.radio handler h_radio
      obtain ⟨h_mem, -⟩ := h_possible
      rw [h_pending, List.mem_singleton] at h_mem
      cases h_mem
      rcases h_t with h_t | h_t | h_t <;> cases handler <;> cases h_t

end Agent

-- ============================================================================
-- Runs
-- ============================================================================

/-- In every run: the receiver is on only while the task that ends its slot is
    pending; once a handler has ended the listening it stays off in that slot;
    no assertion that the radio is not in use fails; and a packet that does not
    end the listening leaves the receiver on. -/
theorem receiver_on_in_slots {c : Config} {w : Agent × Bool}
    (h : (listeningSystem c).Reachable w) :
    (∀ handler, w.1.radio = some handler →
        ∃ expiry, w.1.pending = [(Agent.endOf handler, expiry)]) ∧
      (w.2 = true → w.1.radio = none) ∧
      (∀ e ev, (agentSystem c).enabled w.1 (e, ev) →
        (agentSystem c).step w.1 (e, ev) ≠ .error .radioInUse) ∧
      ∀ e packet a', (agentSystem c).enabled w.1 (e, .packet packet) →
        (agentSystem c).step w.1 (e, .packet packet) = .ok a' →
        a'.radio = if w.1.endsListening c (e, .packet packet) then none else w.1.radio := by
  have h_one : w.1.OneTask := agentSystem_oneTask h.unwatched.guarded_true
  have h_ended : w.1.ListeningEnded w.2 := by
    refine System.Reachable.watched_invariant Agent.ListeningEnded h.guarded_true ?_ ?_
    · intro a _ h_false
      cases h_false
    · rintro a ended ⟨e, ev⟩ a' h_reach h_a ⟨-, h_possible⟩ - h_next
      have h_step := Agent.stepAgent_step (agentSystem_oneTask h_reach.guarded_true) h_possible
        h_next
      exact h_step.listeningEnded h_a h_next
  refine ⟨h_one.radio, fun h_true => (h_ended h_true).1, ?_, ?_⟩
  · rintro e ev ⟨-, h_possible⟩
    exact Agent.stepAgent_ne_radioInUse h_one h_possible
  · rintro e packet a' ⟨-, h_on, -⟩ h_next
    obtain ⟨handler, h_radio⟩ := Option.ne_none_iff_exists'.1 h_on
    rw [h_radio]
    exact Agent.dispatch_radio h_radio h_next

/-- A packet that is no message, since its bytes are zero. -/
def garbledPacket : Option RadioBuffer :=
  some Serializer.emptyBuffer

/-- Unit five listens in its first sync slot: to noise, to a message of another
    type and to a sync message of clique three. -/
def listensToThree : List (Env × AgentEvent) :=
  [onTime .startSyncPeriodMaintain 0,
    onTime .theRadioPreludeTaskWSync 79950,
    onTime .startSyncSlotAfterPrelude 80000,
    (arriving 80005, .packet none),
    (arriving 80010, .packet garbledPacket),
    arrives 80015 { masterSyncFrom 3 (.ofTicks 0) with type := .controlScatterClique },
    arrives 80020 (masterSyncFrom 3 (.ofTicks 79980))]

/-- The first three leave the receiver on, the last ends the listening. -/
theorem receiver_on_in_slots_listensToThree :
    ∃ w, (listeningSystem unitFive).Reachable w ∧ w.2 = true ∧
      w.1.pending = [(.endSyncSlotListen, 80050)] ∧ w.1.radio = none := by
  have h_init : (listeningSystem unitFive).init (Agent.boot unitFive 0 0, false) :=
    ⟨⟨0, 0, Nat.le_refl 0, rfl⟩, rfl⟩
  obtain ⟨w, h, h_ended, h_pending⟩ :=
    System.Reachable.exists_of_play
      (P := fun w => w.2 = true ∧ w.1.pending = [(.endSyncSlotListen, 80050)])
      listensToThree h_init (by decide +kernel)
  exact ⟨w, h, h_ended, h_pending, (receiver_on_in_slots h).2.1 h_ended⟩

end SleepSync
